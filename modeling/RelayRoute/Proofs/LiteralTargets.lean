import RelayRoute.Network
import RelayRoute.Proofs.Preference
import RelayRoute.Proofs.SameTarget

/-!
# Literals under the resolver of the system

The resolver of a system asks its network for the addresses of a host, and for an IP literal the
network gives that address (`Network.KnowsLiterals`).  So it makes no difference to an attempt at an
IP address whether IPv4 is preferred: the address is printed, read back by the resolver, and comes
out as the host that it was before.

* `ResolvesOver.lookup_text`, `ResolvesOver.resolveIp` — an address is looked up by its text, and
  comes to the address that it stands for;
* `attempt_withPreference`, `pursue_withPreference` — once its address is known, an attempt does not
  depend on the preference;
* `Failure.IsUnderway`, `attempt_failure` — it does not fail for want of a record from then on,
  either;
* `Goal.Tells` — the two ways to tell an IP address, and `Goal.Tells.aim_preferring` that both lead
  to it;
* `Unaffected`, `Goal.Tells.unaffected` — what a ledger tells of two attempts with and without a
  preference;
* `Tunnel.literals_unaffected` — the main result.
-/

namespace RelayRoute

/-- Of one record it is that record which is taken. -/
theorem Ip.preferV4_nil (ip : Ip) : ip.preferV4 [] = ip.canonical := by
  cases h : ip.canonical <;> simp [preferV4, h, isV4]

/-! ## The resolver of the system -/

section

variable {ω κ σ τ π ρ : Type}

namespace Network

variable (network : Network ω κ σ)

/-- The addresses of a host, whatever the port, and however long it takes to find them. -/
def addresses (host : String) (world : ω) : Ending IoFault (List Ip) × ω :=
  match network.lookup host 0 none world with
  | (.done found, world) => (.done (found.map SocketAddress.ip), world)
  | (.failed (.io fault), world) => (.failed fault, world)
  | (.failed .expired, world) => (.abandoned, world)
  | (.abandoned, world) => (.abandoned, world)

/-- The network gives an IP literal the address that it is, and does nothing to find it. -/
def KnowsLiterals : Prop :=
  ∀ text ip port limit world, Ip.ofText? text = some ip →
    network.lookup text port limit world = (.done [SocketAddress.ofIp ip port], world)

variable {network}

/-- So the only address of an address is the address. -/
theorem addresses_of_literal (literals : network.KnowsLiterals) (ip : Ip) (world : ω) :
    network.addresses ip.text world = (.done [ip], world) := by
  have hip : (SocketAddress.ofIp ip 0).ip = ip := by
    cases ip <;> rfl
  rw [addresses, literals ip.text ip 0 none world ip.ofText?_text]
  simp [hip]

end Network

namespace Environment

variable {env : Environment ω τ π ρ} {network : Network ω κ σ}

/-- The resolver of the system asks a network. -/
def ResolvesOver (env : Environment ω τ π ρ) (network : Network ω κ σ) : Prop :=
  ∀ host world, env.lookup env.systemResolver host world = network.addresses host world

/-- The resolver of the system finds the address of a text of that address. -/
theorem ResolvesOver.lookup_text (resolves : env.ResolvesOver network)
    (literals : network.KnowsLiterals) (ip : Ip) (world : ω) :
    env.lookup env.systemResolver ip.text world = (.done [ip], world) := by
  rw [resolves, Network.addresses_of_literal literals]

/-- Where IPv4 is preferred, an address leads to the address that it stands for. -/
theorem ResolvesOver.resolveIp (resolves : env.ResolvesOver network)
    (literals : network.KnowsLiterals) (ip : Ip) (world : ω) :
    env.resolveIp env.systemResolver ip world = (.done ip.canonical, world) := by
  simp only [Environment.resolveIp, resolvePreferred, records,
    resolves.lookup_text literals, Ending.map, Ip.preferV4_nil]

end Environment

end

/-- A system without a network knows IP literals. -/
theorem Scripted.isolation_knowsLiterals : isolation.KnowsLiterals := by
  intro text ip port limit stage hread
  have hfound : literalAddresses text port = .ok [SocketAddress.ofIp ip port] := by
    unfold literalAddresses
    rw [hread]
  simp only [isolation, hfound]

/-- The resolver of a rehearsal's system asks it. -/
theorem Scripted.environment_resolvesOver : environment.ResolvesOver isolation := by
  intro host stage
  show Resolver.system.lookup host stage = _
  unfold Resolver.lookup Network.addresses isolation
  dsimp only
  cases literalAddresses host 0 <;> rfl

/-! ## Preferences -/

namespace Tunnel

variable {ω τ π ρ : Type} (env : Environment ω τ π ρ) (tunnel : Tunnel τ π ρ) (prefers : Bool)

/-- The tunnel with or without a preference for IPv4. -/
def withPreference (tunnel : Tunnel τ π ρ) (prefers : Bool) : Tunnel τ π ρ :=
  { tunnel with prefersIpv4 := prefers }

@[simp] theorem route_withPreference : (tunnel.withPreference prefers).route = tunnel.route :=
  rfl

@[simp] theorem resolver_withPreference :
    (tunnel.withPreference prefers).resolver = tunnel.resolver :=
  rfl

/-- What an operation comes to, with or without a preference of the tunnel. -/
def resultWith {β : Type} (prefers : Bool) (result : β × Tunnel τ π ρ × ω) :
    β × Tunnel τ π ρ × ω :=
  (result.1, result.2.1.withPreference prefers, result.2.2)

/-- Renewing a transport does not depend on the preference. -/
theorem renew_withPreference (world : ω) :
    renew env (tunnel.withPreference prefers) world =
      resultWith prefers (renew env tunnel world) := by
  simp only [renew, withPreference]
  rcases env.setUp tunnel.timeout tunnel.settings (env.create tunnel.route.head world).1
    (env.create tunnel.route.head world).2 with ⟨reply, transport, later⟩
  cases reply <;> rfl

/-- Making a tunnel ready does not depend on the preference: it looks at the phase, at the
transport, and at what transports are set up with. -/
theorem ready_withPreference (world : ω) :
    ready env (tunnel.withPreference prefers) world =
      resultWith prefers (ready env tunnel world) := by
  obtain ⟨route, transport, destination, phase, own, resolver, timeout, settings⟩ := tunnel
  have hrenew (held : Option τ) (phase : Phase) := renew_withPreference env
    ⟨route, held, destination, phase, own, resolver, timeout, settings⟩ prefers
  cases transport with
  | none =>
      cases phase with
      | connected => exact hrenew none .unbound world
      | _ => exact hrenew none _ world
  | some held =>
      cases phase with
      | connected =>
          simp only [ready, withPreference]
          rcases env.close held world with ⟨reply, carried, later⟩
          cases reply with
          | ok _ => exact hrenew none .unbound later
          | error fault => rfl
      | _ =>
          simp only [ready, withPreference]
          split
          · rfl
          · split
            · exact hrenew (some held) _ world
            · rfl

/-- An attempt at an address does not depend on the preference. -/
theorem attempt_withPreference (target : Address) (limit : Option (Option Duration)) (world : ω) :
    attempt env (tunnel.withPreference prefers) target limit world =
      resultWith prefers (attempt env tunnel target limit world) := by
  rcases hready : ready env tunnel (env.copyRoute tunnel.route world).2 with
    ⟨reply, prepared, readied⟩
  have hready' : ready env (tunnel.withPreference prefers)
      (env.copyRoute (tunnel.withPreference prefers).route world).2 =
      (reply, prepared.withPreference prefers, readied) := by
    rw [route_withPreference, ready_withPreference, hready]
    rfl
  cases reply with
  | error failure =>
      rw [attempt_of_ready_error env tunnel hready, attempt_of_ready_error env _ hready']
      rfl
  | ok transport =>
      rcases hlimit : limitDial env limit transport readied with ⟨limited, started⟩
      rcases hwalk : env.walk tunnel.route target limited started with
        ⟨ending, walked, carried, finished⟩
      rw [attempt_of_ready env tunnel hready hlimit hwalk,
        attempt_of_ready env _ hready' hlimit hwalk]
      cases ending <;> rfl

/-- An attempt that finds its address does not depend on the preference from then on. -/
theorem pursue_withPreference {goal : Goal} {target : Address} {world sought : ω}
    (h : aim env (tunnel.withPreference prefers) goal world = (.done target, sought)) :
    pursue env (tunnel.withPreference prefers) goal world =
      resultWith prefers (attempt env tunnel target goal.limit? sought) := by
  rw [pursue_eq, h]
  exact attempt_withPreference env tunnel prefers target goal.limit? sought

end Tunnel

/-! ## Failures at a known address -/

/-- A failure that comes of the use of transports and proxies, once it is known where to connect. -/
def Failure.IsUnderway : Failure → Prop
  | .invalidState _ | .relay _ _ | .io _ => True
  | _ => False

namespace Environment

variable {ω τ π ρ : Type} (env : Environment ω τ π ρ) {target : Address} {transport : τ}
  {world : ω} {failure : Failure}

theorem ask_failure {hop : Proxy π} (h : (env.ask hop target transport world).1 = .failed failure) :
    failure.IsUnderway := by
  unfold ask at h
  dsimp only at h
  split at h
  · cases h
  · obtain rfl := Ending.failed.inj h
    exact trivial
  · cases h

/-- Going on from a proxy fails underway.  The induction is on the proxies that are left. -/
theorem relay_failure {reached : Proxy π} {others : List (Proxy π)}
    (h : (env.relay target reached others transport world).1 = .failed failure) :
    failure.IsUnderway := by
  induction others generalizing reached transport world with
  | nil => exact env.ask_failure h
  | cons next others ih =>
      rcases hasked : env.ask reached next.address transport world with
        ⟨ending, proxy, carried, later⟩
      simp only [relay, hasked] at h
      cases ending with
      | done _ => exact ih h
      | failed fault => exact env.ask_failure (by rw [hasked]; exact h)
      | abandoned => cases h

/-- Walking a route fails underway. -/
theorem walk_failure {route : Route π}
    (h : (env.walk route target transport world).1 = .failed failure) : failure.IsUnderway := by
  unfold walk at h
  split at h
  · obtain rfl := Ending.failed.inj h
    exact trivial
  · rcases hdialed : env.dial route.head transport world with ⟨ending, state, carried, later⟩
    simp only [hdialed] at h
    cases ending with
    | done _ => exact env.relay_failure h
    | failed fault =>
        obtain rfl := Ending.failed.inj h
        exact trivial
    | abandoned => cases h

end Environment

namespace Tunnel

variable {ω τ π ρ : Type} (env : Environment ω τ π ρ) (tunnel : Tunnel τ π ρ)

/-- Making a tunnel ready fails underway. -/
theorem ready_failure {failure : Failure} {prepared : Tunnel τ π ρ} {world later : ω}
    (h : ready env tunnel world = (.error failure, prepared, later)) : failure.IsUnderway := by
  have hreadied := readied env tunnel world
  rw [h] at hreadied
  generalize hresult : ((.error failure : Except Failure τ), prepared, later) = result at hreadied
  cases hreadied with
  | refused _ =>
      obtain ⟨rfl, -⟩ := by simpa using hresult
      exact trivial
  | kept => simp at hresult
  | unreleased _ _ _ =>
      obtain ⟨rfl, -⟩ := by simpa using hresult
      exact trivial
  | renewed _ =>
      rcases renew_changes env _ hresult.symm with ⟨_, hreply, -⟩ | ⟨_, hreply, -⟩
      · cases hreply
      · obtain rfl := Except.error.inj hreply
        exact trivial

/-- An attempt at an address fails underway. -/
theorem attempt_failure {target : Address} {limit : Option (Option Duration)} {failure : Failure}
    {world : ω} (h : (attempt env tunnel target limit world).1 = .failed failure) :
    failure.IsUnderway := by
  have hattempted := attempted env tunnel target limit world
  generalize attempt env tunnel target limit world = result at h hattempted
  cases hattempted with
  | unready is_ready =>
      obtain rfl := Ending.failed.inj h
      exact ready_failure env tunnel is_ready
  | connected => cases h
  | stranded _ _ is_walked _ => exact env.walk_failure (by rw [is_walked]; exact h)

end Tunnel

/-! ## Attempts at literals -/

namespace Tunnel

variable {ω τ π ρ ν : Type} (env : Environment ω τ π ρ) (note : τ → ω → ν)

/-- What was entered before an attempt makes no difference to it. -/
theorem attempt_of_same_world (tunnel : Tunnel (Numbered τ) (Numbered π) ρ) (target : Address)
    (limit : Option (Option Duration)) {a b : Ledger ω ν} (hworld : a.world = b.world)
    (hnext : a.next = b.next) {ending ending' : Ending Failure Unit}
    {after after' : Tunnel (Numbered τ) (Numbered π) ρ} {later later' : Ledger ω ν}
    (hfirst : attempt (env.recorded note) tunnel target limit a = (ending, after, later))
    (hsecond : attempt (env.recorded note) tunnel target limit b = (ending', after', later')) :
    ending = ending' ∧ after = after' ∧ later.world = later'.world ∧
      ∀ made, later.calls = a.calls ++ made → later'.calls = b.calls ++ made := by
  let both := (Simulation.refl env).recorded note note a.calls b.calls 0 0
  have hattempts := both.attempt target limit (Simulation.refl_tunnels tunnel)
    ⟨hworld, Simulation.lockstep_of_next hnext⟩
  rw [hfirst, hsecond] at hattempts
  obtain ⟨hending, hafter, hlater, hlockstep⟩ := hattempts
  exact ⟨hending, Simulation.eq_of_refl_tunnels hafter, hlater, fun _ => hlockstep.calls_eq⟩

/-- An attempt is told an IP address and a port: by a text that spells the address, or by an
endpoint. -/
inductive Goal.Tells (ip : Ip) (port : UInt16) : Goal → Prop
  | text {text : String} (spelled : ip.IsSpelled text) : Tells ip port (.host text port)
  | endpoint {address : SocketAddress} (limit : Option Duration) (is_ip : address.ip = ip)
    (is_port : address.port = port) : Tells ip port (.endpoint (.inet address) limit)

/-- The address whose text is looked up where IPv4 is preferred.  A text is read as a host before
that, and so it is the address that the host is. -/
def Goal.sought (ip : Ip) : Goal → Ip
  | .host _ _ => ip.canonical
  | .endpoint _ _ => ip

/-- Its host is that of the address that is told. -/
theorem Goal.ofIp_sought (ip : Ip) (goal : Goal) : Host.ofIp (goal.sought ip) = Host.ofIp ip := by
  cases goal with
  | host text port => exact Host.ofIp_canonical ip
  | endpoint endpoint limit => rfl

/-- The address that is told is the target, unless something else is found by its text. -/
theorem Goal.Tells.aim_eq {env : Environment ω τ π ρ} {tunnel : Tunnel τ π ρ} {ip : Ip}
    {port : UInt16} {goal : Goal} (h : goal.Tells ip port) (world : ω) :
    aim env tunnel goal world =
      normalize env tunnel (goal.sought ip).text ⟨Host.ofIp ip, port⟩ world := by
  cases h with
  | text spelled =>
      rw [aim_of_ofText (Host.ofText_of_isSpelled spelled), Host.text_ofIp]
      rfl
  | endpoint limit is_ip is_port =>
      obtain rfl := is_ip
      obtain rfl := is_port
      rfl

/-- Without a preference nothing is looked up. -/
theorem Goal.Tells.aim_indifferent {env : Environment ω τ π ρ} {tunnel : Tunnel τ π ρ} {ip : Ip}
    {port : UInt16} {goal : Goal} (h : goal.Tells ip port)
    (indifferent : tunnel.prefersIpv4 = false) (world : ω) :
    aim env tunnel goal world = (.done ⟨Host.ofIp ip, port⟩, world) := by
  rw [h.aim_eq, normalize_of_not_preferred indifferent]

variable {env note} {κ σ : Type} {network : Network ω κ σ}

/-- Where IPv4 is preferred, the address that is told is the target all the same. -/
theorem Goal.Tells.aim_preferring (resolves : env.ResolvesOver network)
    (literals : network.KnowsLiterals) {tunnel : Tunnel τ π ρ}
    (hresolver : tunnel.resolver = env.systemResolver) (prefers : tunnel.prefersIpv4 = true)
    {ip : Ip} {port : UInt16} {goal : Goal} (h : goal.Tells ip port) (world : ω) :
    aim env tunnel goal world = (.done ⟨Host.ofIp ip, port⟩, world) := by
  have hfound : env.resolvePreferred tunnel.resolver (goal.sought ip).text world =
      (.done (goal.sought ip).canonical, world) := by
    rw [hresolver]
    exact resolves.resolveIp literals (goal.sought ip) world
  rw [h.aim_eq]
  simp only [normalize, prefers, if_true, hfound, Ending.map, Host.ofIp_canonical,
    Goal.ofIp_sought]

/-- The lookup that finds the address of a literal. -/
def Goal.finding (ip : Ip) (goal : Goal) : Call :=
  .lookup (goal.sought ip).text (.done [goal.sought ip])

/-- A ledger then tells of one lookup. -/
theorem Goal.Tells.aim_recorded (resolves : env.ResolvesOver network)
    (literals : network.KnowsLiterals) {tunnel : Tunnel (Numbered τ) (Numbered π) ρ}
    (hresolver : tunnel.resolver = env.systemResolver) (prefers : tunnel.prefersIpv4 = true)
    {ip : Ip} {port : UInt16} {goal : Goal} (h : goal.Tells ip port) (ledger : Ledger ω ν) :
    aim (env.recorded note) tunnel goal ledger =
      (.done ⟨Host.ofIp ip, port⟩, ledger.enter (goal.finding ip) none none ledger.world) := by
  have hlookup : env.lookup tunnel.resolver (goal.sought ip).text ledger.world =
      (.done [goal.sought ip], ledger.world) := by
    rw [hresolver]
    exact resolves.lookup_text literals (goal.sought ip) ledger.world
  have hanswered : answered (goal.sought ip).text port (.done [goal.sought ip]) =
      .done ⟨Host.ofIp ip, port⟩ := by
    rw [answered, Ip.preferV4_nil, Host.ofIp_canonical, Goal.ofIp_sought]
  rw [h.aim_eq, normalize_recorded prefers hlookup, hanswered]
  rfl

/-- **It makes no difference to an attempt at the address whether IPv4 is preferred.**  The address
is found in both cases, in the same world, and the rest does not depend on the preference. -/
theorem Goal.Tells.pursue_eq (resolves : env.ResolvesOver network)
    (literals : network.KnowsLiterals) {tunnel : Tunnel τ π ρ}
    (hresolver : tunnel.resolver = env.systemResolver) {ip : Ip} {port : UInt16} {goal : Goal}
    (h : goal.Tells ip port) (world : ω) :
    pursue env (tunnel.withPreference true) goal world =
      resultWith true (pursue env (tunnel.withPreference false) goal world) := by
  have haim : aim env (tunnel.withPreference true) goal world =
      (.done ⟨Host.ofIp ip, port⟩, world) :=
    h.aim_preferring resolves literals ((resolver_withPreference ..).trans hresolver) rfl world
  rw [pursue_withPreference _ _ _ haim, pursue_withPreference _ _ _ (h.aim_indifferent rfl world)]
  rfl

/-- Two attempts from one ledger on, of which the first has looked an address up and has found it,
and that are the same but for that. -/
structure Unaffected (env : Environment ω τ π ρ) (note : τ → ω → ν) (route : Route π)
    (tunnel : Tunnel (Numbered τ) (Numbered π) ρ) (goal : Goal) (ledger : Ledger ω ν) (ip : Ip)
    (target : Address)
    (first second : Ending Failure Unit × Tunnel (Numbered τ) (Numbered π) ρ × Ledger ω ν) :
    Prop where
  ending : first.1 = second.1
  resolved : ∀ host, first.1 ≠ .failed (.hostUnresolvable host)
  tunnels : first.2.1 = second.2.1.withPreference true
  worlds : first.2.2.world = second.2.2.world
  /-- The target is stored by both, and both ask the last proxy for it. -/
  calls : ∃ made, (∀ call ∈ made, ¬ call.IsLookup) ∧
    first.2.2.calls = ledger.calls ++ goal.finding ip :: made ∧
    second.2.2.calls = ledger.calls ++ made ∧
    LeadsTo env note route (tunnel.withPreference true) goal ledger (goal.finding ip :: made)
      target first ∧
    LeadsTo env note route (tunnel.withPreference false) goal ledger made target second

/-- The attempts of a tunnel with and without a preference, where the ledger tells of the lookup.
Both are those of the tunnel as it is, at the same target, but for what was entered before. -/
theorem Goal.Tells.unaffected (resolves : env.ResolvesOver network)
    (literals : network.KnowsLiterals) {tunnel : Tunnel (Numbered τ) (Numbered π) ρ}
    (hresolver : tunnel.resolver = env.systemResolver) {route : Route π}
    (hroute : tunnel.route = route.numbered) {ip : Ip} {port : UInt16} {goal : Goal}
    (h : goal.Tells ip port) (ledger : Ledger ω ν) :
    Unaffected env note route tunnel goal ledger ip ⟨Host.ofIp ip, port⟩
      (pursue (env.recorded note) (tunnel.withPreference true) goal ledger)
      (pursue (env.recorded note) (tunnel.withPreference false) goal ledger) := by
  let target : Address := ⟨Host.ofIp ip, port⟩
  let sought : Ledger ω ν := ledger.enter (goal.finding ip) none none ledger.world
  have haim : aim (env.recorded note) (tunnel.withPreference true) goal ledger =
      (.done target, sought) :=
    h.aim_recorded resolves literals ((resolver_withPreference ..).trans hresolver) rfl ledger
  have haim' : aim (env.recorded note) (tunnel.withPreference false) goal ledger =
      (.done target, ledger) :=
    h.aim_indifferent rfl ledger
  rcases hattempt : attempt (env.recorded note) tunnel target goal.limit? sought with
    ⟨ending, after, found⟩
  rcases hattempt' : attempt (env.recorded note) tunnel target goal.limit? ledger with
    ⟨ending', after', later⟩
  obtain ⟨rfl, rfl, hworld, hsame⟩ := attempt_of_same_world env note tunnel target goal.limit?
    (ledger.world_enter (goal.finding ip) none none _).symm rfl hattempt' hattempt
  have hfirst := pursue_withPreference (env.recorded note) tunnel true haim
  have hsecond := pursue_withPreference (env.recorded note) tunnel false haim'
  rw [hattempt] at hfirst
  rw [hattempt'] at hsecond
  have hsought : sought.calls = ledger.calls ++ [goal.finding ip] := ledger.calls_enter ..
  have hroutes (prefers : Bool) : (tunnel.withPreference prefers).route = route.numbered :=
    (route_withPreference ..).trans hroute
  obtain ⟨others, hfound, -, hleads⟩ := leadsTo_of_aim (hroutes true) hfirst haim hsought
  obtain ⟨made, hlater, hmade, hleads'⟩ :=
    leadsTo_of_aim (hroutes false) hsecond haim' (List.append_nil _).symm
  rw [List.nil_append] at hlater hleads'
  obtain rfl : made = others := by
    have hmeet := hsame made hlater
    rw [hfound, hsought, List.append_assoc, List.append_cancel_left_eq,
      List.append_cancel_left_eq] at hmeet
    exact hmeet.symm
  rw [hfirst, hsecond]
  refine ⟨rfl, ?_, rfl, hworld.symm, made, hmade, hfound, hlater, hleads, hleads'⟩
  intro host hunresolvable
  have hunderway : (Failure.hostUnresolvable host).IsUnderway := by
    apply attempt_failure (env.recorded note) tunnel
    rw [hattempt]
    exact hunresolvable
  exact hunderway

/-- **A preference for IPv4 makes no difference to IP literals.**  The resolver of the system finds
for an address the address that it stands for, whatever the address is.  So an attempt at an IP
address, told by a literal with or without brackets or by an endpoint, is the same whether the
tunnel prefers IPv4 or not: it ends alike, and leaves the same tunnel and the same world.  A ledger
tells the two apart by a single lookup, of the text of the address; all other calls are the same,
both attempts store and ask for the same target, and the host is never unresolvable. -/
theorem literals_unaffected (resolves : env.ResolvesOver network)
    (literals : network.KnowsLiterals) :
    (∀ ip world, env.resolveIp env.systemResolver ip world = (.done ip.canonical, world)) ∧
    ∀ ip port (goal : Goal), goal.Tells ip port →
      (∀ (tunnel : Tunnel τ π ρ) world, tunnel.resolver = env.systemResolver →
        pursue env (tunnel.withPreference true) goal world =
          resultWith true (pursue env (tunnel.withPreference false) goal world)) ∧
      ∀ (tunnel : Tunnel (Numbered τ) (Numbered π) ρ) (route : Route π) (ledger : Ledger ω ν),
        tunnel.resolver = env.systemResolver → tunnel.route = route.numbered →
        Unaffected env note route tunnel goal ledger ip ⟨Host.ofIp ip, port⟩
          (pursue (env.recorded note) (tunnel.withPreference true) goal ledger)
          (pursue (env.recorded note) (tunnel.withPreference false) goal ledger) := by
  refine ⟨resolves.resolveIp literals, ?_⟩
  intro ip port goal htells
  constructor
  · intro tunnel world hresolver
    exact htells.pursue_eq resolves literals hresolver world
  · intro tunnel route ledger hresolver hroute
    exact htells.unaffected resolves literals hresolver hroute ledger

/-- A bracketed IPv6 literal is stored and asked for as it is, with and without a preference. -/
theorem accepts_bracketed_literal :
    let env := Scripted.environment.recorded fun _ _ => ()
    let ip : Ip := .v6 ⟨[0x2001, 0xdb8, 0, 0, 0, 0, 0, 1], rfl⟩
    let target : Address := ⟨Host.ofIp ip, 443⟩
    let (new, ledger) := create env (Scripted.throughTwo {}).numbered true (.start {})
    let (ending, preferring, found) :=
      pursue env (new.withPreference true) (.host "[2001:db8::1]" 443) ledger
    let (ending', indifferent, later) :=
      pursue env (new.withPreference false) (.host "[2001:db8::1]" 443) ledger
    ending = ending' ∧ preferring = indifferent.withPreference true ∧
      indifferent.destination = some target ∧ (target, 1) ∈ later.requests ∧
      ∃ made, found.calls = ledger.calls ++ .lookup ip.text (.done [ip]) :: made ∧
        later.calls = ledger.calls ++ made := by
  intro env ip target
  have hspelled : ip.IsSpelled "[2001:db8::1]" := ⟨"2001:db8::1", by decide +kernel, .inr rfl⟩
  obtain ⟨hending, -, htunnels, -, made, -, hfound, hlater, -⟩ :=
    ((literals_unaffected Scripted.environment_resolvesOver Scripted.isolation_knowsLiterals).2
      ip 443 _ (.text hspelled)).2
      (create env (Scripted.throughTwo {}).numbered true (.start {})).1 (Scripted.throughTwo {})
      (create env (Scripted.throughTwo {}).numbered true (.start {})).2 rfl rfl
  refine ⟨hending, htunnels, ?_, ?_, made, hfound, hlater⟩
  · decide +kernel
  · decide +kernel

end Tunnel

end RelayRoute
