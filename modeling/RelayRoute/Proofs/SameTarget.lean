import RelayRoute.Proofs.Journal
import RelayRoute.Proofs.Lockstep
import RelayRoute.Proofs.Rehearsal

/-!
# Two ways to one target

An IP address is connected to by a text that spells it or by an endpoint, and both ways come to the
same: the text and the endpoint are one host, and the limit that comes with an endpoint is set right
before the dial.  Where a transport has that limit already, setting it is the only thing that tells
the two ways apart, and by assumption (`Simulation.Overlooks`) nobody takes notice of it.

Where IPv4 is preferred the address is looked up by its text, and here an IPv6 address that stands
for an IPv4 one has two of them: a text is the host, which is the IPv4 address, and an endpoint is
the address as it is.

* `Host.ofText_of_isSpelled` — the text and the endpoint are one host;
* `Together` — two tunnels that nobody can tell apart; `ready_together` and `walk_together` say that
  they are made ready, and walk, with the same calls;
* `SameTarget`, `attempt_limited` — attempts at one address come to the same, but that one limits
  its dial (`LimitsOnce`);
* `same_of_records` — so do attempts whose lookups find the same records;
* `same_target` — the main result, and `unresolved_names_differ` a case in which the errors differ.
-/

namespace RelayRoute

/-! ## Addresses and their texts -/

/-- A text spells an address if it is a literal of it, bracketed or not. -/
def Ip.IsSpelled (ip : Ip) (text : String) : Prop :=
  ∃ literal, Ip.ofText? literal = some ip ∧ (text = literal ∨ text = "[" ++ literal ++ "]")

/-- A text that spells an address is the host that the address is. -/
theorem Host.ofText_of_isSpelled {ip : Ip} {text : String} (h : ip.IsSpelled text) :
    ofText text = .ok (ofIp ip) := by
  obtain ⟨literal, hip, htext⟩ := h
  rcases htext with rfl | rfl
  · exact read_of_literal hip (stripBrackets_literal hip)
  · have hbrackets : ("[" ++ literal ++ "]").toList = '[' :: (literal.toList ++ [']']) := by simp
    apply read_of_literal hip
    rw [hbrackets, stripBrackets_bracketed]

/-- The same answer to two lookups, but that an address may stand in one of them where the other has
the IPv4 address that it stands for. -/
inductive SameRecords : Ending IoFault (List Ip) → Ending IoFault (List Ip) → Prop
  | found {first other : Ip} {more others : List Ip}
    (same : (first :: more).map Ip.canonical = (other :: others).map Ip.canonical) :
    SameRecords (.done (first :: more)) (.done (other :: others))
  | none : SameRecords (.done []) (.done [])
  | failed (fault : IoFault) : SameRecords (.failed fault) (.failed fault)
  | abandoned : SameRecords .abandoned .abandoned

theorem SameRecords.refl (answer : Ending IoFault (List Ip)) : SameRecords answer answer := by
  cases answer with
  | done found => cases found with
    | nil => exact .none
    | cons first others => exact .found rfl
  | failed fault => exact .failed fault
  | abandoned => exact .abandoned

/-- Of the same records the same one is taken. -/
theorem Ip.preferV4_congr {first other : Ip} {more others : List Ip}
    (h : (first :: more).map canonical = (other :: others).map canonical) :
    first.preferV4 more = other.preferV4 others := by
  have hfirst : first.canonical = other.canonical := (List.cons.inj h).1
  rw [preferV4, preferV4, h, hfirst]

/-! ## Attempts of two kinds -/

/-- The calls of two attempts that differ in nothing but that the second one limits its dial.  It
does so right before the walk over the route, if it comes to that. -/
inductive LimitsOnce {π : Type} (route : Route π) (limit : Option Duration)
    (ending : Ending Failure Unit) : List Call → List Call → Prop
  /-- No transport is ready to be dialed. -/
  | unready {made : List Call} (prepares : ∀ call ∈ made, call.Prepares) :
    LimitsOnce route limit ending made made
  /-- The route is walked, if the transport is not connected. -/
  | walked {made walk : List Call} {target : Address} {n : Nat}
    (prepares : ∀ call ∈ made, call.Prepares)
    (walks : walk = [] ∨ route.Walked target n walk ending) :
    LimitsOnce route limit ending (made ++ walk)
      (made ++ .perform n (.setTimeout limit) () :: walk)

namespace Tunnel

variable {ω τ π ρ ν : Type}

/-- If an attempt comes to dial a transport, that transport has the given limit already, so that
being told it makes no difference. -/
def DialsWithin (env : Environment ω τ π ρ) (tunnel : Tunnel τ π ρ) (goal : Goal)
    (limit : Option Duration) (world : ω) : Prop :=
  ∀ target sought transport prepared readied,
    aim env tunnel goal world = (.done target, sought) →
      ready env tunnel (env.copyRoute tunnel.route sought).2 = (.ok transport, prepared, readied) →
        env.observe .timeout transport readied = limit

/-- An attempt ends because the text that it looks up has no record. -/
structure Unresolved (tunnel : Tunnel (Numbered τ) (Numbered π) ρ) (ledger : Ledger ω ν)
    (text : String) (answer : Ending IoFault (List Ip))
    (result : Ending Failure Unit × Tunnel (Numbered τ) (Numbered π) ρ × Ledger ω ν) : Prop where
  no_record : answer = .done [] ∨ ∃ fault, answer = .failed fault
  ending : result.1 = .failed (.hostUnresolvable text)
  unchanged : result.2.1 = tunnel
  calls : result.2.2.calls = ledger.calls ++ [.lookup text answer]

end Tunnel

/-! ## Tunnels that nobody can tell apart -/

namespace Simulation

variable {ω₁ ω₂ τ₁ τ₂ π₁ π₂ ρ ν₁ ν₂ : Type} {first : Environment ω₁ τ₁ π₁ ρ}
  {second : Environment ω₂ τ₂ π₂ ρ} (sim : Simulation first second)

/-- Nobody takes notice of a transport being told the limit that it has: it is related to what the
other one is, and so is the world. -/
def Overlooks : Prop :=
  ∀ ⦃s t a b⦄, sim.transports s t → sim.worlds a b →
    Both sim.transports sim.worlds (s, a)
      (second.perform (.setTimeout (second.observe .timeout t b)) t b).2

variable (note₁ : τ₁ → ω₁ → ν₁) (note₂ : τ₂ → ω₂ → ν₂)

/-- Two tunnels that nobody can tell apart, in two worlds that nobody can tell apart: they are
equally far, and the transports that they hold have one number. -/
structure Together (x : Tunnel (Numbered τ₁) (Numbered π₁) ρ × Ledger ω₁ ν₁)
    (y : Tunnel (Numbered τ₂) (Numbered π₂) ρ × Ledger ω₂ ν₂) : Prop where
  tunnels : (sim.recorded note₁ note₂ [] [] 0 0).Tunnels x.1 y.1
  worlds : sim.worlds x.2.world y.2.world
  next : x.2.next = y.2.next

/-- Two attempts, from two ledgers on, that come to the same.  After their lookups they make the
same calls, but that the second one limits its dial. -/
structure SameTarget (route : Route π₁) (limit : Option Duration) (a : Ledger ω₁ ν₁)
    (b : Ledger ω₂ ν₂) (lookups others : List Call)
    (told : Ending Failure Unit × Tunnel (Numbered τ₁) (Numbered π₁) ρ × Ledger ω₁ ν₁)
    (given : Ending Failure Unit × Tunnel (Numbered τ₂) (Numbered π₂) ρ × Ledger ω₂ ν₂) :
    Prop where
  ending : told.1 = given.1
  together : sim.Together note₁ note₂ told.2 given.2
  calls : ∃ made limited, told.2.2.calls = a.calls ++ (lookups ++ made) ∧
    given.2.2.calls = b.calls ++ (others ++ limited) ∧ LimitsOnce route limit told.1 made limited

variable {sim note₁ note₂} {route : Route π₁} {limit : Option Duration}
  {x : Tunnel (Numbered τ₁) (Numbered π₁) ρ} {y : Tunnel (Numbered τ₂) (Numbered π₂) ρ}
  {a : Ledger ω₁ ν₁} {b : Ledger ω₂ ν₂}

/-- Which calls came before does not matter to how routes are related. -/
theorem Routes.rebase {base₁ base₂ : List Call} {n₁ n₂ : Nat} {r : Route (Numbered π₁)}
    {r' : Route (Numbered π₂)} (h : (sim.recorded note₁ note₂ base₁ base₂ n₁ n₂).Routes r r')
    (other₁ other₂ : List Call) : (sim.recorded note₁ note₂ other₁ other₂ n₁ n₂).Routes r r' :=
  ⟨⟨h.head.address, h.head.state⟩,
    h.rest.imp fun _ _ hproxies => ⟨hproxies.address, hproxies.state⟩⟩

/-- Nor does it matter to how tunnels are related. -/
theorem Tunnels.rebase {base₁ base₂ : List Call} {n₁ n₂ : Nat}
    (h : (sim.recorded note₁ note₂ base₁ base₂ n₁ n₂).Tunnels x y) (other₁ other₂ : List Call) :
    (sim.recorded note₁ note₂ other₁ other₂ n₁ n₂).Tunnels x y where
  route := h.route.rebase other₁ other₂
  transport := h.transport
  destination := h.destination
  phase := h.phase
  prefersIpv4 := h.prefersIpv4
  resolver := h.resolver
  timeout := h.timeout
  settings := h.settings

/-- Ledgers with one number to come count alike from now on. -/
theorem lockstep_of_next (h : a.next = b.next) : Lockstep a.calls b.calls 0 0 a b :=
  .since (Nat.zero_add _).symm (h.symm.trans (Nat.zero_add _).symm)

/-! ## Attempts at one address -/

/-- Tunnels that nobody can tell apart are made ready with the same calls, all of which prepare a
transport, and nobody can tell them apart after that. -/
theorem ready_together (together : sim.Together note₁ note₂ (x, a) (y, b))
    {reply : Except Failure (Numbered τ₁)} {reply' : Except Failure (Numbered τ₂)}
    {prepared : Tunnel (Numbered τ₁) (Numbered π₁) ρ}
    {prepared' : Tunnel (Numbered τ₂) (Numbered π₂) ρ} {later : Ledger ω₁ ν₁}
    {later' : Ledger ω₂ ν₂}
    (hready : x.ready (first.recorded note₁) ((first.recorded note₁).copyRoute x.route a).2 =
      (reply, prepared, later))
    (hready' : y.ready (second.recorded note₂) ((second.recorded note₂).copyRoute y.route b).2 =
      (reply', prepared', later')) :
    ((∃ s t, reply = .ok s ∧ reply' = .ok t ∧ sim.transports s.value t.value ∧
        s.number = t.number) ∨
      ∃ failure, reply = .error failure ∧ reply' = .error failure) ∧
      sim.Together note₁ note₂ (prepared, later) (prepared', later') ∧
      ∃ made, later.calls = a.calls ++ made ∧ later'.calls = b.calls ++ made ∧
        ∀ call ∈ made, call.Prepares := by
  let both := sim.recorded note₁ note₂ a.calls b.calls 0 0
  have htunnels : both.Tunnels x y := together.tunnels.rebase a.calls b.calls
  have hworlds : both.worlds a b := ⟨together.worlds, lockstep_of_next together.next⟩
  have hreadied := both.ready htunnels (both.copyRoute htunnels.route hworlds).2
  have honly := Tunnel.ready_onlyPrepares first note₁ x
    ((first.recorded note₁).copyRoute x.route a).2
  rw [hready] at honly
  rw [hready, hready'] at hreadied
  obtain ⟨hreply, hprepared, hlater, hlockstep⟩ := hreadied
  obtain ⟨made, hmade, hprepares⟩ := honly.calls
  rw [Environment.calls_copyRoute] at hmade
  refine ⟨?_, ⟨hprepared.rebase [] [], hlater, hlockstep.next_eq⟩, made, hmade,
    hlockstep.calls_eq hmade, hprepares⟩
  cases hreply with
  | @ok s t hheld =>
      obtain ⟨hvalues, n, hs, ht⟩ := hheld
      exact .inl ⟨s, t, rfl, rfl, hvalues, hs.trans ht.symm⟩
  | error failure => exact .inr ⟨failure, rfl, rfl⟩

/-- Limiting a dial to what the limit is changes nothing but the ledger. -/
theorem limitDial_overlooked (overlooks : sim.Overlooks) {s : Numbered τ₁} {t limited : Numbered τ₂}
    {later : Ledger ω₂ ν₂} (htransports : sim.transports s.value t.value)
    (hworlds : sim.worlds a.world b.world)
    (hlimit : first.observe .timeout s.value a.world = limit)
    (h : Tunnel.limitDial (second.recorded note₂) (some limit) t b = (limited, later)) :
    sim.transports s.value limited.value ∧ sim.worlds a.world later.world ∧
      later.next = b.next := by
  rw [sim.observe .timeout htransports hworlds] at hlimit
  have htold := overlooks htransports hworlds
  rw [hlimit] at htold
  obtain ⟨rfl, rfl⟩ := by simpa [Tunnel.limitDial, Environment.recorded] using h
  exact ⟨htold.1, htold.2, rfl⟩

/-- Walks over one route to one target make the same calls. -/
theorem walk_together {base₁ base₂ : List Call} {r : Route (Numbered π₁)}
    {r' : Route (Numbered π₂)} (hroutes : (sim.recorded note₁ note₂ base₁ base₂ 0 0).Routes r r')
    (target : Address) {s carried : Numbered τ₁} {t carried' : Numbered τ₂}
    (hvalues : sim.transports s.value t.value) (hnumbers : s.number = t.number)
    (hworlds : sim.worlds a.world b.world) (hnext : a.next = b.next)
    {ending ending' : Ending Failure Unit} {walked : Route (Numbered π₁)}
    {walked' : Route (Numbered π₂)} {later : Ledger ω₁ ν₁} {later' : Ledger ω₂ ν₂}
    (hwalk : (first.recorded note₁).walk r target s a = (ending, walked, carried, later))
    (hwalk' : (second.recorded note₂).walk r' target t b = (ending', walked', carried', later')) :
    ending = ending' ∧ (sim.transports carried.value carried'.value ∧
        ∃ n, carried.number = 0 + n ∧ carried'.number = 0 + n) ∧
      sim.worlds later.world later'.world ∧ Lockstep a.calls b.calls 0 0 later later' := by
  let both := sim.recorded note₁ note₂ a.calls b.calls 0 0
  have hheld : both.transports s t :=
    ⟨hvalues, s.number, (Nat.zero_add _).symm, hnumbers ▸ (Nat.zero_add _).symm⟩
  have hwalks := both.walk target (hroutes.rebase a.calls b.calls) hheld
    ⟨hworlds, lockstep_of_next hnext⟩
  rw [hwalk, hwalk'] at hwalks
  obtain ⟨hending, -, hcarried, hlater⟩ := hwalks
  exact ⟨hending, hcarried, hlater⟩

/-- **Attempts at one address come to the same**, if one of them limits its dial to what the limit
is without it.  Both are made ready with the same calls, and walk with the same calls; the limit is
set in between, and overlooked. -/
theorem attempt_limited (overlooks : sim.Overlooks) (hroute : x.route = route.numbered)
    (together : sim.Together note₁ note₂ (x, a) (y, b)) (target : Address)
    (hlimit : ∀ transport prepared readied,
      x.ready (first.recorded note₁) ((first.recorded note₁).copyRoute x.route a).2 =
        (.ok transport, prepared, readied) →
      first.observe .timeout transport.value readied.world = limit) :
    sim.SameTarget note₁ note₂ route limit a b [] []
      (x.attempt (first.recorded note₁) target none a)
      (y.attempt (second.recorded note₂) target (some limit) b) := by
  rcases hready : x.ready (first.recorded note₁)
    ((first.recorded note₁).copyRoute x.route a).2 with ⟨reply, prepared, a₁⟩
  rcases hready' : y.ready (second.recorded note₂)
    ((second.recorded note₂).copyRoute y.route b).2 with ⟨reply', prepared', b₁⟩
  obtain ⟨hreply, hprepared, made, hmade, hmade', hprepares⟩ :=
    ready_together together hready hready'
  rcases hreply with ⟨s, t, rfl, rfl, hvalues, hnumbers⟩ | ⟨failure, rfl, rfl⟩
  · rcases hlimited : Tunnel.limitDial (second.recorded note₂) (some limit) t b₁ with ⟨t', b₂⟩
    obtain ⟨hnumber, hlimiting⟩ := Tunnel.limitDial_calls hlimited
    obtain ⟨hvalues', hlater, hnext⟩ := limitDial_overlooked overlooks hvalues hprepared.worlds
      (hlimit s prepared a₁ hready) hlimited
    rcases hwalk : (first.recorded note₁).walk x.route target s a₁ with
      ⟨ending, walked, carried, a₂⟩
    rcases hwalk' : (second.recorded note₂).walk y.route target t' b₂ with
      ⟨ending', walked', carried', b₃⟩
    obtain ⟨rfl, hcarried, hfinal, hlockstep⟩ := walk_together together.tunnels.route target
      hvalues' (hnumbers.trans hnumber.symm) hlater (hprepared.next.trans hnext.symm) hwalk hwalk'
    rw [Tunnel.attempt_of_ready _ x hready rfl hwalk,
      Tunnel.attempt_of_ready _ y hready' hlimited hwalk']
    have hafter : (sim.recorded note₁ note₂ [] [] 0 0).Tunnels
        { prepared with destination := some target, transport := some carried }
        { prepared' with destination := some target, transport := some carried' } :=
      { hprepared.tunnels with transport := .some hcarried, destination := rfl }
    rw [hroute] at hwalk
    obtain ⟨-, walk, hwalkMade, hwalked⟩ := Tunnel.walk_calls_of_any hwalk
    have hcalls : a₂.calls = a.calls ++ (made ++ walk) := by
      rw [hwalkMade, hmade, List.append_assoc]
    have hcalls' : b₃.calls =
        b.calls ++ (made ++ .perform s.number (.setTimeout limit) () :: walk) := by
      rw [hlockstep.calls_eq hwalkMade, hlimiting, hmade', hnumbers]
      simp [Call.limiting]
    have hlimits : LimitsOnce route limit ending (made ++ walk)
        (made ++ .perform s.number (.setTimeout limit) () :: walk) := .walked hprepares hwalked
    cases ending with
    | done _ =>
        refine ⟨rfl, ⟨hafter.enter .connected, ?_, hlockstep.next_eq⟩, _, _, ?_, ?_, hlimits⟩
        · rw [together.tunnels.route.length_eq]
          exact sim.log _ hfinal
        · exact (Ledger.calls_write _ _ _).trans hcalls
        · exact (Ledger.calls_write _ _ _).trans hcalls'
    | failed failure =>
        exact ⟨rfl, ⟨hafter, hfinal, hlockstep.next_eq⟩, _, _, hcalls, hcalls', hlimits⟩
    | abandoned =>
        exact ⟨rfl, ⟨hafter, hfinal, hlockstep.next_eq⟩, _, _, hcalls, hcalls', hlimits⟩
  · rw [Tunnel.attempt_of_ready_error _ _ hready, Tunnel.attempt_of_ready_error _ _ hready']
    exact ⟨rfl, hprepared, made, made, hmade, hmade', .unready hprepares⟩

/-! ## Lookups -/

/-- Attempts that come to the same after their lookups come to the same. -/
theorem SameTarget.after {lookups others : List Call} {sought : Ledger ω₁ ν₁}
    {sought' : Ledger ω₂ ν₂}
    {told : Ending Failure Unit × Tunnel (Numbered τ₁) (Numbered π₁) ρ × Ledger ω₁ ν₁}
    {given : Ending Failure Unit × Tunnel (Numbered τ₂) (Numbered π₂) ρ × Ledger ω₂ ν₂}
    (h : sim.SameTarget note₁ note₂ route limit sought sought' [] [] told given)
    (hlookups : sought.calls = a.calls ++ lookups) (hothers : sought'.calls = b.calls ++ others) :
    sim.SameTarget note₁ note₂ route limit a b lookups others told given := by
  obtain ⟨made, limited, hmade, hlimited, hlimits⟩ := h.calls
  refine ⟨h.ending, h.together, made, limited, ?_, ?_, hlimits⟩
  · rw [hmade, hlookups, List.append_assoc]
    rfl
  · rw [hlimited, hothers, List.append_assoc]
    rfl

/-- Attempts that end with their lookups come to the same if they end alike. -/
theorem SameTarget.of_lookups {lookups others : List Call} {sought : Ledger ω₁ ν₁}
    {sought' : Ledger ω₂ ν₂} (ending : Ending Failure Unit)
    (together : sim.Together note₁ note₂ (x, sought) (y, sought'))
    (hlookups : sought.calls = a.calls ++ lookups) (hothers : sought'.calls = b.calls ++ others) :
    sim.SameTarget note₁ note₂ route limit a b lookups others (ending, x, sought)
      (ending, y, sought') :=
  ⟨rfl, together, [], [], by rw [hlookups, List.append_nil], by rw [hothers, List.append_nil],
    .unready (by simp)⟩

/-- Where IPv4 is preferred and two texts are looked up with the same records, attempts come to the
same if there is one, or if the texts are the same, too. -/
theorem same_of_records (overlooks : sim.Overlooks) (hroute : x.route = route.numbered)
    (together : sim.Together note₁ note₂ (x, a) (y, b)) (prefers : x.prefersIpv4 = true)
    {goal goal' : Tunnel.Goal} {text text' : String} {address : Address}
    (haim : x.aim (first.recorded note₁) goal a =
      x.normalize (first.recorded note₁) text address a)
    (haim' : y.aim (second.recorded note₂) goal' b =
      y.normalize (second.recorded note₂) text' address b)
    (hgoal : goal.limit? = none) (hgoal' : goal'.limit? = some limit)
    (hlimit : Tunnel.DialsWithin (first.recorded note₁) x goal limit a)
    {answer other : Ending IoFault (List Ip)} {world : ω₁} {world' : ω₂}
    (hfound : first.lookup x.resolver text a.world = (answer, world))
    (hfound' : second.lookup y.resolver text' b.world = (other, world'))
    (hsame : SameRecords answer other) (hworlds : sim.worlds world world') :
    let told := x.pursue (first.recorded note₁) goal a
    let given := y.pursue (second.recorded note₂) goal' b
    let Same := sim.SameTarget note₁ note₂ route limit a b [.lookup text answer]
      [.lookup text' other] told given
    (text = text' → Same) ∧
      (Same ∨ x.Unresolved a text answer told ∧ y.Unresolved b text' other given) := by
  have prefers' : y.prefersIpv4 = true := together.tunnels.prefersIpv4.symm.trans prefers
  rw [Tunnel.normalize_recorded prefers hfound] at haim
  rw [Tunnel.normalize_recorded prefers' hfound'] at haim'
  have hlookup := Ledger.calls_enter a (.lookup text answer) none none world
  have hlookup' := Ledger.calls_enter b (.lookup text' other) none none world'
  have hsought : sim.Together note₁ note₂ (x, a.enter (.lookup text answer) none none world)
      (y, b.enter (.lookup text' other) none none world') :=
    ⟨together.tunnels, hworlds, together.next⟩
  rw [Tunnel.pursue_eq, Tunnel.pursue_eq, haim, haim', hgoal, hgoal']
  cases hsame with
  | @found record record' more others same =>
      have htaken := Ip.preferV4_congr same
      have hattempt := attempt_limited overlooks hroute hsought
        ⟨Host.ofIp (record.preferV4 more), address.port⟩
        fun transport prepared readied hready => hlimit _ _ _ _ _ haim hready
      have hboth := hattempt.after hlookup hlookup'
      simp only [Tunnel.answered, ← htaken]
      exact ⟨fun _ => hboth, .inl hboth⟩
  | abandoned =>
      have hboth : sim.SameTarget note₁ note₂ route limit a b [.lookup text .abandoned]
          [.lookup text' .abandoned] (.abandoned, x, _) (.abandoned, y, _) :=
        .of_lookups .abandoned hsought hlookup hlookup'
      exact ⟨fun _ => hboth, .inl hboth⟩
  | none =>
      refine ⟨?_, .inr ⟨⟨.inl rfl, rfl, rfl, hlookup⟩, .inl rfl, rfl, rfl, hlookup'⟩⟩
      rintro rfl
      exact SameTarget.of_lookups _ hsought hlookup hlookup'
  | failed fault =>
      have hlogged := (Ledger.calls_write (a.enter (.lookup text (.failed fault)) none none world)
        (.lookupFailed text fault) (first.log (.lookupFailed text fault) world)).trans hlookup
      have hlogged' := (Ledger.calls_write
        (b.enter (.lookup text' (.failed fault)) none none world') (.lookupFailed text' fault)
        (second.log (.lookupFailed text' fault) world')).trans hlookup'
      refine ⟨?_, .inr ⟨⟨.inr ⟨fault, rfl⟩, rfl, rfl, hlogged⟩, .inr ⟨fault, rfl⟩, rfl, rfl,
        hlogged'⟩⟩
      rintro rfl
      exact SameTarget.of_lookups _ ⟨hsought.tunnels, sim.log _ hworlds, hsought.next⟩ hlogged
        hlogged'

/-- **Two ways to one target.**  Take two tunnels that nobody can tell apart, or one tunnel twice,
and connect the first to a text that spells an IP address, and the second to an endpoint with that
address, whatever its flow information and scope, and with the limit that the dial has anyway.  The
attempts come to the same: they end alike, leave tunnels that nobody can tell apart, and make the
same calls, but that the second one sets the limit right before the walk.  Where IPv4 is preferred
they also look up the same text, unless the address is an IPv6 one that stands for an IPv4 one.
Then each looks up its own text; they still come to the same if the answers have the same records,
but that an error over a missing record names the text that was looked up. -/
theorem same_target (overlooks : sim.Overlooks) (hroute : x.route = route.numbered)
    (together : sim.Together note₁ note₂ (x, a) (y, b)) {text : String} {address : SocketAddress}
    (hspelled : address.ip.IsSpelled text)
    (hlimit : Tunnel.DialsWithin (first.recorded note₁) x (.host text address.port) limit a) :
    let told := x.connect (first.recorded note₁) text address.port a
    let given := y.connectEndpoint (second.recorded note₂) (.inet address) limit b
    let ip := address.ip
    (x.prefersIpv4 = false →
      sim.SameTarget note₁ note₂ route limit a b [] [] told given) ∧
    (x.prefersIpv4 = true → ip.canonical = ip →
      ∃ answer, sim.SameTarget note₁ note₂ route limit a b [.lookup ip.text answer]
        [.lookup ip.text answer] told given) ∧
    (x.prefersIpv4 = true →
      Both SameRecords sim.worlds (first.lookup x.resolver ip.canonical.text a.world)
        (second.lookup y.resolver ip.text b.world) →
      ∃ answer other, SameRecords answer other ∧
        (sim.SameTarget note₁ note₂ route limit a b [.lookup ip.canonical.text answer]
            [.lookup ip.text other] told given ∨
          x.Unresolved a ip.canonical.text answer told ∧ y.Unresolved b ip.text other given)) := by
  have hhost := Host.ofText_of_isSpelled hspelled
  have haim : x.aim (first.recorded note₁) (.host text address.port) a =
      x.normalize (first.recorded note₁) address.ip.canonical.text
        ⟨Host.ofIp address.ip, address.port⟩ a := by
    rw [← Host.text_ofIp]
    exact Tunnel.aim_of_ofText hhost address.port a
  have haim' : y.aim (second.recorded note₂) (.endpoint (.inet address) limit) b =
      y.normalize (second.recorded note₂) address.ip.text
        ⟨Host.ofIp address.ip, address.port⟩ b := rfl
  intro told given ip
  refine ⟨?_, ?_, ?_⟩
  · intro indifferent
    have indifferent' : y.prefersIpv4 = false := together.tunnels.prefersIpv4.symm.trans indifferent
    rw [Tunnel.normalize_of_not_preferred indifferent] at haim
    rw [Tunnel.normalize_of_not_preferred indifferent'] at haim'
    have hattempt := attempt_limited overlooks hroute together ⟨Host.ofIp address.ip, address.port⟩
      fun transport prepared readied hready => hlimit _ _ _ _ _ haim hready
    have htold : told = x.pursue (first.recorded note₁) (.host text address.port) a := rfl
    have hgiven : given =
      y.pursue (second.recorded note₂) (.endpoint (.inet address) limit) b := rfl
    rw [htold, hgiven, Tunnel.pursue_eq, Tunnel.pursue_eq, haim, haim']
    exact hattempt
  · intro prefers hcanonical
    rw [hcanonical] at haim
    have hlookups := sim.lookup x.resolver address.ip.text together.worlds
    obtain ⟨answer, world, world', hfound, hfound', hworlds⟩ := hlookups.answer
    rw [together.tunnels.resolver] at hfound'
    have hsame := same_of_records overlooks hroute together prefers haim haim' rfl rfl hlimit hfound
      hfound' (.refl answer) hworlds
    exact ⟨answer, hsame.1 rfl⟩
  · intro prefers hlookups
    rcases hfound : first.lookup x.resolver ip.canonical.text a.world with ⟨answer, world⟩
    rcases hfound' : second.lookup y.resolver ip.text b.world with ⟨other, world'⟩
    rw [hfound, hfound'] at hlookups
    have hsame := same_of_records overlooks hroute together prefers haim haim' rfl rfl hlimit hfound
      hfound' hlookups.1 hlookups.2
    exact ⟨answer, other, hlookups.1, hsame.2⟩

end Simulation

namespace Scripted

/-- Where transports are plain ones, nobody takes notice of one being told the limit that it has. -/
theorem plainSimulation_overlooks : plainSimulation.Overlooks := by
  rintro _ _ a b ⟨puppet, number, rfl, rfl⟩ -
  have hsame := (puppet.renumber number).perform_own_timeout b
  exact ⟨⟨puppet, number, rfl, congrArg Carrier.scripted hsame⟩, trivial⟩

/-- The resolver of the system gives an IP literal its own address. -/
theorem Resolver.lookup_literal {host : String} {ip : Ip} (h : Ip.ofText? host = some ip)
    (stage : Stage) : Resolver.system.lookup host stage = (.done [ip], stage) := by
  unfold lookup literalAddresses
  rw [h]
  cases ip <;> rfl

/-- A tunnel that is connected over a plain transport and prefers IPv4. -/
def reconnecting : Tunnel (Numbered Carrier) (Numbered Hop) Resolver where
  route := (throughTwo {}).numbered
  transport := some ⟨0, .scripted { Puppet.ofScript 0 {} with connected := true }⟩
  destination := none
  phase := .connected
  prefersIpv4 := true
  resolver := .system
  timeout := none
  settings := {}

/-- Nobody can tell it apart from itself. -/
theorem reconnecting_together : plainSimulation.Together (fun _ _ => ()) (fun _ _ => ())
    (reconnecting, .start {}) (reconnecting, .start {}) where
  tunnels :=
    { route := ⟨⟨rfl, ⟨_, _, rfl, rfl, rfl⟩, rfl⟩, .cons ⟨rfl, ⟨_, _, rfl, rfl, rfl⟩, rfl⟩ .nil⟩
      transport := .some ⟨⟨_, 0, rfl, rfl⟩, 0, rfl, rfl⟩
      destination := rfl
      phase := rfl
      prefersIpv4 := rfl
      resolver := rfl
      timeout := rfl
      settings := rfl }
  worlds := trivial
  next := rfl

/-- An IPv6 address that stands for an IPv4 one is connected to by a text in brackets, and by an
endpoint with flow information and a scope.  The resolver of the system gives each of the two texts
that are looked up its own address, and the destination is the same. -/
theorem same_target_mapped :
    let env := plainEnvironment.recorded fun _ _ => ()
    let endpoint : SocketAddress := .v6 ⟨[0, 0, 0, 0, 0, 0xffff, 0xc633, 0x6407], rfl⟩ 443 7 3
    let target : Address := ⟨.v4 ⟨198, 51, 100, 7⟩, 443⟩
    let (_, x, told) :=
      reconnecting.connect env "[::FFFF:c633:6407]" endpoint.port (.start {})
    let (_, y, given) := reconnecting.connectEndpoint env (.inet endpoint) none (.start {})
    x.phase = .connected ∧ y.phase = .connected ∧ x.destination = some target ∧
      y.destination = some target ∧
      ∃ answer other ending made limited, SameRecords answer other ∧
        LimitsOnce (throughTwo {}) none ending made limited ∧
        told.calls = .lookup "198.51.100.7" answer :: made ∧
        given.calls = .lookup "::ffff:198.51.100.7" other :: limited := by
  intro env endpoint target
  have htext : endpoint.ip.canonical.text = "198.51.100.7" := by decide +kernel
  have htext' : endpoint.ip.text = "::ffff:198.51.100.7" := by decide +kernel
  have hspelled : endpoint.ip.IsSpelled "[::FFFF:c633:6407]" :=
    ⟨"::FFFF:c633:6407", by decide +kernel, .inr rfl⟩
  have hlimit : Tunnel.DialsWithin env reconnecting (.host "[::FFFF:c633:6407]" endpoint.port) none
      (.start {}) := by
    intro target sought transport prepared readied haim hready
    have htransport := congrArg (·.1) hready
    obtain rfl := Except.ok.inj htransport
    rfl
  have hlookups : Both SameRecords plainSimulation.worlds
      (plainEnvironment.lookup reconnecting.resolver endpoint.ip.canonical.text {})
      (plainEnvironment.lookup reconnecting.resolver endpoint.ip.text {}) := by
    have hread : Ip.ofText? "198.51.100.7" = some (.v4 ⟨198, 51, 100, 7⟩) := by decide +kernel
    have hread' : Ip.ofText? "::ffff:198.51.100.7" = some endpoint.ip := by decide +kernel
    have hlookup (host : String) : plainEnvironment.lookup reconnecting.resolver host {} =
        Resolver.system.lookup host {} := rfl
    rw [htext, htext', hlookup, hlookup, Resolver.lookup_literal hread,
      Resolver.lookup_literal hread']
    exact ⟨.found (by decide), trivial⟩
  have hphase : (reconnecting.connect env "[::FFFF:c633:6407]" endpoint.port
      (.start {})).2.1.phase = .connected := by decide +kernel
  have hdestination : (reconnecting.connect env "[::FFFF:c633:6407]" endpoint.port
      (.start {})).2.1.destination = some target := by decide +kernel
  obtain ⟨-, -, hmeet⟩ := plainSimulation.same_target plainSimulation_overlooks rfl
    reconnecting_together hspelled hlimit
  have hmeet := hmeet rfl hlookups
  rw [htext, htext'] at hmeet
  rcases htold : reconnecting.connect env "[::FFFF:c633:6407]" endpoint.port (.start {}) with
    ⟨ending, x, told⟩
  rcases hgiven : reconnecting.connectEndpoint env (.inet endpoint) none (.start {}) with
    ⟨ending', y, given⟩
  rw [htold] at hphase hdestination
  rw [htold, hgiven] at hmeet
  obtain ⟨answer, other, hsame, ⟨-, htogether, made, limited, hmade, hlimited, hlimits⟩ |
    ⟨hunresolved, -⟩⟩ := hmeet
  · exact ⟨hphase, htogether.tunnels.phase.symm.trans hphase, hdestination,
      htogether.tunnels.destination.symm.trans hdestination, answer, other, ending, made, limited,
      hsame, hlimits, hmade, hlimited⟩
  · have hnone := hdestination.symm.trans (congrArg Tunnel.destination hunresolved.unchanged)
    cases hnone

/-- Where no text has a record, the errors are not the same: each of them names the text that was
looked up. -/
theorem unresolved_names_differ :
    let env := environment.recorded fun _ _ => ()
    let endpoint : SocketAddress := .v6 ⟨[0, 0, 0, 0, 0, 0xffff, 0xc633, 0x6407], rfl⟩ 443 0 0
    let text := "::ffff:198.51.100.7"
    let held : Numbered Carrier := ⟨0, .scripted (.ofScript 0 {})⟩
    let tunnel := { Tunnel.holding env (throughTwo {}).numbered held true with
      resolver := Resolver.listed [] }
    let told := (tunnel.connect env text endpoint.port (.start {})).1
    let given := (tunnel.connectEndpoint env (.inet endpoint) none (.start {})).1
    endpoint.ip.IsSpelled text ∧ tunnel.observe env .timeout (.start {}) = none ∧
      (∀ host, (env.lookup tunnel.resolver host (.start {})).1 = .failed (.bare .notFound)) ∧
      told = .failed (.hostUnresolvable "198.51.100.7") ∧
      given = .failed (.hostUnresolvable text) ∧ told ≠ given := by
  intro env endpoint text held tunnel told given
  have hspelled : endpoint.ip.IsSpelled text := ⟨text, by decide +kernel, .inl rfl⟩
  have hhost := Host.ofText_of_isSpelled hspelled
  have htext : endpoint.ip.canonical.text = "198.51.100.7" := by decide +kernel
  have htext' : endpoint.ip.text = text := by decide +kernel
  have htold : told = .failed (.hostUnresolvable "198.51.100.7") := by
    show (tunnel.pursue env (.host text endpoint.port) (.start {})).1 = _
    rw [Tunnel.pursue_eq, Tunnel.aim_of_ofText hhost, Host.text_ofIp, htext,
      Tunnel.normalize_recorded rfl rfl]
    rfl
  have hgiven : given = .failed (.hostUnresolvable text) := by
    have haim : tunnel.aim env (.endpoint (.inet endpoint) none) (.start {}) =
      tunnel.normalize env endpoint.ip.text (Address.ofSocketAddress endpoint) (.start {}) := rfl
    show (tunnel.pursue env (.endpoint (.inet endpoint) none) (.start {})).1 = _
    rw [Tunnel.pursue_eq, haim, htext', Tunnel.normalize_recorded rfl rfl]
    rfl
  refine ⟨hspelled, rfl, fun host => rfl, htold, hgiven, ?_⟩
  rw [htold, hgiven]
  simp [text]

end Scripted

end RelayRoute
