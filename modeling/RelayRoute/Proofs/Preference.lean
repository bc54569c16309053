import RelayRoute.Proofs.AddressText
import RelayRoute.Proofs.Handling
import RelayRoute.Proofs.Requests

/-!
# Where IPv4 is preferred

A tunnel that prefers IPv4 looks the host of an attempt up once, before anything else, and takes one
of the records for the target; any other tunnel looks nothing up, and its target is what it was
told.  In both cases the target is what is stored and what the last proxy is asked for.

* `Ip.Preferred`, `Ip.preferred_preferV4` — the record that is taken: the first that is an IPv4
  address or stands for one, and otherwise the first of all;
* `Host.text_of_ofText` — the text by which a host is looked up;
* `Readying.not_isLookup`, `attempt_not_isLookup` — nothing is looked up once there is an address;
* `normalize_calls`, `aim_cases` — the lookup, and what its answer makes of the address;
* `LeadsTo`, `leadsTo_of_aim` — an attempt leads to the target that it has found;
* `looks_up_once` — the main result.
-/

namespace RelayRoute

/-! ## The record that is taken -/

/-- The host that is taken of records: the first that is an IPv4 address or stands for one, and
otherwise the first of all. -/
inductive Ip.Preferred (records : List Ip) : Host → Prop
  | v4 {before after : List Ip} {ip : Ip} {inner : Ipv4}
    (order : records = before ++ ip :: after) (stands : ip.StandsFor inner)
    (none_before : ∀ other ∈ before, ∀ inner, ¬ other.StandsFor inner) :
    Preferred records (.v4 inner)
  | v6 {first : Ipv6} {others : List Ip} (order : records = .v6 first :: others)
    (none_stands : ∀ other ∈ records, ∀ inner, ¬ other.StandsFor inner) :
    Preferred records (.v6 first)

namespace Ip

/-- An address becomes an IPv4 one if it stands for one. -/
theorem isV4_canonical_iff {ip : Ip} : ip.canonical.isV4 = true ↔ ∃ inner, ip.StandsFor inner := by
  simp only [← canonical_eq_v4_iff]
  cases ip.canonical <;> simp [isV4]

/-- The record that is taken is the preferred one.  Either some record is an IPv4 address or stands
for one, and then the first such is found, or none is, and the first record of all stays as it is.
-/
theorem preferred_preferV4 (first : Ip) (others : List Ip) :
    Preferred (first :: others) (Host.ofIp (first.preferV4 others)) := by
  unfold preferV4
  rw [List.find?_map]
  cases hfound : (first :: others).find? (isV4 ∘ canonical) with
  | some ip =>
      obtain ⟨hv4, before, after, horder, hbefore⟩ := List.find?_eq_some_iff_append.mp hfound
      obtain ⟨inner, hstands⟩ := isV4_canonical_iff.mp hv4
      have hhost : Host.ofIp ip.canonical = .v4 inner := by
        rw [Host.ofIp_canonical, Host.ofIp_eq_v4_iff]
        exact hstands
      rw [Option.map_some, Option.getD_some, hhost]
      refine .v4 horder hstands fun other hother inner hinner => ?_
      have hnot := hbefore other hother
      simp [isV4_canonical_iff.mpr ⟨inner, hinner⟩] at hnot
  | none =>
      have hnone : ∀ other ∈ first :: others, ∀ inner, ¬ other.StandsFor inner := by
        intro other hother inner hinner
        exact List.find?_eq_none.mp hfound other hother (isV4_canonical_iff.mpr ⟨inner, hinner⟩)
      rw [Option.map_none, Option.getD_none, Host.ofIp_canonical]
      rcases Host.ofIp_cases first with ⟨inner, hhost⟩ | ⟨same, -, hhost⟩
      · exact absurd (Host.ofIp_eq_v4_iff.mp hhost) (hnone first List.mem_cons_self inner)
      · obtain ⟨rfl, -⟩ := Host.ofIp_eq_v6_iff.mp hhost
        rw [hhost]
        exact .v6 rfl hnone

/-- The host that is taken is an IP address, and does not stand for another. -/
theorem Preferred.isIp {records : List Ip} {host : Host} (h : Preferred records host) :
    (∃ inner, host = .v4 inner) ∨ ∃ same, host = .v6 same ∧ same.unmap? = none := by
  cases h with
  | v4 order stands none_before => exact .inl ⟨_, rfl⟩
  | @v6 first others order none_stands =>
      refine .inr ⟨first, rfl, ?_⟩
      rcases Host.ofIp_cases (.v6 first) with ⟨inner, hhost⟩ | ⟨same, hunmap, hhost⟩
      · have hmem : Ip.v6 first ∈ records := by rw [order]; exact List.mem_cons_self
        exact absurd (Host.ofIp_eq_v4_iff.mp hhost) (none_stands _ hmem inner)
      · obtain ⟨hsame, -⟩ := Host.ofIp_eq_v6_iff.mp hhost
        obtain rfl := Ip.v6.inj hsame
        exact hunmap

end Ip

/-! ## The text that is looked up -/

/-- The host that a text names is that of an IP literal, bracketed or not, and then has the text of
the address it stands for; or it is a domain in its ASCII form. -/
theorem Host.text_of_ofText {text : String} {host : Host} (h : ofText text = .ok host) :
    match Ip.read? (stripBrackets text.toList) with
    | some ip => host = ofIp ip ∧ host.text = ip.canonical.text
    | none => ∃ name, Name.Domain.ofText? (stripBrackets text.toList) = some name ∧
        host = .domain (String.ofList name) ∧ host.text = String.ofList name := by
  rcases read_cases h with ⟨ip, hip, rfl⟩ | ⟨hip, name, hname, rfl⟩
  · rw [hip]
    exact ⟨rfl, text_ofIp ip⟩
  · rw [hip]
    exact ⟨name, hname, rfl, rfl⟩

/-! ## Calls of an attempt -/

theorem Route.Walked.not_isLookup {π : Type} {route : Route π} {target : Address} {n : Nat}
    {walk : List Call} {ending : Ending Failure Unit} (h : route.Walked target n walk ending) :
    ∀ call ∈ walk, ¬ call.IsLookup := by
  obtain ⟨dialed, further, rfl, hfurther⟩ := h.dials_first
  intro call hcall
  rcases List.mem_cons.mp hcall with rfl | hcall
  · exact id
  · cases hfurther call hcall <;> exact id

namespace Tunnel

variable {ω τ π ρ ν : Type} {env : Environment ω τ π ρ} {note : τ → ω → ν}
  {tunnel : Tunnel (Numbered τ) (Numbered π) ρ} {route : Route π}

/-- Making a tunnel ready looks nothing up. -/
theorem Readying.not_isLookup {ledger : Ledger ω ν} {made : List Call}
    {reply : Except Failure (Numbered τ)} {prepared : Tunnel (Numbered τ) (Numbered π) ρ}
    (h : Readying env tunnel ledger made reply prepared) : ∀ call ∈ made, ¬ call.IsLookup := by
  have hvacating {before : List Call} {vacant : Tunnel (Numbered τ) (Numbered π) ρ}
      (h : Vacating env tunnel ledger before vacant) : ∀ call ∈ before, ¬ call.IsLookup := by
    cases h <;> simp [Call.IsLookup]
  have hrenewing {n : Nat} {before made : List Call} {reply : Except IoFault Unit}
      {vacant : Tunnel (Numbered τ) (Numbered π) ρ}
      (vacating : Vacating env tunnel ledger before vacant)
      (setUp : SetUp n tunnel.timeout tunnel.settings.toList made reply) :
      ∀ call ∈ before ++ .create n :: made, ¬ call.IsLookup := by
    intro call hcall
    rcases List.mem_append.mp hcall with hcall | hcall
    · exact hvacating vacating call hcall
    · rcases List.mem_cons.mp hcall with rfl | hcall
      · exact id
      · obtain ⟨action, reply, rfl⟩ := setUp.plain call hcall
        exact id
  cases h with
  | refused failure => simp
  | kept holds => simp
  | unreleased fault connected holds => simp [Call.IsLookup]
  | renewed vacating setUp fresh => exact hrenewing vacating setUp
  | unset vacating setUp => exact hrenewing vacating setUp

variable (env note)

/-- An attempt at an address looks nothing up.  Whether the walk succeeds or not, none of its calls
is a lookup, and neither is one of those before it. -/
theorem attempt_not_isLookup (hroute : tunnel.route = route.numbered) (target : Address)
    (limit : Option (Option Duration)) (ledger : Ledger ω ν) :
    ∃ made, (attempt (env.recorded note) tunnel target limit ledger).2.2.calls =
        ledger.calls ++ made ∧ ∀ call ∈ made, ¬ call.IsLookup := by
  have hattempted := attempted (env.recorded note) tunnel target limit ledger
  generalize attempt (env.recorded note) tunnel target limit ledger = result at hattempted ⊢
  have hcopied : ((env.recorded note).copyRoute tunnel.route ledger).2.calls = ledger.calls :=
    env.calls_copyRoute note tunnel.route ledger
  have hwalking {transport limited carried : Numbered τ} {readied dialing finished : Ledger ω ν}
      {prepared : Tunnel (Numbered τ) (Numbered π) ρ} {walked : Route (Numbered π)}
      {ending : Ending Failure Unit}
      (is_ready : ready (env.recorded note) tunnel
        ((env.recorded note).copyRoute tunnel.route ledger).2 = (.ok transport, prepared, readied))
      (is_limited : limitDial (env.recorded note) limit transport readied = (limited, dialing))
      (is_walked : (env.recorded note).walk tunnel.route target limited dialing =
        (ending, walked, carried, finished)) :
      ∃ made, finished.calls = ledger.calls ++ made ∧ ∀ call ∈ made, ¬ call.IsLookup := by
    rw [hroute] at is_walked
    obtain ⟨-, made, walk, hcalls, hreadying, hwalks⟩ :=
      ready_walk_calls is_ready is_limited is_walked
    refine ⟨_, by rw [hcalls, hcopied], fun call hcall => ?_⟩
    rcases List.mem_append.mp hcall with hcall | hcall
    · exact hreadying.not_isLookup call hcall
    rcases List.mem_append.mp hcall with hcall | hcall
    · obtain ⟨limit, -, rfl⟩ := List.mem_map.mp hcall
      exact id
    rcases hwalks with rfl | hwalked
    · cases hcall
    · exact hwalked.not_isLookup call hcall
  cases hattempted with
  | unready is_ready =>
      obtain ⟨made, hcalls, hreadying⟩ := ready_calls is_ready
      exact ⟨made, by rw [hcalls, hcopied], hreadying.not_isLookup⟩
  | connected is_ready is_limited is_walked =>
      obtain ⟨made, hcalls, hmade⟩ := hwalking is_ready is_limited is_walked
      exact ⟨made, (Ledger.calls_write _ _ _).trans hcalls, hmade⟩
  | stranded is_ready is_limited is_walked not_done =>
      exact hwalking is_ready is_limited is_walked

variable {env note}

/-! ## Lookups -/

/-- What the answer to looking a text up makes of a port: the address of the record that is taken,
or the failure that there is none. -/
def answered (text : String) (port : UInt16) :
    Ending IoFault (List Ip) → Ending Failure Address
  | .done (first :: others) => .done ⟨Host.ofIp (first.preferV4 others), port⟩
  | .done [] | .failed _ => .failed (.hostUnresolvable text)
  | .abandoned => .abandoned

/-- Where IPv4 is preferred, a host is looked up, and the log tells of a fault. -/
theorem normalize_recorded (prefers : tunnel.prefersIpv4 = true) {text : String}
    {ledger : Ledger ω ν} {answer : Ending IoFault (List Ip)} {world : ω}
    (hfound : env.lookup tunnel.resolver text ledger.world = (answer, world)) (address : Address) :
    normalize (env.recorded note) tunnel text address ledger =
      (answered text address.port answer,
        let sought := ledger.enter (.lookup text answer) none none world
        match answer with
        | .failed fault => (env.recorded note).log (.lookupFailed text fault) sought
        | _ => sought) := by
  have hlookup := env.lookup_recorded note hfound
  simp only [normalize, prefers, if_true, Environment.resolvePreferred, Environment.records,
    hlookup]
  cases answer with
  | done found => cases found <;> rfl
  | failed fault => rfl
  | abandoned => rfl

/-- Where IPv4 is preferred, a host is looked up once. -/
theorem normalize_calls (prefers : tunnel.prefersIpv4 = true) {text : String} {address : Address}
    {aimed : Ending Failure Address} {ledger sought : Ledger ω ν}
    (h : normalize (env.recorded note) tunnel text address ledger = (aimed, sought)) :
    ∃ answer, sought.calls = ledger.calls ++ [.lookup text answer] ∧
      aimed = answered text address.port answer := by
  rcases hfound : env.lookup tunnel.resolver text ledger.world with ⟨answer, world⟩
  rw [normalize_recorded prefers hfound] at h
  obtain ⟨rfl, rfl⟩ := Prod.mk.inj h
  refine ⟨answer, ?_, rfl⟩
  have hentered := Ledger.calls_enter ledger (.lookup text answer) none none world
  cases answer with
  | failed fault => exact (Ledger.calls_write _ _ _).trans hentered
  | _ => exact hentered

/-- A host that is told is looked up by its own text. -/
theorem aim_of_ofText {env : Environment ω τ π ρ} {tunnel : Tunnel τ π ρ} {text : String}
    {host : Host} (hhost : Host.ofText text = .ok host) (port : UInt16) (world : ω) :
    aim env tunnel (.host text port) world =
      normalize env tunnel host.text ⟨host, port⟩ world := by
  unfold aim aimAtHost
  dsimp only
  rw [hhost]

/-- Where IPv4 is not preferred, nothing is looked up. -/
theorem normalize_of_not_preferred {env : Environment ω τ π ρ} {tunnel : Tunnel τ π ρ}
    (indifferent : tunnel.prefersIpv4 = false) (text : String) (address : Address) (world : ω) :
    normalize env tunnel text address world = (.done address, world) := by
  simp [normalize, indifferent]

/-- The address that an attempt is told, if it is one. -/
def Goal.address? : Goal → Option Address
  | .host text port => (Address.ofHost text port).toOption
  | .endpoint (.inet address) _ => some (Address.ofSocketAddress address)
  | .endpoint (.localPath _) _ => none

/-- An attempt is refused at once if it is told no address, and otherwise the host of that address
is looked up where IPv4 is preferred. -/
theorem aim_cases (env : Environment ω τ π ρ) (tunnel : Tunnel τ π ρ) (goal : Goal) :
    (goal.address? = none ∧ ∃ failure, ∀ world,
        aim env tunnel goal world = (.failed failure, world)) ∨
      ∃ told text, goal.address? = some told ∧ ∀ world,
        aim env tunnel goal world = normalize env tunnel text told world := by
  cases goal with
  | host text port =>
      unfold aim aimAtHost Goal.address? Address.ofHost
      dsimp only
      generalize Host.ofText text = parsed
      cases parsed with
      | error cause => exact .inl ⟨rfl, _, fun _ => rfl⟩
      | ok host => exact .inr ⟨_, _, rfl, fun _ => rfl⟩
  | endpoint endpoint limit =>
      cases endpoint with
      | localPath path => exact .inl ⟨rfl, _, fun _ => rfl⟩
      | inet address => exact .inr ⟨_, _, rfl, fun _ => rfl⟩

/-- Where IPv4 is not preferred, an attempt is at the address that it is told. -/
theorem aim_of_not_preferred (env : Environment ω τ π ρ) {tunnel : Tunnel τ π ρ}
    (indifferent : tunnel.prefersIpv4 = false) (goal : Goal) (world : ω) :
    ∃ aimed, aim env tunnel goal world = (aimed, world) ∧
      (∀ target, goal.address? = some target → aimed = .done target) ∧
      (goal.address? = none → ∃ failure, aimed = .failed failure) := by
  rcases aim_cases env tunnel goal with ⟨hnone, failure, haim⟩ | ⟨told, text, htold, haim⟩
  · exact ⟨_, haim world, by simp [hnone], fun _ => ⟨failure, rfl⟩⟩
  · refine ⟨_, (haim world).trans (normalize_of_not_preferred indifferent text told world), ?_,
      by simp [htold]⟩
    intro target htarget
    obtain rfl : told = target := by simpa [htold] using htarget
    rfl

/-! ## Attempts -/

/-- What an attempt that has made the given calls shows if it is one at a target: the target is what
the tunnel is made ready for, what it stores, and what the last proxy is asked for. -/
structure LeadsTo (env : Environment ω τ π ρ) (note : τ → ω → ν) (route : Route π)
    (tunnel : Tunnel (Numbered τ) (Numbered π) ρ) (goal : Goal) (ledger : Ledger ω ν)
    (made : List Call) (target : Address)
    (result : Ending Failure Unit × Tunnel (Numbered τ) (Numbered π) ρ × Ledger ω ν) : Prop where
  /-- The tunnel is made ready for the target, if at all. -/
  prepares : ∀ other, prepares (env.recorded note) tunnel (.pursue goal) ledger = some other →
    other = target
  /-- If so, it is stored, and the proxies are asked for their stops on the way to it. -/
  pursued : Pursued route tunnel ledger
    (Tunnel.prepares (env.recorded note) tunnel (.pursue goal) ledger) result
  /-- The last proxy is asked for nothing but the target. -/
  last_asked : ∀ hop stop transport answer, Call.request hop stop transport answer ∈ made →
    hop + 1 = route.length → stop = target

/-- An attempt leads to the address that it has found, and looks nothing up from then on.  What it
asks for is known from `pursue_requests`. -/
theorem leadsTo_of_aim (hroute : tunnel.route = route.numbered) {goal : Goal} {target : Address}
    {ledger sought later : Ledger ω ν} {ending : Ending Failure Unit}
    {after : Tunnel (Numbered τ) (Numbered π) ρ}
    (h : pursue (env.recorded note) tunnel goal ledger = (ending, after, later))
    (haim : aim (env.recorded note) tunnel goal ledger = (.done target, sought))
    {lookups : List Call} (hsought : sought.calls = ledger.calls ++ lookups) :
    ∃ others, later.calls = ledger.calls ++ (lookups ++ others) ∧
      (∀ call ∈ others, ¬ call.IsLookup) ∧
      LeadsTo env note route tunnel goal ledger (lookups ++ others) target
        (ending, after, later) := by
  have hpursued := pursue_requests env note hroute goal ledger
  obtain ⟨others, hcalls, hothers⟩ :=
    attempt_not_isLookup env note hroute target goal.limit? sought
  have hattempt := h
  rw [pursue_eq, haim] at hattempt
  dsimp only at hattempt
  rw [hattempt, hsought, List.append_assoc] at hcalls
  have hprepares : ∀ other, prepares (env.recorded note) tunnel (.pursue goal) ledger = some other →
      other = target := by
    intro other hother
    obtain ⟨found, haim'⟩ := aim_of_prepares hother
    rw [haim] at haim'
    obtain ⟨hsame, -⟩ := Prod.mk.inj haim'
    exact (Ending.done.inj hsame).symm
  rw [h] at hpursued
  refine ⟨others, hcalls, hothers, hprepares, hpursued, ?_⟩
  intro hop stop transport answer hcall hlast
  have hasked : (stop, hop) ∈ (lookups ++ others).filterMap Call.asked? :=
    List.mem_filterMap.mpr ⟨_, hcall, rfl⟩
  have hrequests : later.requests =
      ledger.requests ++ (lookups ++ others).filterMap Call.asked? := by
    rw [Ledger.requests, hcalls, List.filterMap_append, Ledger.requests]
  generalize prepares (env.recorded note) tunnel (.pursue goal) ledger = prepared
    at hprepares hpursued
  cases hpursued with
  | unready not_done destination requests =>
      rw [requests, List.self_eq_append_right] at hrequests
      rw [hrequests] at hasked
      cases hasked
  | @ready other _ _ _ count destination requests whole =>
      obtain rfl := hprepares other rfl
      rw [requests, List.append_cancel_left_eq] at hrequests
      rw [← hrequests] at hasked
      have hstop := Route.getElem?_of_mem_zipIdx hasked
      rw [route.stops_last other hlast] at hstop
      exact (Option.some.inj hstop).symm

/-- **Where IPv4 is preferred, a host is looked up once and first.**  It is looked up by its own
text: that of the address that an IP literal stands for, or the ASCII form of a domain.  If there is
no answer with a record the attempt ends there; otherwise it leads to the host that is preferred
among the records, which is an IP address that stands for no other.  Where IPv4 is not preferred
nothing is looked up, and the attempt leads to the address that it is told. -/
theorem looks_up_once (hroute : tunnel.route = route.numbered) {ledger later : Ledger ω ν}
    {ending : Ending Failure Unit} {after : Tunnel (Numbered τ) (Numbered π) ρ} :
    (∀ text host, Host.ofText text = .ok host →
      match Ip.read? (Host.stripBrackets text.toList) with
      | some ip => host = Host.ofIp ip ∧ host.text = ip.canonical.text
      | none => ∃ name, Name.Domain.ofText? (Host.stripBrackets text.toList) = some name ∧
          host = .domain (String.ofList name) ∧ host.text = String.ofList name) ∧
    (∀ text port host, tunnel.prefersIpv4 = true → Host.ofText text = .ok host →
      connect (env.recorded note) tunnel text port ledger = (ending, after, later) →
      ∃ answer others, later.calls = ledger.calls ++ .lookup host.text answer :: others ∧
        (∀ call ∈ others, ¬ call.IsLookup) ∧
        match answer with
        | .failed _ | .done [] =>
          others = [] ∧ ending = .failed (.hostUnresolvable host.text) ∧ after = tunnel
        | .abandoned => others = [] ∧ ending = .abandoned ∧ after = tunnel
        | .done (first :: more) =>
          ∃ target, target.port = port ∧ Ip.Preferred (first :: more) target.host ∧
            ((∃ inner, target.host = .v4 inner) ∨
              ∃ same, target.host = .v6 same ∧ same.unmap? = none) ∧
            LeadsTo env note route tunnel (.host text port) ledger
              (.lookup host.text answer :: others) target (ending, after, later)) ∧
    (∀ goal, tunnel.prefersIpv4 = false →
      pursue (env.recorded note) tunnel goal ledger = (ending, after, later) →
      ∃ made, later.calls = ledger.calls ++ made ∧ (∀ call ∈ made, ¬ call.IsLookup) ∧
        ∀ target, goal.address? = some target →
          LeadsTo env note route tunnel goal ledger made target (ending, after, later)) := by
  refine ⟨fun text host => Host.text_of_ofText, ?_, ?_⟩
  · intro text port host prefers hhost h
    have hpursue : pursue (env.recorded note) tunnel (.host text port) ledger =
        (ending, after, later) := h
    rcases haim : aim (env.recorded note) tunnel (.host text port) ledger with ⟨aimed, sought⟩
    have hnormalize := haim
    rw [aim_of_ofText hhost] at hnormalize
    obtain ⟨answer, hsought, rfl⟩ := normalize_calls prefers hnormalize
    have hunfound := hpursue
    rw [pursue_eq, haim] at hunfound
    cases answer with
    | failed fault =>
        obtain ⟨rfl, rfl, rfl⟩ := by simpa [answered] using hunfound
        exact ⟨_, [], hsought, by simp, rfl, rfl, rfl⟩
    | abandoned =>
        obtain ⟨rfl, rfl, rfl⟩ := by simpa [answered] using hunfound
        exact ⟨_, [], hsought, by simp, rfl, rfl, rfl⟩
    | done found =>
        cases found with
        | nil =>
            obtain ⟨rfl, rfl, rfl⟩ := by simpa [answered] using hunfound
            exact ⟨_, [], hsought, by simp, rfl, rfl, rfl⟩
        | cons first more =>
            obtain ⟨others, hcalls, hothers, hleads⟩ := leadsTo_of_aim hroute hpursue haim hsought
            have hpreferred := Ip.preferred_preferV4 first more
            exact ⟨_, others, hcalls, hothers, _, rfl, hpreferred, hpreferred.isIp, hleads⟩
  · intro goal indifferent h
    obtain ⟨aimed, haim, hfound, hnone⟩ :=
      aim_of_not_preferred (env.recorded note) indifferent goal ledger
    cases haddress : goal.address? with
    | none =>
        obtain ⟨failure, rfl⟩ := hnone haddress
        rw [pursue_eq, haim] at h
        obtain ⟨rfl, rfl, rfl⟩ := by simpa using h
        exact ⟨[], by simp, by simp, by simp⟩
    | some target =>
        obtain rfl := hfound target haddress
        obtain ⟨others, hcalls, hothers, hleads⟩ :=
          leadsTo_of_aim hroute h haim (List.append_nil _).symm
        refine ⟨others, hcalls, hothers, fun other hother => ?_⟩
        obtain rfl : target = other := Option.some.inj hother
        exact hleads

/-- Where the second record of a host stands for an IPv4 address, that is the destination and what
the last proxy is asked for. -/
theorem prefers_mapped_record :
    let env := Scripted.environment.recorded fun _ _ => ()
    let mapped : Ipv6 := ⟨[0, 0, 0, 0, 0, 0xffff, 0xc633, 0x6407], rfl⟩
    let other : Ipv6 := ⟨[0x2001, 0xdb8, 0, 0, 0, 0, 0, 1], rfl⟩
    let hosts : List (String × Except IoKind (List Ip)) :=
      [("example.org", .ok [.v6 other, .v6 mapped])]
    let (new, ledger) := create env (Scripted.throughTwo {}).numbered true (.start {})
    let (_, after, later) :=
      connect env { new with resolver := .listed hosts } "[Example.ORG]" 443 ledger
    let target : Address := ⟨.v4 ⟨198, 51, 100, 7⟩, 443⟩
    (∃ answer others, later.calls = ledger.calls ++ .lookup "example.org" answer :: others ∧
        ∀ call ∈ others, ¬ call.IsLookup) ∧
      after.destination = some target ∧ (target, 1) ∈ later.requests := by
  intro env mapped other hosts
  have hhost : Host.ofText "[Example.ORG]" = .ok (.domain "example.org") :=
    Host.read_eq_domain_iff.mpr ⟨by decide +kernel, by decide +kernel⟩
  obtain ⟨answer, others, hcalls, hothers, -⟩ :=
    (@looks_up_once _ _ _ _ _ Scripted.environment (fun _ _ => ())
      { (create env (Scripted.throughTwo {}).numbered true (.start {})).1 with
        resolver := .listed hosts }
      (Scripted.throughTwo {}) rfl
      (create env (Scripted.throughTwo {}).numbered true (.start {})).2 _ _ _).2.1
      "[Example.ORG]" 443 _ rfl hhost rfl
  refine ⟨⟨answer, others, hcalls, hothers⟩, ?_, ?_⟩
  · decide +kernel
  · decide +kernel

end Tunnel

end RelayRoute
