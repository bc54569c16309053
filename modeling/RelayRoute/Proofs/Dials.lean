import RelayRoute.Proofs.Prepared

/-!
# The dial of an attempt

An attempt dials at most once: the head of its route, over the transport that the tunnel was made
ready with.  What a dial finds, and what becomes of its transport, is read off here once, so that no
attempt has to be opened again for it.

* `Ledger.Undialed` — between two states of a ledger nobody was dialed;
* `Environment.Carries` — what is true of a transport and stays so while proxies are asked over it;
* `Environment.Dialed`, `walk_dialed` — a walk over a transport that is not connected dials it, and
  is followed to what it leaves of the transport;
* `Pursuit`, `pursuit` — what comes before the dial of an attempt and after it; every attempt is one
  of these;
* `Operated`, `operated` — the same for any operation, in which only attempts dial;
* `Reachable.dials` — whatever holds of the dial of every attempt holds of all dials of a run;
* `Scripted.Lasting` — what is true of a transport of a rehearsal whatever is done with it.
-/

namespace RelayRoute

variable {ω τ π ρ ν : Type}

/-- Whether an entry is a dial. -/
def Entry.IsDial : Entry ν → Prop
  | .call (.dial _ _ _) _ _ => True
  | _ => False

/-- Between two states of a ledger nobody was dialed. -/
def Ledger.Undialed (earlier later : Ledger ω ν) : Prop :=
  ∃ made, later.entries = earlier.entries ++ made ∧ ∀ entry ∈ made, ¬ entry.IsDial

theorem Entry.isDial_iff {entry : Entry ν} :
    entry.IsDial ↔ ∃ hop n ending before after,
      entry = .call (.dial hop n ending) before after := by
  constructor
  · intro h
    cases entry with
    | record record => cases h
    | call call before after =>
        cases call with
        | dial hop n ending => exact ⟨hop, n, ending, before, after, rfl⟩
        | _ => cases h
  · rintro ⟨hop, n, ending, before, after, rfl⟩
    trivial

/-- The calls between two states of a ledger are those among the entries. -/
theorem Ledger.calls_of_entries {earlier later : Ledger ω ν} {made : List (Entry ν)}
    (h : later.entries = earlier.entries ++ made) :
    later.calls = earlier.calls ++ made.filterMap Entry.call? := by
  rw [calls, h, List.filterMap_append, calls]

namespace Ledger.Undialed

variable {earlier middle later : Ledger ω ν}

theorem refl (ledger : Ledger ω ν) : ledger.Undialed ledger :=
  ⟨[], by simp, by simp⟩

/-- One thing after another was done. -/
theorem trans (h : earlier.Undialed middle) (h' : middle.Undialed later) :
    earlier.Undialed later := by
  obtain ⟨made, hmade, hnone⟩ := h
  obtain ⟨made', hmade', hnone'⟩ := h'
  refine ⟨made ++ made', by rw [hmade', hmade, List.append_assoc], fun entry hentry => ?_⟩
  rcases List.mem_append.mp hentry with hentry | hentry
  · exact hnone entry hentry
  · exact hnone' entry hentry

theorem of_entry {entry : Entry ν} (h : later.entries = earlier.entries ++ [entry])
    (hentry : ¬ entry.IsDial) : earlier.Undialed later :=
  ⟨[entry], h, by simpa using hentry⟩

theorem of_calls {made : List Call} (growth : earlier.entries <+: later.entries)
    (calls : later.calls = earlier.calls ++ made)
    (none_dials : ∀ hop n ending, Call.dial hop n ending ∉ made) : earlier.Undialed later := by
  obtain ⟨entries, hentries⟩ := growth
  have hmade : entries.filterMap Entry.call? = made :=
    List.append_cancel_left ((Ledger.calls_of_entries hentries.symm).symm.trans calls)
  refine ⟨entries, hentries.symm, fun entry hentry hdial => ?_⟩
  obtain ⟨hop, n, ending, before, after, rfl⟩ := Entry.isDial_iff.mp hdial
  refine none_dials hop n ending ?_
  rw [← hmade]
  exact List.mem_filterMap.mpr ⟨_, hentry, rfl⟩

/-- A dial that is entered later was entered before. -/
theorem mem (h : earlier.Undialed later) {entry : Entry ν} (hdial : entry.IsDial)
    (hentry : entry ∈ later.entries) : entry ∈ earlier.entries := by
  obtain ⟨made, hmade, hnone⟩ := h
  rw [hmade] at hentry
  rcases List.mem_append.mp hentry with hentry | hentry
  · exact hentry
  · exact absurd hdial (hnone entry hentry)

end Ledger.Undialed

namespace Environment

/-! ## What a transport carries along -/

/-- What may be true of a transport, and is not changed by asking proxies over it, nor by calls that
are not given the transport. -/
structure Carries (env : Environment ω τ π ρ) (P : τ → ω → Prop) : Prop where
  log (record : LogRecord) {transport : τ} {world : ω} (h : P transport world) :
    P transport (env.log record world)
  lookup (resolver : ρ) (host : String) {transport : τ} {world : ω} (h : P transport world) :
    P transport (env.lookup resolver host world).2
  markReached (proxy : Proxy π) {transport : τ} {world : ω} (h : P transport world) :
    P transport (env.markReached proxy world).2
  request (proxy : Proxy π) (target : Address) {transport : τ} {world : ω}
    (h : P transport world) :
    P (env.request proxy target transport world).2.2.1
      (env.request proxy target transport world).2.2.2

namespace Carries

variable {env : Environment ω τ π ρ} {P : τ → ω → Prop} (h : env.Carries P)

include h

/-- Keeping a ledger changes nothing. -/
theorem recorded (note : τ → ω → ν) :
    (env.recorded note).Carries fun transport ledger => P transport.value ledger.world where
  log record _ _ hp := h.log record hp
  lookup resolver host _ _ hp := h.lookup resolver host hp
  markReached proxy _ _ hp := h.markReached ⟨proxy.address, proxy.state.value⟩ hp
  request proxy target _ _ hp := h.request ⟨proxy.address, proxy.state.value⟩ target hp

theorem ask {hop hop' : Proxy π} {target : Address} {transport carried : τ} {world asked : ω}
    {ending : Ending Failure Unit} (hp : P transport world)
    (hask : env.ask hop target transport world = (ending, hop', carried, asked)) :
    P carried asked := by
  have hrequest := h.request hop target (h.log (.asking hop.address target) hp)
  unfold Environment.ask at hask
  dsimp only at hask
  generalize env.request hop target transport (env.log (.asking hop.address target) world) =
    result at hrequest hask
  obtain ⟨answer, state, carried', world'⟩ := result
  cases answer with
  | failed fault =>
      obtain ⟨-, -, rfl, rfl⟩ := by simpa using hask
      exact h.log _ hrequest
  | _ =>
      obtain ⟨-, -, rfl, rfl⟩ := by simpa using hask
      exact hrequest

/-- Walking on from a proxy that is reached.  The induction is on the proxies that are left, and
each of them is asked over the same transport. -/
theorem relay {target : Address} {reached : Proxy π} {others : List (Proxy π)}
    {transport carried : τ} {world later : ω} {ending : Ending Failure Unit} {walked : Route π}
    (hp : P transport world) (hrelay : env.relay target reached others transport world =
      (ending, walked, carried, later)) : P carried later := by
  induction others generalizing reached transport world ending walked with
  | nil =>
      rcases hask : env.ask reached target transport world with ⟨answer, hop, carried', asked⟩
      simp only [Environment.relay, hask] at hrelay
      obtain ⟨-, -, rfl, rfl⟩ := by simpa using hrelay
      exact h.ask hp hask
  | cons next others ih =>
      rcases hask : env.ask reached next.address transport world with
        ⟨answer, hop, carried', asked⟩
      have hasked := h.ask hp hask
      simp only [Environment.relay, hask] at hrelay
      cases answer with
      | done _ =>
          rcases hfurther : env.relay target { next with state := (env.markReached next asked).1 }
            others carried' (env.markReached next asked).2 with ⟨ending', further, last, finished⟩
          simp only [hfurther] at hrelay
          obtain ⟨-, -, rfl, rfl⟩ := by simpa using hrelay
          exact ih (h.markReached next hasked) hfurther
      | _ =>
          obtain ⟨-, -, rfl, rfl⟩ := by simpa using hrelay
          exact hasked

end Carries

/-! ## Single calls -/

variable (env : Environment ω τ π ρ) (note : τ → ω → ν)

/-- Closing a transport is one call. -/
theorem calls_close (transport : Numbered τ) (ledger : Ledger ω ν) :
    ((env.recorded note).close transport ledger).2.2.calls =
      ledger.calls ++ [.close transport.number (env.close transport.value ledger.world).1] :=
  Ledger.calls_enter ledger _ _ _ _

/-- Doing something with a transport is one call. -/
theorem calls_perform (action : Action) (transport : Numbered τ) (ledger : Ledger ω ν) :
    ((env.recorded note).perform action transport ledger).2.2.calls =
      ledger.calls ++
        [.perform transport.number action (env.perform action transport.value ledger.world).1] :=
  Ledger.calls_enter ledger _ _ _ _

/-! ## The dial of a walk -/

/-- Nothing that is done before a dial is one. -/
theorem recorded_respects_undialed : (env.recorded note).RespectsPreparing Ledger.Undialed where
  refl := .refl
  trans := .trans
  lookup _ _ _ := .of_entry rfl id
  log _ _ := .of_entry rfl id
  perform _ _ _ := .of_entry rfl id
  close _ _ := .of_entry rfl id
  create _ _ := .of_entry rfl id

/-- A walk dials a transport, and after that proxies are asked over it, if it was reached.  The
transport that comes of it is what a dial in vain has left of it, and has all that the dial gave it
and asking proxies does not take away. -/
inductive Dialed (route : Route π) (transport carried : Numbered τ) (ledger later : Ledger ω ν) :
    Prop
  | intro {answer : Ending IoFault Unit} {state : π} {value : τ} {world : ω} {relays : List Call}
    (is_dialed : env.dial route.head transport.value ledger.world = (answer, state, value, world))
    (undialed : (ledger.enter (.dial 0 transport.number answer)
      (some (note transport.value ledger.world)) (some (note value world)) world).Undialed later)
    (calls : later.calls = ledger.calls ++ .dial 0 transport.number answer :: relays)
    (only_relays : ∀ call ∈ relays, call.Relays transport.number)
    (kept : answer ≠ .done () → carried.value = value)
    (carries : ∀ {P : τ → ω → Prop}, env.Carries P → P value world →
      P carried.value later.world)

variable {env note}

/-- A record in the log changes nothing. -/
theorem Dialed.log {route : Route π} {transport carried : Numbered τ} {ledger later : Ledger ω ν}
    (h : env.Dialed note route transport carried ledger later) (record : LogRecord) :
    env.Dialed note route transport carried ledger ((env.recorded note).log record later) := by
  obtain ⟨is_dialed, undialed, calls, only_relays, kept, carries⟩ := h
  refine ⟨is_dialed, undialed.trans ?_, ?_, only_relays, kept, fun hcarries hp => ?_⟩
  · exact (env.recorded_respects_undialed note).log record later
  · exact (Ledger.calls_write later record _).trans calls
  · exact hcarries.log record (carries hcarries hp)

/-- The only dial that is entered is that of the walk. -/
theorem Dialed.entry {route : Route π} {transport carried : Numbered τ}
    {ledger dialing later : Ledger ω ν}
    (h : env.Dialed note route transport carried dialing later) (undialed : ledger.Undialed dialing)
    {made : List (Entry ν)} (hmade : later.entries = ledger.entries ++ made) {entry : Entry ν}
    (hentry : entry ∈ made) (hdial : entry.IsDial) :
    ∃ answer value world, entry = .call (.dial 0 transport.number answer)
        (some (note transport.value dialing.world)) (some (note value world)) ∧
      (answer ≠ .done () → carried.value = value) := by
  obtain ⟨before, hbefore, hfirst⟩ := undialed
  obtain ⟨-, ⟨rest, hrest, hlast⟩, -, -, hkept, -⟩ := h
  rw [Ledger.entries_enter, hbefore, hmade, List.append_assoc, List.append_assoc] at hrest
  rw [List.append_cancel_left hrest] at hentry
  rcases List.mem_append.mp hentry with hentry | hentry
  · exact absurd hdial (hfirst entry hentry)
  · rcases List.mem_cons.mp hentry with rfl | hentry
    · exact ⟨_, _, _, rfl, hkept⟩
    · exact absurd hdial (hlast entry hentry)

/-- The dial of a walk is entered, and so is what comes after it. -/
theorem Dialed.entered {route : Route π} {transport carried : Numbered τ}
    {ledger dialing later : Ledger ω ν}
    (h : env.Dialed note route transport carried dialing later)
    (undialed : ledger.Undialed dialing) :
    ∃ made answer noted relays, later.entries = ledger.entries ++ made ∧
      .call (.dial 0 transport.number answer) (some (note transport.value dialing.world))
        (some noted) ∈ made ∧
      later.calls = dialing.calls ++ .dial 0 transport.number answer :: relays ∧
      ∀ call ∈ relays, call.Relays transport.number := by
  obtain ⟨before, hbefore, -⟩ := undialed
  obtain ⟨-, ⟨rest, hrest, -⟩, hcalls, honly, -, -⟩ := h
  rw [Ledger.entries_enter, hbefore, List.append_assoc, List.append_assoc] at hrest
  exact ⟨_, _, _, _, hrest, List.mem_append_right _ List.mem_cons_self, hcalls, honly⟩

/-- What is left of a walk after its dial: nothing, a record, or asking proxies.  In any case the
entries of the dial are kept, and what is then called is asking proxies over the transport that was
dialed. -/
theorem walk_of_dialed {route : Route π} {target : Address} {transport carried : Numbered τ}
    {ledger dialed later : Ledger ω ν} {answer : Ending IoFault Unit} {state : π} {value : τ}
    {ending : Ending Failure Unit} {walked : Route (Numbered π)}
    (hdial : (env.recorded note).dial route.numbered.head transport ledger =
      (answer, ⟨0, state⟩, ⟨transport.number, value⟩, dialed))
    (unconnected : env.observe .isConnected transport.value ledger.world = false)
    (h : (env.recorded note).walk route.numbered target transport ledger =
      (ending, walked, carried, later)) :
    dialed.entries <+: later.entries ∧ ∃ relays, later.calls = dialed.calls ++ relays ∧
      (∀ call ∈ relays, call.Relays transport.number) ∧
      (answer ≠ .done () → carried.value = value) ∧
      ∀ {P : τ → ω → Prop}, env.Carries P → P value dialed.world →
        P carried.value later.world := by
  have hobserve : (env.recorded note).observe .isConnected transport ledger = false := unconnected
  simp only [walk, hobserve, Bool.false_eq_true, if_false, hdial] at h
  cases answer with
  | failed fault =>
      obtain ⟨-, -, rfl, rfl⟩ := by simpa using h
      exact ⟨List.prefix_append _ _, [],
        (Ledger.calls_write dialed _ _).trans (List.append_nil _).symm, by simp, fun _ => rfl,
        fun hcarries hp => hcarries.log _ hp⟩
  | abandoned =>
      obtain ⟨-, -, rfl, rfl⟩ := by simpa using h
      exact ⟨List.prefix_rfl, [], (List.append_nil _).symm, by simp, fun _ => rfl, fun _ hp => hp⟩
  | done _ =>
      have hgrowth := (env.recorded_respects_growth note).relay target
        ⟨route.head.address, ⟨0, state⟩⟩ route.numbered.rest ⟨transport.number, value⟩ dialed
      have hrelay : (env.recorded note).relay target ⟨route.head.address, ⟨0, state⟩⟩
        route.numbered.rest ⟨transport.number, value⟩ dialed = (ending, walked, carried, later) := h
      rw [hrelay] at hgrowth
      obtain ⟨-, k, blamed, last, -, -, -, hcalls⟩ :=
        env.relay_calls note ⟨route.head.address, ⟨0, state⟩⟩ h
      refine ⟨hgrowth, _, hcalls, fun call hcall => Route.relays_of_mem_requests hcall,
        fun hfailed => absurd rfl hfailed, fun hcarries hp => ?_⟩
      refine (hcarries.recorded note).relay ?_ h
      exact hp

/-- A walk over a transport that is not connected dials it. -/
theorem walk_dialed {route : Route π} {target : Address} {transport carried : Numbered τ}
    {ledger later : Ledger ω ν} {ending : Ending Failure Unit} {walked : Route (Numbered π)}
    (h : (env.recorded note).walk route.numbered target transport ledger =
      (ending, walked, carried, later))
    (unconnected : env.observe .isConnected transport.value ledger.world = false) :
    env.Dialed note route transport carried ledger later := by
  rcases hd : env.dial route.head transport.value ledger.world with ⟨answer, state, value, world⟩
  generalize hdialed : ledger.enter (.dial 0 transport.number answer)
    (some (note transport.value ledger.world)) (some (note value world)) world = dialed
  have hdial : (env.recorded note).dial route.numbered.head transport ledger =
      (answer, ⟨0, state⟩, ⟨transport.number, value⟩, dialed) := by
    simp only [recorded, Route.numbered, hd, hdialed]
  obtain ⟨hgrowth, relays, hcalls, hrelays, hkept, hcarries⟩ := walk_of_dialed hdial unconnected h
  have hworld : dialed.world = world := by rw [← hdialed, Ledger.world_enter]
  have hentered : dialed.calls = ledger.calls ++ [.dial 0 transport.number answer] := by
    rw [← hdialed, Ledger.calls_enter]
  rw [hworld] at hcarries
  refine ⟨hd, ?_, ?_, hrelays, hkept, hcarries⟩
  · rw [hdialed]
    refine .of_calls hgrowth hcalls fun hop n ending hmem => ?_
    cases hrelays _ hmem
  · rw [hcalls, hentered, List.append_assoc]
    rfl

end Environment

namespace Tunnel

variable (env : Environment ω τ π ρ) (note : τ → ω → ν)
  (tunnel : Tunnel (Numbered τ) (Numbered π) ρ)

/-! ## The dial of an attempt -/

/-- What an attempt over a route does: how it ends, and the tunnel and the ledger after it. -/
inductive Pursuit (route : Route π) (goal : Goal) (ledger : Ledger ω ν) :
    Ending Failure Unit → Tunnel (Numbered τ) (Numbered π) ρ → Ledger ω ν → Prop
  /-- No address is found. -/
  | unaimed {aimed : Ending Failure Address} {ending : Ending Failure Unit} {sought : Ledger ω ν}
    (is_sought : aim (env.recorded note) tunnel goal ledger = (aimed, sought))
    (none_found : ∀ target, aimed ≠ .done target) : Pursuit route goal ledger ending tunnel sought
  /-- The tunnel cannot be made ready. -/
  | unready {target : Address} {failure : Failure} {sought readied : Ledger ω ν}
    {prepared : Tunnel (Numbered τ) (Numbered π) ρ}
    (is_aimed : aim (env.recorded note) tunnel goal ledger = (.done target, sought))
    (is_ready : ready (env.recorded note) tunnel
      ((env.recorded note).copyRoute tunnel.route sought).2 = (.error failure, prepared, readied)) :
    Pursuit route goal ledger (.failed failure) prepared readied
  /-- The transport is connected by the time it should be dialed. -/
  | undialed {target : Address} {sought readied later : Ledger ω ν}
    {prepared after : Tunnel (Numbered τ) (Numbered π) ρ} {transport limited : Numbered τ}
    (is_aimed : aim (env.recorded note) tunnel goal ledger = (.done target, sought))
    (is_ready : ready (env.recorded note) tunnel
      ((env.recorded note).copyRoute tunnel.route sought).2 = (.ok transport, prepared, readied))
    (is_limited : limitDial (env.recorded note) goal.limit? transport readied = (limited, later))
    (connected : env.observe .isConnected limited.value later.world = true)
    (holds : after.transport = some limited) :
    Pursuit route goal ledger (.failed (.invalidState .transportInUse)) after later
  /-- The transport is dialed. -/
  | dialed {target : Address} {ending : Ending Failure Unit} {walk : List Call}
    {sought readied dialing later : Ledger ω ν}
    {prepared after : Tunnel (Numbered τ) (Numbered π) ρ} {transport limited carried : Numbered τ}
    (is_aimed : aim (env.recorded note) tunnel goal ledger = (.done target, sought))
    (is_ready : ready (env.recorded note) tunnel
      ((env.recorded note).copyRoute tunnel.route sought).2 = (.ok transport, prepared, readied))
    (is_limited : limitDial (env.recorded note) goal.limit? transport readied = (limited, dialing))
    (unconnected : env.observe .isConnected limited.value dialing.world = false)
    (is_dialed : env.Dialed note route limited carried dialing later)
    (calls : later.calls = dialing.calls ++ walk)
    (walks : route.Walked target limited.number walk ending) (numbers : dialing.Numbers later)
    (holds : after.transport = some carried) (number : carried.number = limited.number) :
    Pursuit route goal ledger ending after later

variable {env note tunnel}

/-- **An attempt over a route does what `Pursuit` lists.**  However the walk ends, the ledger after
it may have one more record, so what is said of the dial is said up to records. -/
theorem pursuit {route : Route π} (hroute : tunnel.route = route.numbered) {goal : Goal}
    {ledger later : Ledger ω ν} {ending : Ending Failure Unit}
    {after : Tunnel (Numbered τ) (Numbered π) ρ}
    (h : pursue (env.recorded note) tunnel goal ledger = (ending, after, later)) :
    Pursuit env note tunnel route goal ledger ending after later := by
  rw [pursue_eq] at h
  rcases haim : aim (env.recorded note) tunnel goal ledger with ⟨aimed, sought⟩
  rw [haim] at h
  cases aimed with
  | failed failure =>
      obtain ⟨-, rfl, rfl⟩ := by simpa using h
      exact .unaimed haim (by simp)
  | abandoned =>
      obtain ⟨-, rfl, rfl⟩ := by simpa using h
      exact .unaimed haim (by simp)
  | done target =>
      dsimp only at h
      have hwalking {transport limited carried : Numbered τ} {readied dialing finished : Ledger ω ν}
          {prepared : Tunnel (Numbered τ) (Numbered π) ρ} {walked : Route (Numbered π)}
          (is_ready : ready (env.recorded note) tunnel
            ((env.recorded note).copyRoute tunnel.route sought).2 =
              (.ok transport, prepared, readied))
          (is_limited : limitDial (env.recorded note) goal.limit? transport readied =
            (limited, dialing))
          (is_walked : (env.recorded note).walk tunnel.route target limited dialing =
            (ending, walked, carried, finished))
          (holds : after.transport = some carried)
          (logged : later = finished ∨ ending = .done () ∧
            ∃ record, later = (env.recorded note).log record finished) :
          Pursuit env note tunnel route goal ledger ending after later := by
        rw [hroute] at is_walked
        cases hconnected : env.observe .isConnected limited.value dialing.world with
        | true =>
            have hobserve : (env.recorded note).observe .isConnected limited dialing = true :=
              hconnected
            simp only [Environment.walk, hobserve, if_true] at is_walked
            obtain ⟨rfl, -, rfl, rfl⟩ := by simpa using is_walked
            obtain rfl | ⟨hdone, -⟩ := logged
            · exact .undialed haim is_ready is_limited hconnected holds
            · cases hdone
        | false =>
            have hdialed := Environment.walk_dialed is_walked hconnected
            obtain ⟨hnumber, walk, hwalk, hwalked⟩ := env.walk_calls note is_walked hconnected
            have hnumbers := (env.recorded_respects_numbers note).walk route.numbered target limited
              dialing
            rw [is_walked] at hnumbers
            obtain rfl | ⟨-, record, rfl⟩ := logged
            · exact .dialed haim is_ready is_limited hconnected hdialed hwalk hwalked hnumbers holds
                hnumber
            · have hcalls : ((env.recorded note).log record finished).calls =
                  dialing.calls ++ walk := (Ledger.calls_write finished record _).trans hwalk
              have hlogged := (env.recorded_respects_numbers note).log record finished
              exact .dialed haim is_ready is_limited hconnected (hdialed.log record) hcalls hwalked
                ((env.recorded_respects_numbers note).trans hnumbers hlogged) holds hnumber
      have hattempted := attempted (env.recorded note) tunnel target goal.limit? sought
      rw [h] at hattempted
      cases hattempted with
      | unready is_ready => exact .unready haim is_ready
      | connected is_ready is_limited is_walked =>
          exact hwalking is_ready is_limited is_walked rfl (.inr ⟨rfl, _, rfl⟩)
      | stranded is_ready is_limited is_walked not_done =>
          exact hwalking is_ready is_limited is_walked rfl (.inl rfl)

/-- A tunnel that needs a new transport creates one, and sets it up. -/
theorem Vacated.renewed_calls {ledger started later : Ledger ω ν}
    {vacant renewed : Tunnel (Numbered τ) (Numbered π) ρ} {reply : Except Failure (Numbered τ)}
    (hvacated : Vacated (env.recorded note) tunnel ledger vacant started)
    (hrenew : renew (env.recorded note) vacant started = (reply, renewed, later)) :
    ∃ before made, later.calls = ledger.calls ++ (before ++ .create ledger.next :: made) ∧
      (∀ call ∈ before, ∃ n closed, call = .close n closed) ∧ ledger.next < later.next ∧
      ((∃ transport, reply = .ok transport ∧ transport.number = ledger.next ∧
          renewed.transport = some transport ∧
          SetUp ledger.next tunnel.timeout tunnel.settings.toList made (.ok ())) ∨
        ∃ fault, reply = .error (.io fault) ∧
          (∀ held, renewed.transport = some held → tunnel.transport = some held) ∧
          SetUp ledger.next tunnel.timeout tunnel.settings.toList made (.error fault)) := by
  obtain ⟨hnext, before, hbefore, hvacating⟩ := hvacated.calls
  obtain ⟨made, hmade, hrenewed⟩ := renew_calls hrenew
  have hnumbers := respects_renew (env.recorded_respects_numbers note).toRespectsPreparing vacant
    started
  rw [hrenew] at hnumbers
  have hlt := (hnumbers.lt hmade List.mem_cons_self).2
  rw [hvacating.frame, hnext] at hrenewed
  rw [hnext] at hlt
  refine ⟨before, made, ?_, fun call hcall => hvacating.plain hcall, hlt, ?_⟩
  · rw [hmade, hbefore, hnext, List.append_assoc]
  · rcases hrenewed with ⟨transport, hreply, hnumber, rfl, hsetUp⟩ | ⟨fault, hreply, rfl, hsetUp⟩
    · exact .inl ⟨transport, hreply, hnumber, rfl, hnumber ▸ hsetUp⟩
    · refine .inr ⟨fault, hreply, fun held hheld => ?_, hsetUp⟩
      rw [hvacated.changes] at hheld
      dsimp only at hheld
      split at hheld
      · cases hheld
      · exact hheld

/-- Nothing is dialed to find the address of an attempt. -/
theorem undialed_of_aim {goal : Goal} {aimed : Ending Failure Address} {ledger sought : Ledger ω ν}
    (is_aimed : aim (env.recorded note) tunnel goal ledger = (aimed, sought)) :
    ledger.Undialed sought ∧
      ledger.Undialed ((env.recorded note).copyRoute tunnel.route sought).2 := by
  have hquiet := env.recorded_respects_undialed note
  have haim := respects_aim hquiet.toRespectsLookups tunnel goal ledger
  rw [is_aimed] at haim
  exact ⟨haim, haim.trans (hquiet.copyRoute tunnel.route sought)⟩

/-- Nothing is dialed to make a tunnel ready. -/
theorem undialed_of_ready {reply : Except Failure (Numbered τ)} {started readied : Ledger ω ν}
    {prepared : Tunnel (Numbered τ) (Numbered π) ρ}
    (is_ready : ready (env.recorded note) tunnel started = (reply, prepared, readied)) :
    started.Undialed readied := by
  have hready := respects_ready (env.recorded_respects_undialed note) tunnel started
  rwa [is_ready] at hready

/-- Nothing is dialed to limit a dial. -/
theorem undialed_of_limited {limit : Option (Option Duration)} {readied dialing : Ledger ω ν}
    {transport limited : Numbered τ}
    (is_limited : limitDial (env.recorded note) limit transport readied = (limited, dialing)) :
    readied.Undialed dialing := by
  have hlimit := respects_limitDial (env.recorded_respects_undialed note) limit transport readied
  rwa [is_limited] at hlimit

variable (env note tunnel) in
/-- An entry is the dial of an attempt: one of the transport that the tunnel was made ready with,
once its dial is limited.  What a dial in vain has left is the transport that is held after it. -/
inductive DialOf (goal : Goal) (ledger : Ledger ω ν) (after : Tunnel (Numbered τ) (Numbered π) ρ) :
    Entry ν → Prop
  | intro {target : Address} {sought readied dialing : Ledger ω ν}
    {prepared : Tunnel (Numbered τ) (Numbered π) ρ} {transport limited : Numbered τ}
    (is_aimed : aim (env.recorded note) tunnel goal ledger = (.done target, sought))
    (is_ready : ready (env.recorded note) tunnel
      ((env.recorded note).copyRoute tunnel.route sought).2 = (.ok transport, prepared, readied))
    (is_limited : limitDial (env.recorded note) goal.limit? transport readied = (limited, dialing))
    (unconnected : env.observe .isConnected limited.value dialing.world = false)
    (answer : Ending IoFault Unit) (value : τ) (world : ω)
    (left : answer ≠ .done () → after.transport = some ⟨limited.number, value⟩) :
    DialOf goal ledger after (.call (.dial 0 limited.number answer)
      (some (note limited.value dialing.world)) (some (note value world)))

/-- A dial that an attempt enters is its own: of its parts only the walk dials anything, and where
nothing is dialed there is no dial to be found. -/
theorem Pursuit.dial {route : Route π} {goal : Goal} {ledger later : Ledger ω ν}
    {ending : Ending Failure Unit} {after : Tunnel (Numbered τ) (Numbered π) ρ}
    (h : Pursuit env note tunnel route goal ledger ending after later) {entry : Entry ν}
    {made : List (Entry ν)} (hmade : later.entries = ledger.entries ++ made)
    (hentry : entry ∈ made) (hdial : entry.IsDial) :
    DialOf env note tunnel goal ledger after entry := by
  have hnone (hundialed : ledger.Undialed later) :
      DialOf env note tunnel goal ledger after entry := by
    obtain ⟨made', hmade', hnone⟩ := hundialed
    rw [hmade] at hmade'
    obtain rfl := List.append_cancel_left hmade'
    exact absurd hdial (hnone entry hentry)
  cases h with
  | unaimed is_sought none_found => exact hnone (undialed_of_aim is_sought).1
  | unready is_aimed is_ready =>
      exact hnone ((undialed_of_aim is_aimed).2.trans (undialed_of_ready is_ready))
  | undialed is_aimed is_ready is_limited connected holds =>
      exact hnone ((undialed_of_aim is_aimed).2.trans
        ((undialed_of_ready is_ready).trans (undialed_of_limited is_limited)))
  | dialed is_aimed is_ready is_limited unconnected is_dialed calls walks numbers holds number =>
      have hundialed := (undialed_of_aim is_aimed).2.trans
        ((undialed_of_ready is_ready).trans (undialed_of_limited is_limited))
      obtain ⟨answer, value, world, rfl, hkept⟩ := is_dialed.entry hundialed hmade hentry hdial
      refine .intro is_aimed is_ready is_limited unconnected _ _ _ fun in_vain => ?_
      rw [holds, ← number, ← hkept in_vain]

/-! ## The dials of a run -/

variable (env note tunnel) in
/-- What an operation does: the transport that is held after it, and the ledger. -/
inductive Operated (ledger : Ledger ω ν) :
    Operation ω τ ρ → Option (Numbered τ) → Ledger ω ν → Prop
  | attempted {goal : Goal} {ending : Ending Failure Unit} {later : Ledger ω ν}
    {after : Tunnel (Numbered τ) (Numbered π) ρ}
    (pursued : pursue (env.recorded note) tunnel goal ledger = (ending, after, later)) :
    Operated ledger (.pursue goal) after.transport later
  /-- Hosts are looked up at most, and transports are left alone. -/
  | aside {operation : Operation ω τ ρ} {later : Ledger ω ν}
    (looks_up : ∀ {R : Ledger ω ν → Ledger ω ν → Prop}, (env.recorded note).RespectsLookups R →
      R ledger later) : Operated ledger operation tunnel.transport later
  | closed {held : Numbered τ} (holds : tunnel.transport = some held) :
    Operated ledger .close none ((env.recorded note).close held ledger).2.2
  | performed {held : Numbered τ} (action : Action) (holds : tunnel.transport = some held) :
    Operated ledger (.perform action)
      (some ((env.recorded note).perform action held ledger).2.1)
      ((env.recorded note).perform action held ledger).2.2
  | lent {held : Numbered τ} (use : τ → ω → τ × ω) (holds : tunnel.transport = some held) :
    Operated ledger (.lend use) (some { held with value := (use held.value ledger.world).1 })
      { ledger with world := (use held.value ledger.world).2 }

variable (env note tunnel) in
/-- Every operation does what `Operated` lists: it is an attempt, or looks hosts up at most, or is
one call to the transport that is held, or a use of it by the caller. -/
theorem operated (operation : Operation ω τ ρ) (ledger : Ledger ω ν) :
    Operated env note tunnel ledger operation
      (step (env.recorded note) tunnel operation.recorded ledger).1.transport
      (step (env.recorded note) tunnel operation.recorded ledger).2 := by
  cases operation with
  | pursue goal => exact .attempted rfl
  | close =>
      simp only [step, Operation.recorded, close]
      cases htransport : tunnel.transport with
      | none =>
          have hkept : Operated env note tunnel ledger .close tunnel.transport ledger :=
            .aside fun h => h.refl ledger
          rwa [htransport] at hkept
      | some held => exact .closed htransport
  | perform action =>
      simp only [step, Operation.recorded, perform]
      cases htransport : tunnel.transport with
      | none =>
          simp only [htransport]
          rw [← htransport]
          exact .aside fun h => h.refl ledger
      | some held => exact .performed action htransport
  | locate => exact .aside fun h => respects_destinationIp h tunnel ledger
  | lend use =>
      simp only [step, Operation.recorded, lend]
      cases htransport : tunnel.transport with
      | none =>
          simp only [htransport]
          rw [← htransport]
          exact .aside fun h => h.refl ledger
      | some held => exact .lent use htransport
  | setResolver resolver => exact .aside fun h => h.refl ledger

/-- The calls of an operation that is no attempt are no dials. -/
theorem Operated.undialed {operation : Operation ω τ ρ} {after : Option (Numbered τ)}
    {ledger later : Ledger ω ν} (h : Operated env note tunnel ledger operation after later)
    (other : ∀ goal, operation ≠ .pursue goal) : ledger.Undialed later := by
  have hquiet := env.recorded_respects_undialed note
  cases h with
  | attempted pursued => exact absurd rfl (other _)
  | aside looks_up => exact looks_up hquiet.toRespectsLookups
  | closed holds => exact hquiet.close _ ledger
  | performed action holds => exact hquiet.perform action _ ledger
  | lent use holds => exact .refl ledger

/-- **What holds of the dial of every attempt holds of every dial of a run.**  The induction is on
the run: the dials after an operation are those before it, and if it is an attempt, its own. -/
theorem Reachable.dials {route : Route π} {P : Entry ν → Prop}
    (hdial : ∀ {tunnel after : Tunnel (Numbered τ) (Numbered π) ρ} {goal : Goal}
      {ledger : Ledger ω ν} {entry : Entry ν}, DialOf env note tunnel goal ledger after entry →
        P entry)
    {targets : List Address} {ledger : Ledger ω ν}
    (h : Reachable env note route targets tunnel ledger) :
    ∀ entry ∈ ledger.entries, entry.IsDial → P entry := by
  have hquiet := env.recorded_respects_undialed note
  have hpursue {tunnel after : Tunnel (Numbered τ) (Numbered π) ρ} {ledger later : Ledger ω ν}
      {goal : Goal} {ending : Ending Failure Unit} (hroute : tunnel.route = route.numbered)
      (hafter : pursue (env.recorded note) tunnel goal ledger = (ending, after, later))
      (hbefore : ∀ entry ∈ ledger.entries, entry.IsDial → P entry) :
      ∀ entry ∈ later.entries, entry.IsDial → P entry := by
    intro entry hentry is_dial
    have hgrowth := respects_pursue (env.recorded_respects_growth note) tunnel goal ledger
    rw [hafter] at hgrowth
    obtain ⟨made, hmade⟩ := hgrowth
    rw [← hmade] at hentry
    rcases List.mem_append.mp hentry with hentry | hentry
    · exact hbefore entry hentry is_dial
    · exact hdial ((pursuit hroute hafter).dial hmade.symm hentry is_dial)
  have hcreated {tunnel : Tunnel (Numbered τ) (Numbered π) ρ} {ledger : Ledger ω ν}
      {prefersIpv4 : Bool} {world : ω} (hmade : Tunnel.create (env.recorded note) route.numbered
        prefersIpv4 (.start world) = (tunnel, ledger)) :
      tunnel.route = route.numbered ∧ ∀ entry ∈ ledger.entries, entry.IsDial → P entry := by
    have hnew := respects_create hquiet route.numbered prefersIpv4 (.start world)
    rw [hmade] at hnew
    obtain ⟨rfl, -⟩ := by simpa [Tunnel.create] using hmade
    exact ⟨rfl, fun entry hentry is_dial => by cases hnew.mem is_dial hentry⟩
  induction h with
  | create prefersIpv4 world made => exact (hcreated made).2
  | ofTransport transport prefersIpv4 world receive made =>
      obtain ⟨-, rfl⟩ := by simpa [Ledger.receive] using receive
      intro entry hentry
      cases hentry
  | ofConfig config world made =>
      have hmade := respects_ofConfig hquiet route.numbered config (.start world)
      rw [made] at hmade
      intro entry hentry is_dial
      cases hmade.mem is_dial hentry
  | toHost host port prefersIpv4 world create made =>
      unfold Tunnel.toHost at made
      rw [create] at made
      have hpursued : pursue (env.recorded note) _ (.host host port) _ = (.done (), _, _) :=
        pursue_of_made made
      exact hpursue (hcreated create).1 hpursued (hcreated create).2
  | toEndpoint endpoint prefersIpv4 world create made =>
      unfold Tunnel.toEndpoint at made
      rw [create] at made
      have hpursued : pursue (env.recorded note) _ (.endpoint endpoint none) _ =
          (.done (), _, _) := pursue_of_made made
      exact hpursue (hcreated create).1 hpursued (hcreated create).2
  | @step _ before earlier reached operation ih =>
      by_cases hother : ∀ goal, operation ≠ .pursue goal
      · have hundialed := (operated env note before operation earlier).undialed hother
        exact fun entry hentry is_dial => ih entry (hundialed.mem is_dial hentry) is_dial
      · obtain ⟨goal, rfl⟩ := by simpa using hother
        exact hpursue reached.established.route_eq rfl ih

end Tunnel

namespace Scripted

/-! ## Rehearsals -/

/-- What may be true of a transport of a rehearsal, and stays true whatever is done with it, unless
its dials are limited. -/
structure Lasting (P : Carrier → Prop) : Prop where
  perform (action : Action) (other : ∀ limit, action ≠ .setTimeout limit) {carrier : Carrier}
    (stage : Stage) (h : P carrier) : P (carrier.perform action stage).2.1
  close {carrier : Carrier} (stage : Stage) (h : P carrier) : P (carrier.close stage).2.1

namespace Lasting

variable {P : Carrier → Prop} (h : Lasting P)

include h

theorem writeAll (steps : Nat) (bytes : List UInt8) {carrier : Carrier} (stage : Stage)
    (hp : P carrier) : P (Scripted.writeAll carrierActor steps bytes (carrier, stage)).2.1 := by
  induction steps generalizing bytes carrier stage with
  | zero => cases bytes <;> exact hp
  | succ steps ih =>
      cases bytes with
      | nil => exact hp
      | cons byte bytes =>
          have hwrite := h.perform (.write (byte :: bytes)) (by simp) stage hp
          simp only [Scripted.writeAll, carrierActor]
          generalize Carrier.perform (.write (byte :: bytes)) carrier stage = result at hwrite ⊢
          obtain ⟨reply, written, stage'⟩ := result
          rcases reply with fault | taken
          · exact hwrite
          · cases taken with
            | zero => exact hwrite
            | succ taken => exact ih _ _ hwrite

theorem readLine (steps : Nat) {carrier : Carrier} (stage : Stage) (hp : P carrier) :
    P (Scripted.readLine carrierActor steps (carrier, stage)).2.1 := by
  induction steps generalizing carrier stage with
  | zero => exact hp
  | succ steps ih =>
      have hread := h.perform (.read 1) (by simp) stage hp
      simp only [Scripted.readLine, carrierActor]
      generalize Carrier.perform (.read 1) carrier stage = result at hread ⊢
      obtain ⟨reply, read, stage'⟩ := result
      rcases reply with fault | bytes
      · exact hread
      · cases bytes with
        | nil => exact hread
        | cons byte bytes =>
            dsimp only
            split
            · exact hread
            · exact ih _ hread

theorem requestLine (target : Address) {carrier : Carrier} (stage : Stage) (hp : P carrier) :
    P (Hop.requestLine target carrier stage).2.1 := by
  have hwritten := h.writeAll (bytesOf ("CONNECT " ++ target.text ++ "\n")).length
    (bytesOf ("CONNECT " ++ target.text ++ "\n")) stage hp
  unfold Hop.requestLine writeText
  generalize Scripted.writeAll carrierActor _ _ (carrier, stage) = result at hwritten ⊢
  obtain ⟨reply, written, stage₁⟩ := result
  cases reply with
  | error fault => exact hwritten
  | ok _ =>
      have hflushed := h.perform .flush (by simp) stage₁ hwritten
      dsimp only at hflushed ⊢
      generalize Carrier.perform .flush written stage₁ = result at hflushed ⊢
      obtain ⟨reply, flushed, stage₂⟩ := result
      rcases reply with fault | _
      · exact hflushed
      · have hread := h.readLine Hop.longestLine stage₂ hflushed
        dsimp only at hread ⊢
        generalize Scripted.readLine carrierActor Hop.longestLine (flushed, stage₂) = result
          at hread ⊢
        obtain ⟨reply, read, stage₃⟩ := result
        cases reply <;> exact hread

theorem requestScripted (script : HopScript) (asked : Bool) (target : Address) {carrier : Carrier}
    (stage : Stage) (hp : P carrier) :
    P (Hop.requestScripted script asked target carrier stage).2.1 := by
  unfold Hop.requestScripted
  split
  · exact hp
  split
  · exact hp
  split
  · exact hp
  · exact hp
  · have hclosed := h.close stage hp
    generalize Carrier.close carrier stage = result at hclosed ⊢
    obtain ⟨reply, closed, stage'⟩ := result
    cases reply <;> exact hclosed
  · have hwritten := h.writeAll (bytesOf target.text).length (bytesOf target.text) stage hp
    unfold writeText
    dsimp only
    generalize Scripted.writeAll carrierActor _ _ (carrier, stage) = result at hwritten ⊢
    obtain ⟨reply, written, stage'⟩ := result
    cases reply <;> exact hwritten

/-- Transports of a rehearsal carry along what stays true whatever is done with them: proxies only
read from them, write to them and close them, line by line or in one piece. -/
theorem carries : environment.Carries fun carrier _ => P carrier where
  log _ _ _ hp := hp
  lookup _ _ _ _ hp := hp
  markReached _ _ _ hp := hp
  request proxy target carrier stage hp := by
    show P (Hop.request proxy target carrier stage).2.2.1
    unfold Hop.request
    cases proxy.state with
    | line => exact h.requestLine target stage hp
    | scripted script asked => exact h.requestScripted script asked target _ hp

end Lasting

end Scripted

end RelayRoute
