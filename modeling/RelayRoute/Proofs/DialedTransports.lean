import RelayRoute.Proofs.Dials
import RelayRoute.Proofs.Transports

/-!
# Which transport is dialed

Before it dials, an attempt decides between the transport that the tunnel holds and a new one.  Two
things have a say in it that can change independently: the phase of the tunnel, and what the
transport tells about itself, which proxies and the caller may change behind the tunnel's back.

* `NeedsTransport` — when a new transport is needed, read off both;
* `Choice`, `ready_choice` — how an attempt comes by the transport to dial: one is created, or the
  one that is held is kept, or the attempt is refused;
* `DialsHeld`, `Chosen` — what the attempt then does with it, and `pursue_chosen`, which says that
  every attempt that has an address is such a choice, for all combinations of the two;
* `Environment.Settles` — what holds of a new transport while it is set up, such as that it is not
  closed;
* `DialOf.idle` — so the dial of an attempt finds a transport that is neither connected nor closed.
-/

namespace RelayRoute

variable {ω τ π ρ ν : Type}

namespace Environment

/-- A transport is neither connected nor closed. -/
def Idle (env : Environment ω τ π ρ) (transport : τ) (world : ω) : Prop :=
  env.observe .isConnected transport world = false ∧ env.observe .isClosed transport world = false

/-- A transport is not closed. -/
def Unclosed (env : Environment ω τ π ρ) (transport : τ) (world : ω) : Prop :=
  env.observe .isClosed transport world = false

/-- What is true of new transports, and stays true while they are set up.  That a transport is not
closed is of this kind, unless a limit or a setting closes it. -/
structure Settles (env : Environment ω τ π ρ) (P : τ → ω → Prop) : Prop where
  create (proxy : Proxy π) (world : ω) : P (env.create proxy world).1 (env.create proxy world).2
  setTimeout (limit : Option Duration) {transport : τ} {world : ω} (h : P transport world) :
    P (env.perform (.setTimeout limit) transport world).2.1
      (env.perform (.setTimeout limit) transport world).2.2
  set (setting : Setting) {transport : τ} {world : ω} (h : P transport world) :
    P (env.perform (.set setting) transport world).2.1
      (env.perform (.set setting) transport world).2.2

namespace Settles

variable {env : Environment ω τ π ρ} {P : τ → ω → Prop} (h : env.Settles P)

include h

/-- Keeping a ledger changes nothing. -/
theorem recorded (note : τ → ω → ν) :
    (env.recorded note).Settles fun transport ledger => P transport.value ledger.world where
  create proxy ledger := h.create ⟨proxy.address, proxy.state.value⟩ ledger.world
  setTimeout limit _ _ hp := h.setTimeout limit hp
  set setting _ _ hp := h.set setting hp

theorem makeEach (settings : List Setting) {transport : τ} {world : ω} (hp : P transport world) :
    P (env.makeEach settings transport world).2.1 (env.makeEach settings transport world).2.2 := by
  induction settings generalizing transport world with
  | nil => exact hp
  | cons setting settings ih =>
      have hset := h.set setting hp
      unfold Environment.makeEach
      generalize env.perform (.set setting) transport world = result at hset ⊢
      obtain ⟨reply, carried, set⟩ := result
      cases reply with
      | ok _ => exact ih hset
      | error fault => exact hset

theorem setUp (timeout : Option Duration) (settings : Settings) {transport : τ} {world : ω}
    (hp : P transport world) :
    P (env.setUp timeout settings transport world).2.1
      (env.setUp timeout settings transport world).2.2 := by
  cases timeout with
  | none => exact h.makeEach settings.toList hp
  | some limit => exact h.makeEach settings.toList (h.setTimeout (some limit) hp)

/-- A new transport when it can be dialed: it was created, told its limit and given its settings,
and nothing else was done with it. -/
theorem renew {tunnel renewed : Tunnel τ π ρ} {transport : τ} {world later : ω}
    (hrenew : Tunnel.renew env tunnel world = (.ok transport, renewed, later)) :
    P transport later := by
  have hset := h.setUp tunnel.timeout tunnel.settings (h.create tunnel.route.head world)
  unfold Tunnel.renew at hrenew
  dsimp only at hrenew
  generalize env.setUp tunnel.timeout tunnel.settings _ _ = result at hset hrenew
  obtain ⟨reply, carried, set⟩ := result
  cases reply with
  | ok _ =>
      obtain ⟨rfl, -, rfl⟩ := by simpa using hrenew
      exact hset
  | error fault => simp at hrenew

/-- A transport whose dial is limited. -/
theorem limitDial {limit : Option (Option Duration)} {transport limited : τ} {world later : ω}
    (hp : P transport world) (hlimit : Tunnel.limitDial env limit transport world =
      (limited, later)) : P limited later := by
  cases limit with
  | none =>
      obtain ⟨rfl, rfl⟩ := by simpa [Tunnel.limitDial] using hlimit
      exact hp
  | some limit =>
      have hset := h.setTimeout limit hp
      simp only [Tunnel.limitDial] at hlimit
      rwa [hlimit] at hset

end Settles

end Environment

namespace Tunnel

/-! ## The transport that an attempt dials -/

section

variable (env : Environment ω τ π ρ) (tunnel : Tunnel τ π ρ)

/-- An attempt needs a new transport: the tunnel is connected and its transport lets itself be
closed, or it is not connected and holds none, or one that is closed. -/
def NeedsTransport (world : ω) : Prop :=
  (tunnel.phase = .connected ∧
    ∀ old, tunnel.transport = some old → (env.close old world).1 = .ok ()) ∨
  (tunnel.phase ≠ .connected ∧
    ∀ held, tunnel.transport = some held → env.observe .isClosed held world = true)

variable {env tunnel}

/-- A tunnel that has come to need a new transport needed one.  The ways to come to it are those of
`Vacated`: nothing was held, or the transport was closed, or let itself be closed. -/
theorem Vacated.needs {world later : ω} {vacant : Tunnel τ π ρ}
    (h : Vacated env tunnel world vacant later) : NeedsTransport env tunnel world := by
  cases h with
  | empty idle holds_none => exact .inr ⟨idle, by simp [holds_none]⟩
  | stale idle holds unconnected closed =>
      refine .inr ⟨idle, fun held hheld => ?_⟩
      obtain rfl := Option.some.inj (holds.symm.trans hheld)
      exact closed
  | lost connected holds_none => exact .inl ⟨connected, by simp [holds_none]⟩
  | released connected holds closes =>
      refine .inl ⟨connected, fun old hold => ?_⟩
      obtain rfl := Option.some.inj (holds.symm.trans hold)
      rw [closes]

/-- A tunnel whose transport can be dialed needs no other one. -/
theorem not_needs_of_unclosed {world : ω} {held : τ} (idle : tunnel.phase ≠ .connected)
    (holds : tunnel.transport = some held)
    (unclosed : env.observe .isClosed held world = false) : ¬ NeedsTransport env tunnel world := by
  rintro (⟨connected, -⟩ | ⟨-, hclosed⟩)
  · exact idle connected
  · rw [hclosed held holds] at unclosed
    cases unclosed

/-- A tunnel whose transport does not let itself be closed gets no other one. -/
theorem not_needs_of_unreleased {world later : ω} {old carried : τ} {fault : IoFault}
    (connected : tunnel.phase = .connected) (holds : tunnel.transport = some old)
    (closes : env.close old world = (.error fault, carried, later)) :
    ¬ NeedsTransport env tunnel world := by
  rintro (⟨-, hcloses⟩ | ⟨idle, -⟩)
  · have hclosed := hcloses old holds
    rw [closes] at hclosed
    cases hclosed
  · exact idle connected

/-- A tunnel that was made ready has an open transport: the one it holds, if it needed no other. -/
theorem ready_unclosed (h : env.Settles env.Unclosed) {prepared : Tunnel τ π ρ} {transport : τ}
    {world later : ω} (hready : ready env tunnel world = (.ok transport, prepared, later)) :
    env.Unclosed transport later := by
  have hreadied := readied env tunnel world
  generalize ready env tunnel world = result at hreadied hready
  cases hreadied with
  | refused unfinished => simp at hready
  | kept idle holds unconnected unclosed =>
      obtain ⟨rfl, -, rfl⟩ := by simpa using hready
      exact unclosed
  | unreleased connected holds closes => simp at hready
  | renewed vacated => exact h.renew hready

end

/-- Limiting a dial creates no transport. -/
theorem created_limiting (n : Nat) (limit : Option (Option Duration)) :
    (Call.limiting n limit).filterMap Call.created? = [] :=
  List.filterMap_eq_nil_iff.mpr fun _ hcall => (Call.uses_of_mem_limiting hcall).creates_none

/-- Asking proxies creates no transport. -/
theorem created_relays {n : Nat} {relays : List Call} (h : ∀ call ∈ relays, call.Relays n) :
    relays.filterMap Call.created? = [] :=
  List.filterMap_eq_nil_iff.mpr fun call hcall => by cases h call hcall <;> rfl

/-- Of the calls that replace a transport one is a creation. -/
theorem created_renewed {n : Nat} {timeout : Option Duration} {settings : List Setting}
    {before made : List Call} {reply : Except IoFault Unit}
    (hbefore : ∀ call ∈ before, ∃ m closed, call = .close m closed)
    (hset : SetUp n timeout settings made reply) :
    (before ++ .create n :: made).filterMap Call.created? = [n] := by
  have hclosing : before.filterMap Call.created? = [] := by
    refine List.filterMap_eq_nil_iff.mpr fun call hcall => ?_
    obtain ⟨m, closed, rfl⟩ := hbefore call hcall
    rfl
  have hsetting : made.filterMap Call.created? = [] := by
    refine List.filterMap_eq_nil_iff.mpr fun call hcall => ?_
    obtain ⟨action, reply, rfl⟩ := hset.plain call hcall
    rfl
  rw [List.filterMap_append, hclosing, List.nil_append,
    List.filterMap_cons_some (f := Call.created?) rfl, hsetting]

section

variable (env : Environment ω τ π ρ) (note : τ → ω → ν)
  (tunnel : Tunnel (Numbered τ) (Numbered π) ρ)

/-- How an attempt comes by the transport to dial: the calls that takes, what comes of them, and the
ledger after them. -/
inductive Choice (started : Ledger ω ν) :
    List Call → Except Failure (Numbered τ) → Ledger ω ν → Prop
  /-- Exactly one transport is created, and that is the one to dial if it can be set up. -/
  | created {calls : List Call} {reply : Except Failure (Numbered τ)} {readied : Ledger ω ν}
    (needs : NeedsTransport (env.recorded note) tunnel started)
    (creates : calls.filterMap Call.created? = [started.next])
    (number : ∀ transport, reply = .ok transport → transport.number = started.next) :
    Choice started calls reply readied
  | refused (fits : ¬ NeedsTransport (env.recorded note) tunnel started)
    (unfinished : Unfinished (env.recorded note) tunnel started) :
    Choice started [] (.error (.invalidState .unfinishedAttempt)) started
  | unreleased {old : Numbered τ} {fault : IoFault} {readied : Ledger ω ν}
    (fits : ¬ NeedsTransport (env.recorded note) tunnel started)
    (connected : tunnel.phase = .connected) (holds : tunnel.transport = some old) :
    Choice started [.close old.number (.error fault)] (.error (.io fault)) readied
  | kept {held : Numbered τ} (fits : ¬ NeedsTransport (env.recorded note) tunnel started)
    (idle : tunnel.phase ≠ .connected) (holds : tunnel.transport = some held) :
    Choice started [] (.ok held) started

variable {env note tunnel}

/-- Where no transport that is held is both connected and closed, making a tunnel ready comes to
what `Choice` lists.  The hypothesis leaves aside a transport that tells both: that is refused for
being connected, although a closed one is to be replaced. -/
theorem ready_choice {started readied : Ledger ω ν} {reply : Except Failure (Numbered τ)}
    {prepared : Tunnel (Numbered τ) (Numbered π) ρ}
    (exclusive : ∀ held, tunnel.transport = some held →
      env.observe .isConnected held.value started.world = true →
      env.observe .isClosed held.value started.world = false)
    (is_ready : ready (env.recorded note) tunnel started = (reply, prepared, readied)) :
    ∃ calls, readied.calls = started.calls ++ calls ∧
      Choice env note tunnel started calls reply readied := by
  have hreadied := Tunnel.readied (env.recorded note) tunnel started
  generalize ready (env.recorded note) tunnel started = result at hreadied is_ready
  cases hreadied with
  | refused unfinished =>
      obtain ⟨rfl, rfl, rfl⟩ := by simpa using is_ready
      refine ⟨[], by simp, .refused ?_ unfinished⟩
      obtain ⟨idle, held, holds, connected⟩ := unfinished
      exact not_needs_of_unclosed idle holds (exclusive held holds connected)
  | kept idle holds unconnected unclosed =>
      obtain ⟨rfl, rfl, rfl⟩ := by simpa using is_ready
      exact ⟨[], by simp, .kept (not_needs_of_unclosed idle holds unclosed) idle holds⟩
  | @unreleased old carried fault _ connected holds closes =>
      obtain ⟨rfl, rfl, rfl⟩ := by simpa using is_ready
      have hclose := env.calls_close note old started
      rw [closes] at hclose
      obtain ⟨hreply, -, -⟩ := by simpa [Environment.recorded] using closes
      rw [hreply] at hclose
      exact ⟨_, hclose,
        .unreleased (not_needs_of_unreleased connected holds closes) connected holds⟩
  | renewed vacated =>
      obtain ⟨before, set, hcalls, hbefore, -, hrenewed⟩ := vacated.renewed_calls is_ready
      refine ⟨_, hcalls, .created vacated.needs ?_ ?_⟩
      · rcases hrenewed with ⟨_, -, -, -, hset⟩ | ⟨_, -, -, hset⟩
        · exact created_renewed hbefore hset
        · exact created_renewed hbefore hset
      · rintro transport rfl
        obtain ⟨transport', htransport, hnumber, -⟩ | ⟨fault, hfault, -⟩ := hrenewed
        · obtain rfl := Except.ok.inj htransport
          exact hnumber
        · cases hfault

end

/-- What an attempt does that needs no new transport: it is refused, or dials the transport that is
held, with whatever that has been told before. -/
inductive DialsHeld (env : Environment ω τ π ρ) (tunnel : Tunnel (Numbered τ) (Numbered π) ρ)
    (goal : Goal) (started : Ledger ω (τ × ω)) :
    List (Entry (τ × ω)) → Ending Failure Unit → Prop
  /-- It is refused because an earlier attempt is unfinished. -/
  | unfinished (unfinished : Unfinished (env.recorded Prod.mk) tunnel started) :
    DialsHeld env tunnel goal started [] (.failed (.invalidState .unfinishedAttempt))
  /-- It fails because the transport of a connected tunnel does not let itself be closed. -/
  | unreleased {old : Numbered τ} {fault : IoFault} {made : List (Entry (τ × ω))}
    (connected : tunnel.phase = .connected) (holds : tunnel.transport = some old)
    (calls : made.filterMap Entry.call? = [.close old.number (.error fault)]) :
    DialsHeld env tunnel goal started made (.failed (.io fault))
  /-- It is refused because being told its limit has connected the transport. -/
  | in_use {held : Numbered τ} {made : List (Entry (τ × ω))}
    (idle : tunnel.phase ≠ .connected) (holds : tunnel.transport = some held)
    (calls : made.filterMap Entry.call? = Call.limiting held.number goal.limit?) :
    DialsHeld env tunnel goal started made (.failed (.invalidState .transportInUse))
  | retried {held : Numbered τ} {answer : Ending IoFault Unit} {noted : τ × ω}
    {relays : List Call} {made : List (Entry (τ × ω))} {ending : Ending Failure Unit}
    (idle : tunnel.phase ≠ .connected) (holds : tunnel.transport = some held)
    (calls : made.filterMap Entry.call? = Call.limiting held.number goal.limit? ++
      .dial 0 held.number answer :: relays)
    (only_relays : ∀ call ∈ relays, call.Relays held.number)
    (dials : .call (.dial 0 held.number answer)
      (some (limitDial env goal.limit? held.value started.world)) (some noted) ∈ made) :
    DialsHeld env tunnel goal started made ending

/-- Which transport an attempt dials that has an address: what its entries from then on tell. -/
inductive Chosen (env : Environment ω τ π ρ) (tunnel : Tunnel (Numbered τ) (Numbered π) ρ)
    (goal : Goal) (started : Ledger ω (τ × ω)) (made : List (Entry (τ × ω)))
    (ending : Ending Failure Unit) : Prop
  /-- It needs a transport, creates exactly one, and dials no other. -/
  | created (needs : NeedsTransport (env.recorded Prod.mk) tunnel started)
    (creates : (made.filterMap Entry.call?).filterMap Call.created? = [started.next])
    (dials : ∀ hop n answer before after, .call (.dial hop n answer) before after ∈ made →
      n = started.next)
  /-- It needs none, and creates none. -/
  | held (fits : ¬ NeedsTransport (env.recorded Prod.mk) tunnel started)
    (creates_none : (made.filterMap Entry.call?).filterMap Call.created? = [])
    (dials : DialsHeld env tunnel goal started made ending)

section

variable {env : Environment ω τ π ρ} {tunnel : Tunnel (Numbered τ) (Numbered π) ρ} {goal : Goal}
  {prepared : Tunnel (Numbered τ) (Numbered π) ρ} {started readied : Ledger ω (τ × ω)}

/-- Where nobody was dialed, no transport was. -/
theorem dials_of_undialed {made : List (Entry ν)} (h : ∀ entry ∈ made, ¬ entry.IsDial)
    {n m hop : Nat} {answer : Ending IoFault Unit} {before after : Option ν}
    (hdial : .call (.dial hop n answer) before after ∈ made) : n = m :=
  absurd trivial (h _ hdial)

/-- An attempt for which the tunnel cannot be made ready dials nothing: a transport was created that
cannot be set up, or the attempt is refused, or the transport does not let itself be closed. -/
theorem chosen_of_unready {failure : Failure}
    (exclusive : ∀ held, tunnel.transport = some held →
      env.observe .isConnected held.value started.world = true →
      env.observe .isClosed held.value started.world = false)
    (is_ready : ready (env.recorded Prod.mk) tunnel started = (.error failure, prepared, readied)) :
    ∃ made, readied.entries = started.entries ++ made ∧
      Chosen env tunnel goal started made (.failed failure) := by
  obtain ⟨made, hmade, hundialed⟩ := undialed_of_ready is_ready
  obtain ⟨calls, hcalls, hchoice⟩ := ready_choice exclusive is_ready
  have hentries : made.filterMap Entry.call? = calls :=
    List.append_cancel_left ((Ledger.calls_of_entries hmade).symm.trans hcalls)
  refine ⟨made, hmade, ?_⟩
  cases hchoice with
  | created needs creates number =>
      exact .created needs (hentries ▸ creates) fun _ _ _ _ _ => dials_of_undialed hundialed
  | refused fits unfinished =>
      obtain rfl := List.append_right_eq_self.mp hmade.symm
      exact .held fits rfl (.unfinished unfinished)
  | unreleased fits connected holds =>
      exact .held fits (by rw [hentries]; rfl) (.unreleased connected holds hentries)

/-- An attempt whose transport is connected by the time it should be dialed. -/
theorem chosen_of_undialed {later : Ledger ω (τ × ω)} {transport limited : Numbered τ}
    (exclusive : ∀ held, tunnel.transport = some held →
      env.observe .isConnected held.value started.world = true →
      env.observe .isClosed held.value started.world = false)
    (is_ready : ready (env.recorded Prod.mk) tunnel started = (.ok transport, prepared, readied))
    (is_limited : limitDial (env.recorded Prod.mk) goal.limit? transport readied =
      (limited, later)) :
    ∃ made, later.entries = started.entries ++ made ∧
      Chosen env tunnel goal started made (.failed (.invalidState .transportInUse)) := by
  obtain ⟨made, hmade, hundialed⟩ :=
    (undialed_of_ready is_ready).trans (undialed_of_limited is_limited)
  obtain ⟨calls, hcalls, hchoice⟩ := ready_choice exclusive is_ready
  have hentries : made.filterMap Entry.call? =
      calls ++ Call.limiting transport.number goal.limit? := by
    refine List.append_cancel_left ((Ledger.calls_of_entries hmade).symm.trans ?_)
    rw [(limitDial_calls is_limited).2, hcalls, List.append_assoc]
  have hcreated : (made.filterMap Entry.call?).filterMap Call.created? =
      calls.filterMap Call.created? := by
    rw [hentries, List.filterMap_append, created_limiting, List.append_nil]
  refine ⟨made, hmade, ?_⟩
  cases hchoice with
  | created needs creates number =>
      exact .created needs (hcreated.trans creates) fun _ _ _ _ _ => dials_of_undialed hundialed
  | kept fits idle holds => exact .held fits hcreated (.in_use idle holds hentries)

/-- Keeping a ledger changes nothing about the limit of a dial. -/
theorem limitDial_recorded {limit : Option (Option Duration)} {transport limited : Numbered τ}
    {dialing : Ledger ω (τ × ω)} (h : limitDial (env.recorded Prod.mk) limit transport readied =
      (limited, dialing)) :
    (limited.value, dialing.world) = limitDial env limit transport.value readied.world := by
  cases limit with
  | none =>
      obtain ⟨rfl, rfl⟩ := by simpa [limitDial] using h
      rfl
  | some limit =>
      obtain ⟨rfl, rfl⟩ := by simpa [limitDial, Environment.recorded] using h
      rfl

/-- An attempt for which the tunnel is made ready dials the transport that it was made ready with,
once, and asks proxies over it after that. -/
theorem chosen_of_dialed {route : Route π} {ending : Ending Failure Unit}
    {dialing later : Ledger ω (τ × ω)} {transport limited carried : Numbered τ}
    (exclusive : ∀ held, tunnel.transport = some held →
      env.observe .isConnected held.value started.world = true →
      env.observe .isClosed held.value started.world = false)
    (is_ready : ready (env.recorded Prod.mk) tunnel started = (.ok transport, prepared, readied))
    (is_limited : limitDial (env.recorded Prod.mk) goal.limit? transport readied =
      (limited, dialing))
    (is_dialed : env.Dialed Prod.mk route limited carried dialing later) :
    ∃ made, later.entries = started.entries ++ made ∧
      Chosen env tunnel goal started made ending := by
  have hundialed := (undialed_of_ready is_ready).trans (undialed_of_limited is_limited)
  obtain ⟨made, answer, noted, relays, hmade, hdial, hdialing, only_relays⟩ :=
    is_dialed.entered hundialed
  obtain ⟨hnumber, hlimiting⟩ := limitDial_calls is_limited
  obtain ⟨calls, hcalls, hchoice⟩ := ready_choice exclusive is_ready
  rw [hnumber] at hdial hdialing only_relays
  have hentries : made.filterMap Entry.call? = calls ++
      (Call.limiting transport.number goal.limit? ++
        .dial 0 transport.number answer :: relays) := by
    refine List.append_cancel_left ((Ledger.calls_of_entries hmade).symm.trans ?_)
    rw [hdialing, hlimiting, hcalls]
    simp only [List.append_assoc]
  have hcreated : (made.filterMap Entry.call?).filterMap Call.created? =
      calls.filterMap Call.created? := by
    rw [hentries, List.filterMap_append, List.filterMap_append, created_limiting,
      List.filterMap_cons_none (f := Call.created?) rfl, created_relays only_relays,
      List.append_nil, List.append_nil]
  refine ⟨made, hmade, ?_⟩
  cases hchoice with
  | created needs creates number =>
      refine .created needs (hcreated.trans creates) fun hop n answer before after hmem => ?_
      have is_dial : (Entry.call (.dial hop n answer) before after).IsDial := trivial
      obtain ⟨answer', value, world, hentry, -⟩ := is_dialed.entry hundialed hmade hmem is_dial
      cases hentry
      exact hnumber.trans (number transport rfl)
  | kept fits idle holds =>
      rw [limitDial_recorded is_limited] at hdial
      exact .held fits hcreated (.retried idle holds hentries only_relays hdial)

/-- **An attempt that has an address chooses the transport that it dials.**  The cases are the
places at which it can stop: before the transport is ready, before it is dialed, and after that. -/
theorem pursue_chosen {route : Route π} (hroute : tunnel.route = route.numbered)
    {ledger sought later : Ledger ω (τ × ω)} {target : Address} {ending : Ending Failure Unit}
    {after : Tunnel (Numbered τ) (Numbered π) ρ}
    (is_aimed : aim (env.recorded Prod.mk) tunnel goal ledger = (.done target, sought))
    (is_copied : ((env.recorded Prod.mk).copyRoute tunnel.route sought).2 = started)
    (exclusive : ∀ held, tunnel.transport = some held →
      env.observe .isConnected held.value started.world = true →
      env.observe .isClosed held.value started.world = false)
    (hpursue : pursue (env.recorded Prod.mk) tunnel goal ledger = (ending, after, later)) :
    ∃ made, later.entries = started.entries ++ made ∧
      Chosen env tunnel goal started made ending := by
  subst is_copied
  cases pursuit hroute hpursue with
  | unaimed is_sought none_found =>
      rw [is_aimed] at is_sought
      cases is_sought
      exact absurd rfl (none_found target)
  | unready is_found is_ready =>
      rw [is_aimed] at is_found
      cases is_found
      exact chosen_of_unready exclusive is_ready
  | undialed is_found is_ready is_limited connected holds =>
      rw [is_aimed] at is_found
      cases is_found
      exact chosen_of_undialed exclusive is_ready is_limited
  | dialed is_found is_ready is_limited unconnected is_dialed calls walks numbers holds number =>
      rw [is_aimed] at is_found
      cases is_found
      exact chosen_of_dialed exclusive is_ready is_limited is_dialed

/-- A transport that an attempt dials in vain is held after it, as the dial has left it. -/
theorem DialOf.left {ledger : Ledger ω (τ × ω)} {after : Tunnel (Numbered τ) (Numbered π) ρ}
    {hop n : Nat} {answer : Ending IoFault Unit} {before : Option (τ × ω)} {value : τ} {world : ω}
    (h : DialOf env Prod.mk tunnel goal ledger after
      (.call (.dial hop n answer) before (some (value, world))))
    (in_vain : answer ≠ .done ()) : after.transport = some ⟨n, value⟩ := by
  cases h with
  | intro is_aimed is_ready is_limited unconnected _ _ _ left => exact left in_vain

/-- The dial of an attempt finds an idle transport.  That it is not connected is asked before every
dial; that it is not closed was asked of a transport that was held before, and holds of a new one by
`Settles`. -/
theorem DialOf.idle {note : τ → ω → ν} {ledger : Ledger ω ν}
    {after : Tunnel (Numbered τ) (Numbered π) ρ} (h : env.Settles env.Unclosed) {entry : Entry ν}
    (hdial : DialOf env note tunnel goal ledger after entry) :
    ∃ n answer transport world noted,
      entry = .call (.dial 0 n answer) (some (note transport world)) (some noted) ∧
        env.Idle transport world := by
  obtain ⟨is_aimed, is_ready, is_limited, unconnected, answer, value, world, -⟩ := hdial
  have hready := ready_unclosed (h.recorded note) is_ready
  exact ⟨_, _, _, _, _, rfl, unconnected, (h.recorded note).limitDial hready is_limited⟩

end

end Tunnel

/-- Plain transports of a rehearsal are created open, and stay so while they are set up. -/
theorem Scripted.plainEnvironment_settles :
    plainEnvironment.Settles plainEnvironment.Unclosed where
  create proxy stage := by
    obtain ⟨address, state⟩ := proxy
    cases state <;> rfl
  setTimeout limit {carrier stage} unclosed :=
    (Carrier.isClosed_perform (.setTimeout limit) carrier stage stage _).trans unclosed
  set setting {carrier stage} unclosed :=
    (Carrier.isClosed_perform (.set setting) carrier stage stage _).trans unclosed

end RelayRoute
