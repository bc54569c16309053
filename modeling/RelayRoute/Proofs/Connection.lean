import RelayRoute.Proofs.Respect

/-!
# Whether a transport is connected

A transport tells by itself whether it is connected.  `Environment.Steady` and `Environment.Fresh`
say what calls have no say in it: those that are not given the transport, and those that only set it
up.  Both are natural conditions on the transports that proxies are given, and follow for an
environment that keeps a ledger.

* `ready_unconnected`, `limitDial_unconnected` — from the second condition: a tunnel that was made
  ready has an unconnected transport to dial;
* `connected_of_walk_refused` — a walk is refused only over a connected transport;
* `Upholds.walk` — from the first condition: from a successful dial on, a transport stays connected
  through the rest of a walk, unless a proxy disconnects it.

The last one is said of a ledger that notes of every call whether its transport was connected before
and after it (`Environment.watched`).
-/

namespace RelayRoute

namespace Environment

variable {ω τ π ρ ν : Type}

/-- Calls that are not given a transport leave it connected or unconnected, as it is: logging,
looking a host up, and telling a proxy that it is reached. -/
structure Steady (env : Environment ω τ π ρ) : Prop where
  log (record : LogRecord) (transport : τ) (world : ω) :
    env.observe .isConnected transport (env.log record world) =
      env.observe .isConnected transport world
  lookup (resolver : ρ) (host : String) (transport : τ) (world : ω) :
    env.observe .isConnected transport (env.lookup resolver host world).2 =
      env.observe .isConnected transport world
  markReached (proxy : Proxy π) (transport : τ) (world : ω) :
    env.observe .isConnected transport (env.markReached proxy world).2 =
      env.observe .isConnected transport world

/-- A new transport is not connected, and setting it up does not connect it.  So nothing but a dial
connects a transport of the tunnel. -/
structure Fresh (env : Environment ω τ π ρ) : Prop where
  create (proxy : Proxy π) (world : ω) :
    env.observe .isConnected (env.create proxy world).1 (env.create proxy world).2 = false
  setTimeout (limit : Option Duration) (transport : τ) (world : ω)
    (unconnected : env.observe .isConnected transport world = false) :
    env.observe .isConnected (env.perform (.setTimeout limit) transport world).2.1
      (env.perform (.setTimeout limit) transport world).2.2 = false
  set (setting : Setting) (transport : τ) (world : ω)
    (unconnected : env.observe .isConnected transport world = false) :
    env.observe .isConnected (env.perform (.set setting) transport world).2.1
      (env.perform (.set setting) transport world).2.2 = false

namespace Steady

variable {env : Environment ω τ π ρ}

/-- Looking a host up is such a call, and so is logging. -/
theorem respectsLookups (h : env.Steady) (transport : τ) :
    env.RespectsLookups fun earlier later =>
      env.observe .isConnected transport later = env.observe .isConnected transport earlier where
  refl _ := rfl
  trans hab hbc := hbc.trans hab
  lookup resolver host world := h.lookup resolver host transport world
  log record world := h.log record transport world

/-- Keeping a ledger changes nothing. -/
theorem recorded (h : env.Steady) (note : τ → ω → ν) : (env.recorded note).Steady where
  log record transport ledger := h.log record transport.value ledger.world
  lookup resolver host transport ledger := h.lookup resolver host transport.value ledger.world
  markReached proxy transport ledger :=
    h.markReached ⟨proxy.address, proxy.state.value⟩ transport.value ledger.world

end Steady

namespace Fresh

variable {env : Environment ω τ π ρ} (h : env.Fresh)

include h

/-- Keeping a ledger changes nothing. -/
theorem recorded (note : τ → ω → ν) : (env.recorded note).Fresh where
  create proxy ledger := h.create ⟨proxy.address, proxy.state.value⟩ ledger.world
  setTimeout limit transport ledger := h.setTimeout limit transport.value ledger.world
  set setting transport ledger := h.set setting transport.value ledger.world

theorem makeEach (settings : List Setting) {transport : τ} {world : ω}
    (unconnected : env.observe .isConnected transport world = false) :
    env.observe .isConnected (env.makeEach settings transport world).2.1
      (env.makeEach settings transport world).2.2 = false := by
  induction settings generalizing transport world with
  | nil => exact unconnected
  | cons setting settings ih =>
      have hset := h.set setting transport world unconnected
      unfold Environment.makeEach
      generalize env.perform (.set setting) transport world = result at hset ⊢
      obtain ⟨reply, carried, set⟩ := result
      cases reply with
      | ok _ => exact ih hset
      | error fault => exact hset

theorem setUp (timeout : Option Duration) (settings : Settings) {transport : τ} {world : ω}
    (unconnected : env.observe .isConnected transport world = false) :
    env.observe .isConnected (env.setUp timeout settings transport world).2.1
      (env.setUp timeout settings transport world).2.2 = false := by
  cases timeout with
  | none => exact h.makeEach settings.toList unconnected
  | some limit =>
      exact h.makeEach settings.toList (h.setTimeout (some limit) transport world unconnected)

end Fresh

end Environment

namespace Tunnel

variable {ω τ π ρ : Type} {env : Environment ω τ π ρ}

/-- A new transport is not connected when it can be dialed. -/
theorem renew_unconnected (h : env.Fresh) {tunnel renewed : Tunnel τ π ρ} {transport : τ}
    {world world' : ω} (hrenew : renew env tunnel world = (.ok transport, renewed, world')) :
    env.observe .isConnected transport world' = false := by
  have hset := h.setUp tunnel.timeout tunnel.settings (h.create tunnel.route.head world)
  unfold renew at hrenew
  dsimp only at hrenew
  generalize env.setUp tunnel.timeout tunnel.settings _ _ = result at hset hrenew
  obtain ⟨reply, carried, set⟩ := result
  cases reply with
  | ok _ =>
      obtain ⟨rfl, -, rfl⟩ := by simpa using hrenew
      exact hset
  | error fault => simp at hrenew

/-- A tunnel that is ready has an unconnected transport: one that was kept has been asked, and a new
one is not connected by being set up. -/
theorem ready_unconnected (h : env.Fresh) {tunnel prepared : Tunnel τ π ρ} {transport : τ}
    {world world' : ω} (hready : ready env tunnel world = (.ok transport, prepared, world')) :
    env.observe .isConnected transport world' = false := by
  have hreadied := readied env tunnel world
  generalize ready env tunnel world = result at hreadied hready
  cases hreadied with
  | refused unfinished => simp at hready
  | kept idle holds unconnected unclosed =>
      obtain ⟨rfl, -, rfl⟩ := by simpa using hready
      exact unconnected
  | unreleased connected holds closes => simp at hready
  | renewed vacated => exact renew_unconnected h hready

/-- Limiting a dial does not connect the transport. -/
theorem limitDial_unconnected (h : env.Fresh) (limit : Option (Option Duration)) {transport : τ}
    {world : ω} (unconnected : env.observe .isConnected transport world = false) :
    env.observe .isConnected (limitDial env limit transport world).1
      (limitDial env limit transport world).2 = false := by
  cases limit with
  | none => exact unconnected
  | some limit => exact h.setTimeout limit transport world unconnected

end Tunnel

namespace Environment

variable {ω τ π ρ : Type} {env : Environment ω τ π ρ}

/-- Asking a proxy to relay fails for a fault of the proxy. -/
theorem ask_failed {hop : Proxy π} {target : Address} {transport : τ} {world : ω}
    {failure : Failure} (h : (env.ask hop target transport world).1 = .failed failure) :
    ∃ fault, failure = .relay hop.address fault := by
  unfold ask at h
  dsimp only at h
  generalize env.request hop target transport _ = result at h
  obtain ⟨ending, state, carried, asked⟩ := result
  cases ending with
  | failed fault => exact ⟨fault, by simpa using h.symm⟩
  | _ => simp at h

/-- Walking on from a proxy that is reached fails for a fault of a proxy. -/
theorem relay_failed {target : Address} {reached : Proxy π} {others : List (Proxy π)}
    {transport : τ} {world : ω} {failure : Failure}
    (h : (env.relay target reached others transport world).1 = .failed failure) :
    ∃ proxy fault, failure = .relay proxy fault := by
  induction others generalizing reached transport world with
  | nil => exact ⟨_, ask_failed h⟩
  | cons next others ih =>
      rcases hask : env.ask reached next.address transport world with
        ⟨ending, hop, carried, asked⟩
      simp only [relay, hask] at h
      cases ending with
      | done _ => exact ih h
      | failed fault =>
          have hfailed : (env.ask reached next.address transport world).1 = .failed failure := by
            rw [hask]
            exact h
          exact ⟨_, ask_failed hfailed⟩
      | abandoned => simp at h

/-- A walk is refused for lack of a state only over a connected transport.  All other failures of a
walk are faults of the dial or of a proxy. -/
theorem connected_of_walk_refused {route : Route π} {target : Address} {transport : τ} {world : ω}
    {reason : InvalidState} (h : (env.walk route target transport world).1 =
      .failed (.invalidState reason)) : env.observe .isConnected transport world = true := by
  cases hconnected : env.observe .isConnected transport world with
  | true => rfl
  | false =>
      simp only [walk, hconnected, Bool.false_eq_true, if_false] at h
      generalize env.dial route.head transport world = result at h
      obtain ⟨ending, state, carried, dialed⟩ := result
      cases ending with
      | done _ =>
          obtain ⟨proxy, fault, hfailure⟩ := relay_failed h
          cases hfailure
      | failed fault => simp at h
      | abandoned => simp at h

end Environment

/-! ## In a ledger -/

namespace Entry

/-- A proxy was dialed, and then the transport was connected. -/
def Connects : Entry Bool → Prop
  | .call (.dial _ _ (.done ())) _ after => after = some true
  | _ => False

/-- A proxy was asked over a connected transport, and then it was not connected any more. -/
def Disconnects : Entry Bool → Prop
  | .call (.request _ _ _ _) before after => before = some true ∧ after = some false
  | _ => False

end Entry

/-- Between two states of a ledger no proxy was dialed. -/
def Ledger.DialsNone {ω : Type} (earlier later : Ledger ω Bool) : Prop :=
  ∃ made, later.entries = earlier.entries ++ made ∧ ∀ entry ∈ made, ¬ entry.Connects

namespace Environment

variable {ω τ π ρ : Type} (env : Environment ω τ π ρ)

/-- The environment that keeps a ledger and notes, with every call to a transport, whether the
transport is connected before and after it. -/
abbrev watched : Environment (Ledger ω Bool) (Numbered τ) (Numbered π) ρ :=
  env.recorded (env.observe .isConnected)

/-- What is done before a dial is none. -/
theorem watched_respects_dialsNone : env.watched.RespectsPreparing Ledger.DialsNone where
  refl ledger := ⟨[], by simp, by simp⟩
  trans := by
    rintro _ _ _ ⟨made, hmade, hnone⟩ ⟨made', hmade', hnone'⟩
    refine ⟨made ++ made', by rw [hmade', hmade, List.append_assoc], ?_⟩
    intro entry hentry
    rcases List.mem_append.mp hentry with hentry | hentry
    · exact hnone entry hentry
    · exact hnone' entry hentry
  lookup _ _ ledger := ⟨_, rfl, by simp [Entry.Connects]⟩
  log _ ledger := ⟨_, rfl, by simp [Entry.Connects]⟩
  perform _ _ ledger := ⟨_, rfl, by simp [Entry.Connects]⟩
  close _ ledger := ⟨_, rfl, by simp [Entry.Connects]⟩
  create _ ledger := ⟨_, rfl, by simp [Entry.Connects]⟩

/-- A transport that has been connected in between, or was at the start, is connected at the end,
unless a proxy has disconnected it.  The relation is reflexive and transitive, so that a walk
upholds what each of its calls does. -/
def Upholds (transport : Numbered τ) (earlier : Ledger ω Bool) (carried : Numbered τ)
    (later : Ledger ω Bool) : Prop :=
  ∃ made, later.entries = earlier.entries ++ made ∧
    ((∀ entry ∈ made, ¬ entry.Disconnects) →
      (env.watched.observe .isConnected transport earlier = true ∨
        ∃ entry ∈ made, entry.Connects) →
      env.watched.observe .isConnected carried later = true)

namespace Upholds

variable {env : Environment ω τ π ρ} {transport carried later : Numbered τ}
  {a b c : Ledger ω Bool}

theorem refl (transport : Numbered τ) (ledger : Ledger ω Bool) :
    env.Upholds transport ledger transport ledger :=
  ⟨[], by simp, by simp⟩

theorem trans (hab : env.Upholds transport a carried b) (hbc : env.Upholds carried b later c) :
    env.Upholds transport a later c := by
  obtain ⟨made, hmade, hcarried⟩ := hab
  obtain ⟨made', hmade', hlater⟩ := hbc
  refine ⟨made ++ made', by rw [hmade', hmade, List.append_assoc], ?_⟩
  intro hkept hconnects
  have hkept' : ∀ entry ∈ made', ¬ entry.Disconnects := fun entry hentry =>
    hkept entry (List.mem_append_right made hentry)
  refine hlater hkept' ?_
  by_cases hlate : ∃ entry ∈ made', entry.Connects
  · exact .inr hlate
  · refine .inl (hcarried (fun entry hentry => hkept entry (List.mem_append_left made' hentry)) ?_)
    refine hconnects.imp_right ?_
    rintro ⟨entry, hentry, hentry'⟩
    rcases List.mem_append.mp hentry with hmem | hmem
    · exact ⟨entry, hmem, hentry'⟩
    · exact absurd ⟨entry, hmem, hentry'⟩ hlate

theorem log (h : env.Steady) (record : LogRecord) (transport : Numbered τ)
    (ledger : Ledger ω Bool) :
    env.Upholds transport ledger transport (env.watched.log record ledger) := by
  refine ⟨[.record record], rfl, fun _ hconnects => ?_⟩
  have hsame := (h.recorded (env.observe .isConnected)).log record transport ledger
  rw [hsame]
  simpa [Entry.Connects] using hconnects

/-- Telling a proxy that it is reached. -/
theorem markReached (h : env.Steady) (proxy : Proxy (Numbered π)) (transport : Numbered τ)
    (ledger : Ledger ω Bool) :
    env.Upholds transport ledger transport (env.watched.markReached proxy ledger).2 := by
  refine ⟨[.call (.mark proxy.state.number) none none], rfl, fun _ hconnects => ?_⟩
  have hsame := (h.recorded (env.observe .isConnected)).markReached proxy transport ledger
  rw [hsame]
  simpa [Entry.Connects] using hconnects

theorem request (proxy : Proxy (Numbered π)) (target : Address) (transport : Numbered τ)
    (ledger : Ledger ω Bool) :
    env.Upholds transport ledger (env.watched.request proxy target transport ledger).2.2.1
      (env.watched.request proxy target transport ledger).2.2.2 := by
  refine ⟨[_], rfl, ?_⟩
  intro hkept hconnects
  have hconnected : env.watched.observe .isConnected transport ledger = true := by
    simpa [Entry.Connects] using hconnects
  simpa [Entry.Disconnects, recorded, show env.observe .isConnected transport.value ledger.world =
    true from hconnected] using hkept

/-- A dial over a transport that is not connected yet. -/
theorem dial (proxy : Proxy (Numbered π)) (ledger : Ledger ω Bool)
    (unconnected : env.watched.observe .isConnected transport ledger = false) :
    env.Upholds transport ledger (env.watched.dial proxy transport ledger).2.2.1
      (env.watched.dial proxy transport ledger).2.2.2 := by
  refine ⟨[_], rfl, ?_⟩
  intro _ hconnects
  obtain ⟨entry, hentry, hconnects⟩ := hconnects.resolve_left (by simp [unconnected])
  obtain rfl := List.mem_singleton.mp hentry
  rcases hdial : env.dial ⟨proxy.address, proxy.state.value⟩ transport.value ledger.world with
    ⟨ending, state, value, world⟩
  simp only [recorded, hdial] at hconnects ⊢
  cases ending with
  | done _ => simpa [Entry.Connects] using hconnects
  | failed fault => simp [Entry.Connects] at hconnects
  | abandoned => simp [Entry.Connects] at hconnects

theorem ask (h : env.Steady) (hop : Proxy (Numbered π)) (target : Address)
    (transport : Numbered τ) (ledger : Ledger ω Bool) :
    env.Upholds transport ledger (env.watched.ask hop target transport ledger).2.2.1
      (env.watched.ask hop target transport ledger).2.2.2 := by
  have hrequest := (log h (.asking hop.address target) transport ledger).trans
    (request hop target transport _)
  unfold Environment.ask
  dsimp only
  generalize env.watched.request hop target transport
    (env.watched.log (.asking hop.address target) ledger) = result at hrequest ⊢
  obtain ⟨ending, state, carried, asked⟩ := result
  cases ending with
  | failed fault => exact hrequest.trans (log h _ carried asked)
  | _ => exact hrequest

/-- Walking on from a proxy that is reached. -/
theorem relay (h : env.Steady) (target : Address) (reached : Proxy (Numbered π))
    (others : List (Proxy (Numbered π))) (transport : Numbered τ) (ledger : Ledger ω Bool) :
    env.Upholds transport ledger (env.watched.relay target reached others transport ledger).2.2.1
      (env.watched.relay target reached others transport ledger).2.2.2 := by
  induction others generalizing reached transport ledger with
  | nil => exact ask h reached target transport ledger
  | cons next others ih =>
      have hask := ask h reached next.address transport ledger
      unfold Environment.relay
      generalize env.watched.ask reached next.address transport ledger = result at hask ⊢
      obtain ⟨ending, hop, carried, asked⟩ := result
      cases ending with
      | done _ => exact hask.trans ((markReached h next carried asked).trans (ih _ _ _))
      | _ => exact hask

theorem walk (h : env.Steady) (route : Route (Numbered π)) (target : Address)
    (transport : Numbered τ) (ledger : Ledger ω Bool) :
    env.Upholds transport ledger (env.watched.walk route target transport ledger).2.2.1
      (env.watched.walk route target transport ledger).2.2.2 := by
  unfold Environment.walk
  cases hconnected : env.watched.observe .isConnected transport ledger with
  | true => exact refl transport ledger
  | false =>
      have hdial := dial route.head ledger hconnected
      simp only [Bool.false_eq_true, if_false]
      generalize env.watched.dial route.head transport ledger = result at hdial ⊢
      obtain ⟨ending, state, carried, dialed⟩ := result
      cases ending with
      | done _ => exact hdial.trans (relay h _ _ _ _ _)
      | failed fault => exact hdial.trans (log h _ carried dialed)
      | abandoned => exact hdial

end Upholds

end Environment

end RelayRoute
