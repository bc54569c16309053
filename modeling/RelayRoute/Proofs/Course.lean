import RelayRoute.Proofs.Run
import RelayRoute.Proofs.Walk

/-!
# The calls of an attempt

`Walk` tells which calls a walk makes.  Before the walk an attempt may look its host up, close the
transport of a connected tunnel, create and set up another one, and limit its dial; `Course` lists
all calls of an attempt from the moment its address is found, in order, together with how it ends
and the tunnel it leaves behind.  It is to the calls of an attempt what `Attempted` is to its
outcome.

* `SetUp` — the calls that set a transport up: its limit, and then the settings up to the first that
  fails; `SetUp.eq_settingUp` and `SetUp.plain` are what is used of it;
* `Vacating`, `Readying` — the calls by which a tunnel comes to need a new transport, and those that
  make it ready;
* `renew_calls`, `ofConfig_calls`, `ready_calls`, `limitDial_calls` — each step makes the calls that
  are listed for it;
* `pursue_course` — the main result: an attempt makes the calls that `Course` lists, and ends as it
  says.

What is said elsewhere about the calls of an attempt follows from `pursue_course` by cases.
-/

namespace RelayRoute

namespace Call

/-- The number of the transport that a call creates or goes to, if there is one. -/
def transport? : Call → Option Nat
  | .create transport | .perform transport _ _ | .close transport _ | .dial _ transport _
  | .request _ _ transport _ => some transport
  | .mark _ | .lookup _ _ => none

/-- The number of the transport that a call closes, if it closes one. -/
def closed? : Call → Option Nat
  | .close transport _ => some transport
  | _ => none

/-- The calls that limit the dials of a transport, if there is a limit, and then make settings, none
of which fails: what a transport that is set up has been through. -/
def settingUp (transport : Nat) (timeout : Option Duration) (settings : List Setting) :
    List Call :=
  (timeout.toList.map fun limit => .perform transport (.setTimeout (some limit)) ()) ++
    settings.map fun setting => .perform transport (.set setting) (.ok ())

/-- The call that limits the next dial of a transport, if a limit is told; it may be told to have
none. -/
def limiting (transport : Nat) (limit : Option (Option Duration)) : List Call :=
  limit.toList.map fun limit => .perform transport (.setTimeout limit) ()

end Call

/-- The calls that set a transport up, and how that ends: its dials are limited, if there is a
limit, and then settings are tried up to the first that fails.  Limiting the dials does not fail, so
the reply is that of the settings. -/
def SetUp (transport : Nat) (timeout : Option Duration) (settings : List Setting)
    (made : List Call) (reply : Except IoFault Unit) : Prop :=
  ∃ tried, Makes settings tried reply ∧
    made = Call.limiting transport (timeout.map some) ++ Call.making transport tried

namespace SetUp

variable {transport : Nat} {timeout : Option Duration} {settings : List Setting} {made : List Call}
  {reply : Except IoFault Unit}

/-- A transport that is set up was told its limit and got all settings. -/
theorem eq_settingUp (h : SetUp transport timeout settings made (.ok ())) :
    made = Call.settingUp transport timeout settings := by
  obtain ⟨tried, hmakes, rfl⟩ := h
  rw [hmakes.eq_of_ok]
  cases timeout <;> simp [Call.limiting, Call.making, Call.settingUp]

/-- Setting a transport up does something with that transport, and nothing else. -/
theorem plain (h : SetUp transport timeout settings made reply) :
    ∀ call ∈ made, ∃ action reply, call = .perform transport action reply := by
  obtain ⟨tried, -, rfl⟩ := h
  intro call hcall
  rcases List.mem_append.mp hcall with hlimit | hset
  · obtain ⟨limit, -, rfl⟩ := List.mem_map.mp hlimit
    exact ⟨_, _, rfl⟩
  · obtain ⟨setting, -, rfl⟩ := List.mem_map.mp hset
    exact ⟨_, _, rfl⟩

end SetUp

namespace Environment

variable {ω τ π ρ ν : Type} (env : Environment ω τ π ρ) (note : τ → ω → ν)

/-- Making settings one after another tries them up to the first that fails, all on the transport
that is given, and the reply is the one that `Makes` says. -/
theorem makeEach_calls {settings : List Setting} {transport carried : Numbered τ}
    {ledger later : Ledger ω ν} {reply : Except IoFault Unit}
    (h : (env.recorded note).makeEach settings transport ledger = (reply, carried, later)) :
    carried.number = transport.number ∧
      ∃ tried, Makes settings tried reply ∧
        later.calls = ledger.calls ++ Call.making transport.number tried := by
  induction settings generalizing transport ledger with
  | nil =>
      obtain ⟨rfl, rfl, rfl⟩ := by simpa [makeEach] using h
      exact ⟨rfl, [], .whole, by simp [Call.making]⟩
  | cons setting settings ih =>
      rcases hset : env.perform (.set setting) transport.value ledger.world with
        ⟨first, value, world⟩
      have hperform : (env.recorded note).perform (.set setting) transport ledger =
          (first, { transport with value },
            ledger.enter (.perform transport.number (.set setting) first)
              (some (note transport.value ledger.world)) (some (note value world)) world) := by
        simp only [recorded, hset]
      simp only [makeEach, hperform] at h
      cases first with
      | error fault =>
          obtain ⟨rfl, rfl, rfl⟩ := by simpa using h
          exact ⟨rfl, _, .refused setting settings fault, Ledger.calls_enter _ _ _ _ _⟩
      | ok _ =>
          obtain ⟨hnumber, tried, hmakes, hmade⟩ := ih h
          refine ⟨hnumber, _, hmakes.cons setting, ?_⟩
          rw [hmade, Ledger.calls_enter, List.append_assoc]
          rfl

/-- Setting a transport up makes the calls that `SetUp` says, on the transport that is given; that
one keeps its number. -/
theorem setUp_calls {timeout : Option Duration} {settings : Settings}
    {transport carried : Numbered τ} {ledger later : Ledger ω ν} {reply : Except IoFault Unit}
    (h : (env.recorded note).setUp timeout settings transport ledger = (reply, carried, later)) :
    carried.number = transport.number ∧
      ∃ made, later.calls = ledger.calls ++ made ∧
        SetUp transport.number timeout settings.toList made reply := by
  cases timeout with
  | none =>
      obtain ⟨hnumber, tried, hmakes, hmade⟩ := env.makeEach_calls note h
      exact ⟨hnumber, _, hmade, tried, hmakes, rfl⟩
  | some limit =>
      have hlimited : ((env.recorded note).perform (.setTimeout (some limit)) transport
          ledger).2.2.calls =
            ledger.calls ++ [.perform transport.number (.setTimeout (some limit)) ()] :=
        Ledger.calls_enter _ _ _ _ _
      obtain ⟨hnumber, tried, hmakes, hmade⟩ := env.makeEach_calls note h
      refine ⟨hnumber, _, ?_, tried, hmakes, rfl⟩
      rw [hmade, hlimited, List.append_assoc]
      rfl

/-- Creating a transport, which takes the next number, and setting it up. -/
theorem setUp_created_calls {timeout : Option Duration} {settings : Settings}
    {proxy : Proxy (Numbered π)} {transport : Numbered τ} {ledger later : Ledger ω ν}
    {reply : Except IoFault Unit}
    (h : (env.recorded note).setUp timeout settings ((env.recorded note).create proxy ledger).1
      ((env.recorded note).create proxy ledger).2 = (reply, transport, later)) :
    transport.number = ledger.next ∧
      ∃ made, later.calls = ledger.calls ++ .create ledger.next :: made ∧
        SetUp ledger.next timeout settings.toList made reply := by
  obtain ⟨hnumber, made, hmade, hsetUp⟩ := env.setUp_calls note h
  refine ⟨hnumber, made, ?_, hsetUp⟩
  rw [hmade, calls_create, List.append_assoc]
  rfl

/-- Looking hosts up and logging give no number away. -/
theorem recorded_respects_next :
    (env.recorded note).RespectsLookups fun earlier later => later.next = earlier.next where
  refl _ := rfl
  trans h h' := h'.trans h
  lookup _ _ _ := rfl
  log _ _ := rfl

end Environment

namespace Tunnel

variable {ω τ π ρ ν : Type} (env : Environment ω τ π ρ) (note : τ → ω → ν)
  (tunnel : Tunnel (Numbered τ) (Numbered π) ρ)

/-! ## Making a tunnel ready -/

/-- The calls by which a tunnel comes to need a new transport, and the tunnel that is left: nobody
is called, unless a tunnel that is connected closes the transport it holds. -/
inductive Vacating (ledger : Ledger ω ν) :
    List Call → Tunnel (Numbered τ) (Numbered π) ρ → Prop
  | empty (idle : tunnel.phase ≠ .connected) (holds_none : tunnel.transport = none) :
    Vacating ledger [] tunnel
  /-- The transport that is held has been closed by somebody else, and is still held. -/
  | stale {held : Numbered τ} (idle : tunnel.phase ≠ .connected)
    (holds : tunnel.transport = some held)
    (unconnected : env.observe .isConnected held.value ledger.world = false)
    (closed : env.observe .isClosed held.value ledger.world = true) : Vacating ledger [] tunnel
  | lost (connected : tunnel.phase = .connected) (holds_none : tunnel.transport = none) :
    Vacating ledger [] { tunnel with phase := .unbound, transport := none }
  | released {old : Numbered τ} (connected : tunnel.phase = .connected)
    (holds : tunnel.transport = some old) :
    Vacating ledger [.close old.number (.ok ())]
      { tunnel with phase := .unbound, transport := none }

/-- The calls that make a tunnel ready, what they come to, and the tunnel that is left.  A new
transport is created after the old one was closed, and is set up right after that. -/
inductive Readying (ledger : Ledger ω ν) :
    List Call → Except Failure (Numbered τ) → Tunnel (Numbered τ) (Numbered π) ρ → Prop
  | refused (failure : Failure) : Readying ledger [] (.error failure) tunnel
  | kept {held : Numbered τ} (holds : tunnel.transport = some held) :
    Readying ledger [] (.ok held) tunnel
  | unreleased {old : Numbered τ} (fault : IoFault) (connected : tunnel.phase = .connected)
    (holds : tunnel.transport = some old) :
    Readying ledger [.close old.number (.error fault)] (.error (.io fault))
      { tunnel with phase := .unbound, transport := none }
  /-- A new transport is set up. -/
  | renewed {before made : List Call} {vacant : Tunnel (Numbered τ) (Numbered π) ρ}
    {transport : Numbered τ} (vacating : Vacating env tunnel ledger before vacant)
    (setUp : SetUp transport.number tunnel.timeout tunnel.settings.toList made (.ok ()))
    (fresh : transport.number = ledger.next) :
    Readying ledger (before ++ .create transport.number :: made) (.ok transport)
      { vacant with transport := some transport }
  /-- A new transport cannot be set up, and is not kept. -/
  | unset {before made : List Call} {vacant : Tunnel (Numbered τ) (Numbered π) ρ}
    {fault : IoFault} (vacating : Vacating env tunnel ledger before vacant)
    (setUp : SetUp ledger.next tunnel.timeout tunnel.settings.toList made (.error fault)) :
    Readying ledger (before ++ .create ledger.next :: made) (.error (.io fault)) vacant

variable {env note tunnel}

/-- A tunnel that needs a new transport has come to need it by the calls that `Vacating` lists. -/
theorem Vacated.calls {ledger later : Ledger ω ν} {vacant : Tunnel (Numbered τ) (Numbered π) ρ}
    (h : Vacated (env.recorded note) tunnel ledger vacant later) :
    later.next = ledger.next ∧ ∃ before,
      later.calls = ledger.calls ++ before ∧ Vacating env tunnel ledger before vacant := by
  cases h with
  | empty idle holds_none => exact ⟨rfl, [], by simp, .empty idle holds_none⟩
  | stale idle holds unconnected closed =>
      exact ⟨rfl, [], by simp, .stale idle holds unconnected closed⟩
  | lost connected holds_none => exact ⟨rfl, [], by simp, .lost connected holds_none⟩
  | released connected holds closes =>
      obtain ⟨hreply, -, rfl⟩ := by simpa [Environment.recorded] using closes
      refine ⟨rfl, _, Ledger.calls_enter _ _ _ _ _, ?_⟩
      rw [hreply]
      exact .released connected holds

/-- A tunnel that needs a new transport is as it was, but for its phase and its transport. -/
theorem Vacating.frame {ledger : Ledger ω ν} {before : List Call}
    {vacant : Tunnel (Numbered τ) (Numbered π) ρ}
    (h : Vacating env tunnel ledger before vacant) :
    vacant = { tunnel with phase := vacant.phase, transport := vacant.transport } := by
  cases h <;> rfl

/-- A new transport takes the next number and is set up right after it is created.  It is held if it
could be set up; otherwise the tunnel is as it was, and the fault is that of the setting. -/
theorem renew_calls {reply : Except Failure (Numbered τ)}
    {renewed : Tunnel (Numbered τ) (Numbered π) ρ} {ledger later : Ledger ω ν}
    (h : renew (env.recorded note) tunnel ledger = (reply, renewed, later)) :
    ∃ made, later.calls = ledger.calls ++ .create ledger.next :: made ∧
      ((∃ transport, reply = .ok transport ∧ transport.number = ledger.next ∧
          renewed = { tunnel with transport := some transport } ∧
          SetUp transport.number tunnel.timeout tunnel.settings.toList made (.ok ())) ∨
        ∃ fault, reply = .error (.io fault) ∧ renewed = tunnel ∧
          SetUp ledger.next tunnel.timeout tunnel.settings.toList made (.error fault)) := by
  simp only [renew] at h
  rcases hset : (env.recorded note).setUp tunnel.timeout tunnel.settings
    ((env.recorded note).create tunnel.route.head ledger).1
    ((env.recorded note).create tunnel.route.head ledger).2 with ⟨set, transport, finished⟩
  obtain ⟨hnumber, made, hcalls, hsetUp⟩ := env.setUp_created_calls note hset
  simp only [hset] at h
  cases set with
  | ok _ =>
      obtain ⟨rfl, rfl, rfl⟩ := by simpa using h
      exact ⟨made, hcalls, .inl ⟨transport, rfl, hnumber, rfl, hnumber ▸ hsetUp⟩⟩
  | error fault =>
      obtain ⟨rfl, rfl, rfl⟩ := by simpa using h
      exact ⟨made, hcalls, .inr ⟨fault, rfl, rfl, hsetUp⟩⟩

/-- A new tunnel with settings holds the transport that was set up for it, and was made with exactly
the configuration it was given.  If its transport cannot be set up there is no tunnel. -/
theorem ofConfig_calls {route : Route (Numbered π)} {config : Config}
    {reply : Except Failure (Tunnel (Numbered τ) (Numbered π) ρ)} {ledger later : Ledger ω ν}
    (h : ofConfig (env.recorded note) route config ledger = (reply, later)) :
    ∃ made, later.calls = ledger.calls ++ .create ledger.next :: made ∧
      ((∃ new transport, reply = .ok new ∧
          new.plan = ⟨route, config.prefersIpv4, config.timeout, config.settings⟩ ∧
          new.transport = some transport ∧ transport.number = ledger.next ∧
          SetUp ledger.next config.timeout config.settings.toList made (.ok ())) ∨
        ∃ fault, reply = .error (.io fault) ∧
          SetUp ledger.next config.timeout config.settings.toList made (.error fault)) := by
  simp only [ofConfig] at h
  rcases hset : (env.recorded note).setUp config.timeout config.settings
    ((env.recorded note).create route.head ledger).1
    ((env.recorded note).create route.head ledger).2 with ⟨set, transport, finished⟩
  obtain ⟨hnumber, made, hcalls, hsetUp⟩ := env.setUp_created_calls note hset
  simp only [hset] at h
  cases set with
  | ok _ =>
      obtain ⟨rfl, rfl⟩ := by simpa using h
      exact ⟨made, hcalls, .inl ⟨_, transport, rfl, rfl, rfl, hnumber, hsetUp⟩⟩
  | error fault =>
      obtain ⟨rfl, rfl⟩ := by simpa using h
      exact ⟨made, hcalls, .inr ⟨fault, rfl, hsetUp⟩⟩

/-- Making a tunnel ready makes the calls that `Readying` lists, with the reply and the tunnel that
go with them. -/
theorem ready_calls {reply : Except Failure (Numbered τ)}
    {prepared : Tunnel (Numbered τ) (Numbered π) ρ} {ledger later : Ledger ω ν}
    (h : ready (env.recorded note) tunnel ledger = (reply, prepared, later)) :
    ∃ made, later.calls = ledger.calls ++ made ∧
      Readying env tunnel ledger made reply prepared := by
  have hready := readied (env.recorded note) tunnel ledger
  generalize ready (env.recorded note) tunnel ledger = result at hready h
  cases hready with
  | refused unfinished =>
      obtain ⟨rfl, rfl, rfl⟩ := by simpa using h
      exact ⟨[], by simp, .refused _⟩
  | kept idle holds unconnected unclosed =>
      obtain ⟨rfl, rfl, rfl⟩ := by simpa using h
      exact ⟨[], by simp, .kept holds⟩
  | unreleased connected holds closes =>
      obtain ⟨rfl, rfl, rfl⟩ := by simpa using h
      obtain ⟨hreply, -, rfl⟩ := by simpa [Environment.recorded] using closes
      refine ⟨_, Ledger.calls_enter _ _ _ _ _, ?_⟩
      rw [hreply]
      exact .unreleased _ connected holds
  | renewed vacated =>
      obtain ⟨hnext, before, hbefore, hvacating⟩ := vacated.calls
      obtain ⟨made, hmade, hrenewed⟩ := renew_calls h
      have hframe := hvacating.frame
      refine ⟨before ++ .create ledger.next :: made, ?_, ?_⟩
      · rw [hmade, hbefore, hnext, List.append_assoc]
      · rcases hrenewed with ⟨transport, rfl, hfresh, rfl, hsetUp⟩ | ⟨fault, rfl, rfl, hsetUp⟩
        · rw [hnext] at hfresh
          rw [hframe] at hsetUp
          rw [← hfresh]
          exact .renewed hvacating hsetUp hfresh
        · rw [hnext, hframe] at hsetUp
          exact .unset hvacating hsetUp

/-! ## Attempts -/

variable (env note tunnel)

/-- All calls of an attempt over a route, how it ends, and the tunnel that is left.  The lookups of
its address come first, then what makes the tunnel ready, the limit for the dial, and the walk; an
attempt that ends earlier has made the calls up to there. -/
inductive Course (route : Route π) (goal : Goal) (ledger : Ledger ω ν) :
    List Call → Ending Failure Unit → Tunnel (Numbered τ) (Numbered π) ρ → Prop
  /-- No address is found. -/
  | unaimed {lookups : List Call} {ending : Ending Failure Unit}
    (only_lookups : ∀ call ∈ lookups, call.IsLookup) (not_done : ending ≠ .done ()) :
    Course route goal ledger lookups ending tunnel
  /-- The tunnel cannot be made ready. -/
  | unready {lookups made : List Call} {target : Address} {failure : Failure}
    {sought started : Ledger ω ν} {prepared : Tunnel (Numbered τ) (Numbered π) ρ}
    (only_lookups : ∀ call ∈ lookups, call.IsLookup)
    (is_aimed : aim (env.recorded note) tunnel goal ledger = (.done target, sought))
    (is_copied : ((env.recorded note).copyRoute tunnel.route sought).2 = started)
    (calls : started.calls = ledger.calls ++ lookups) (next : started.next = ledger.next)
    (readying : Readying env tunnel started made (.error failure) prepared) :
    Course route goal ledger (lookups ++ made) (.failed failure) prepared
  /-- The route is walked over the transport that the tunnel was made ready with. -/
  | walked {lookups made walk : List Call} {target : Address} {ending : Ending Failure Unit}
    {sought started : Ledger ω ν} {prepared after : Tunnel (Numbered τ) (Numbered π) ρ}
    {transport carried : Numbered τ}
    (only_lookups : ∀ call ∈ lookups, call.IsLookup)
    (is_aimed : aim (env.recorded note) tunnel goal ledger = (.done target, sought))
    (is_copied : ((env.recorded note).copyRoute tunnel.route sought).2 = started)
    (calls : started.calls = ledger.calls ++ lookups) (next : started.next = ledger.next)
    (readying : Readying env tunnel started made (.ok transport) prepared)
    (walks : walk = [] ∨ route.Walked target transport.number walk ending)
    (holds : after.transport = some carried) (number : carried.number = transport.number) :
    Course route goal ledger
      (lookups ++ (made ++ (Call.limiting transport.number goal.limit? ++ walk))) ending after

variable {env note tunnel}

/-- Limiting a dial is one call, if there is a limit. -/
theorem limitDial_calls {limit : Option (Option Duration)} {transport limited : Numbered τ}
    {ledger later : Ledger ω ν}
    (h : limitDial (env.recorded note) limit transport ledger = (limited, later)) :
    limited.number = transport.number ∧
      later.calls = ledger.calls ++ Call.limiting transport.number limit := by
  cases limit with
  | none =>
      obtain ⟨rfl, rfl⟩ := by simpa [limitDial] using h
      exact ⟨rfl, by simp [Call.limiting]⟩
  | some limit =>
      obtain ⟨rfl, rfl⟩ := by simpa [limitDial, Environment.recorded] using h
      exact ⟨rfl, Ledger.calls_enter _ _ _ _ _⟩

/-- A walk makes no calls, or those that `Route.Walked` says. -/
theorem walk_calls_of_any {route : Route π} {target : Address} {transport carried : Numbered τ}
    {ledger later : Ledger ω ν} {ending : Ending Failure Unit} {walked : Route (Numbered π)}
    (h : (env.recorded note).walk route.numbered target transport ledger =
      (ending, walked, carried, later)) :
    carried.number = transport.number ∧ ∃ walk, later.calls = ledger.calls ++ walk ∧
      (walk = [] ∨ route.Walked target transport.number walk ending) := by
  by_cases hconnected : env.observe .isConnected transport.value ledger.world = true
  · have hobserve : (env.recorded note).observe .isConnected transport ledger = true := hconnected
    simp only [Environment.walk, hobserve, if_true] at h
    obtain ⟨-, -, rfl, rfl⟩ := by simpa using h
    exact ⟨rfl, [], by simp, .inl rfl⟩
  · obtain ⟨hnumber, walk, hwalk, hwalked⟩ := env.walk_calls note h (by simpa using hconnected)
    exact ⟨hnumber, walk, hwalk, .inr hwalked⟩

/-- Walking over the transport that a tunnel was made ready with: the calls of the walk come after
those that made the tunnel ready, and all of them go to one transport. -/
theorem ready_walk_calls {route : Route π} {target : Address} {limit : Option (Option Duration)}
    {transport limited carried : Numbered τ} {started readied dialing finished : Ledger ω ν}
    {prepared : Tunnel (Numbered τ) (Numbered π) ρ} {walked : Route (Numbered π)}
    {ending : Ending Failure Unit}
    (is_ready : ready (env.recorded note) tunnel started = (.ok transport, prepared, readied))
    (is_limited : limitDial (env.recorded note) limit transport readied = (limited, dialing))
    (is_walked : (env.recorded note).walk route.numbered target limited dialing =
      (ending, walked, carried, finished)) :
    carried.number = transport.number ∧ ∃ made walk,
      finished.calls =
        started.calls ++ (made ++ (Call.limiting transport.number limit ++ walk)) ∧
      Readying env tunnel started made (.ok transport) prepared ∧
      (walk = [] ∨ route.Walked target transport.number walk ending) := by
  obtain ⟨made, hmade, hreadying⟩ := ready_calls is_ready
  obtain ⟨hlimited, hlimiting⟩ := limitDial_calls is_limited
  obtain ⟨hcarried, walk, hwalk, hwalks⟩ := walk_calls_of_any is_walked
  rw [hlimited] at hwalks
  refine ⟨hcarried.trans hlimited, made, walk, ?_, hreadying, hwalks⟩
  rw [hwalk, hlimiting, hmade]
  simp only [List.append_assoc]

/-- **The calls of an attempt** are those of a `Course`, whatever the tunnel has been through and
whatever the world answers.  Whether the walk succeeds or not, its calls come after those of the
other steps, so the two cases of `Attempted` that walk are one case here. -/
theorem pursue_course {route : Route π} (hroute : tunnel.route = route.numbered) {goal : Goal}
    {ledger later : Ledger ω ν} {ending : Ending Failure Unit}
    {after : Tunnel (Numbered τ) (Numbered π) ρ}
    (h : pursue (env.recorded note) tunnel goal ledger = (ending, after, later)) :
    ∃ made, later.calls = ledger.calls ++ made ∧
      Course env note tunnel route goal ledger made ending after := by
  have hlookups := respects_aim (env.recorded_respects_onlyLookups note) tunnel goal ledger
  have hnext := respects_aim (env.recorded_respects_next note) tunnel goal ledger
  rw [pursue_eq] at h
  rcases haim : aim (env.recorded note) tunnel goal ledger with ⟨aimed, sought⟩
  rw [haim] at h hlookups hnext
  obtain ⟨lookups, hcalls, honly⟩ := hlookups
  cases aimed with
  | failed failure =>
      obtain ⟨rfl, rfl, rfl⟩ := by simpa using h
      exact ⟨lookups, hcalls, .unaimed honly (by simp)⟩
  | abandoned =>
      obtain ⟨rfl, rfl, rfl⟩ := by simpa using h
      exact ⟨lookups, hcalls, .unaimed honly (by simp)⟩
  | done target =>
      dsimp only at h hcalls hnext
      have hattempted := attempted (env.recorded note) tunnel target goal.limit? sought
      rw [h] at hattempted
      generalize hstarted : ((env.recorded note).copyRoute tunnel.route sought).2 = started
      have hbefore : started.calls = ledger.calls ++ lookups := by
        rw [← hstarted, Environment.calls_copyRoute, hcalls]
      have hfirst : started.next = ledger.next := by
        rw [← hstarted, Environment.next_copyRoute, hnext]
      have hwalking {transport limited carried : Numbered τ} {readied dialing finished : Ledger ω ν}
          {prepared : Tunnel (Numbered τ) (Numbered π) ρ} {walked : Route (Numbered π)}
          {ending : Ending Failure Unit} (phase : Phase)
          (is_ready : ready (env.recorded note) tunnel started = (.ok transport, prepared, readied))
          (is_limited : limitDial (env.recorded note) goal.limit? transport readied =
            (limited, dialing))
          (is_walked : (env.recorded note).walk tunnel.route target limited dialing =
            (ending, walked, carried, finished)) :
          ∃ made, finished.calls = ledger.calls ++ made ∧
            Course env note tunnel route goal ledger made ending
              { prepared with destination := some target, transport := some carried, phase } := by
        rw [hroute] at is_walked
        obtain ⟨hnumber, made, walk, hcalls, hreadying, hwalks⟩ :=
          ready_walk_calls is_ready is_limited is_walked
        refine ⟨_, ?_, .walked honly haim hstarted hbefore hfirst hreadying hwalks rfl hnumber⟩
        rw [hcalls, hbefore, List.append_assoc]
      cases hattempted with
      | unready is_ready =>
          rw [hstarted] at is_ready
          obtain ⟨made, hmade, hreadying⟩ := ready_calls is_ready
          refine ⟨lookups ++ made, ?_, .unready honly haim hstarted hbefore hfirst hreadying⟩
          rw [hmade, hbefore, List.append_assoc]
      | connected is_ready is_limited is_walked =>
          rw [hstarted] at is_ready
          obtain ⟨made, hmade, hcourse⟩ := hwalking .connected is_ready is_limited is_walked
          exact ⟨made, (Ledger.calls_write _ _ _).trans hmade, hcourse⟩
      | stranded is_ready is_limited is_walked not_done =>
          rw [hstarted] at is_ready
          exact hwalking _ is_ready is_limited is_walked

end Tunnel

end RelayRoute
