import RelayRoute.Tunnel

/-!
# Recorded calls

Which calls are made, in which order and on which transport, is not part of what an attempt gives
back.  `Environment.recorded` makes it visible: it behaves like the environment it is made of, but
transports and proxies carry numbers, and its world is a `Ledger` in which every call is entered
together with its answer.  A transport is numbered when it is created and keeps its number whatever
is done with it, so equal numbers mean the same transport.  Proxies are numbered by their place in
the route.

With each call to a transport the ledger can also hold a note about the transport, taken right
before and right after the call.

What the rest says about calls is said with the words of this module:

* `Ledger.calls`, `Ledger.created` — the calls that were made, and the transports that were created
  among them;
* `Ledger.OnlyLookups`, `Ledger.Numbers` — what is said of two states of a ledger that follow each
  other;
* `callsTo` — those of some calls that go to one target, with `callsTo_append`, `callsTo_eq_nil` and
  `callsTo_eq_self`; transports and sockets are two cases of it;
* `Makes` — settings that are tried in order up to the first that fails, wherever they are tried.
-/

namespace RelayRoute

/-- Something with a number by which it is told apart from others.  Two transports may be equal as
values; they are the same one only if their numbers are. -/
structure Numbered (α : Type) where
  number : Nat
  value : α

/-- A call to a transport, a proxy or a resolver, and its answer.  Transports and proxies are given
by their numbers; questions to a transport are left out, since they change nothing. -/
inductive Call
  | create (transport : Nat)
  | perform (transport : Nat) (action : Action) (reply : action.Reply)
  | close (transport : Nat) (reply : Except IoFault Unit)
  | dial (hop transport : Nat) (ending : Ending IoFault Unit)
  /-- A proxy is told that it is reached through another one. -/
  | mark (hop : Nat)
  | request (hop : Nat) (target : Address) (transport : Nat) (ending : Ending RelayFault Unit)
  | lookup (host : String) (ending : Ending IoFault (List Ip))

/-- Whether a call goes to a resolver, and so neither to a transport nor to a proxy. -/
def Call.IsLookup : Call → Prop
  | .lookup _ _ => True
  | _ => False

/-- The number of the transport that a call creates, if it creates one. -/
def Call.created? : Call → Option Nat
  | .create transport => some transport
  | _ => none

/-- A line of a ledger: a call with what was noted about the transport before and after it, or a
record of the log.  So calls and records stand in one order. -/
inductive Entry (ν : Type)
  | call (call : Call) (before after : Option ν)
  | record (record : LogRecord)

namespace Entry

variable {ν : Type}

/-- The call that is entered, if it is one. -/
def call? : Entry ν → Option Call
  | .call made _ _ => some made
  | .record _ => none

end Entry

/-- A world, and what has happened in it so far, earliest first.  The next number is part of the
ledger, so that no two transports of a run are given the same one. -/
structure Ledger (ω ν : Type) where
  world : ω
  /-- The number of the next transport. -/
  next : Nat
  entries : List (Entry ν)

namespace Ledger

variable {ω τ ν : Type}

/-- A ledger without entries. -/
def start (world : ω) : Ledger ω ν :=
  ⟨world, 0, []⟩

/-- Numbers a transport that comes from elsewhere. -/
def receive (transport : τ) (ledger : Ledger ω ν) : Numbered τ × Ledger ω ν :=
  (⟨ledger.next, transport⟩, { ledger with next := ledger.next + 1 })

/-- Enters a call that leads to another world. -/
def enter (ledger : Ledger ω ν) (call : Call) (before after : Option ν) (world : ω) : Ledger ω ν :=
  { ledger with world, entries := ledger.entries ++ [.call call before after] }

/-- Enters a record that leads to another world. -/
def write (ledger : Ledger ω ν) (record : LogRecord) (world : ω) : Ledger ω ν :=
  { ledger with world, entries := ledger.entries ++ [.record record] }

/-- The calls that were made. -/
def calls (ledger : Ledger ω ν) : List Call :=
  ledger.entries.filterMap Entry.call?

/-- The numbers of the transports that were created. -/
def created (ledger : Ledger ω ν) : List Nat :=
  ledger.calls.filterMap Call.created?

variable (ledger : Ledger ω ν)

@[simp] theorem world_enter (call : Call) (before after : Option ν) (world : ω) :
    (ledger.enter call before after world).world = world :=
  rfl

@[simp] theorem world_write (record : LogRecord) (world : ω) :
    (ledger.write record world).world = world :=
  rfl

@[simp] theorem entries_enter (call : Call) (before after : Option ν) (world : ω) :
    (ledger.enter call before after world).entries =
      ledger.entries ++ [.call call before after] :=
  rfl

@[simp] theorem entries_write (record : LogRecord) (world : ω) :
    (ledger.write record world).entries = ledger.entries ++ [.record record] :=
  rfl

@[simp] theorem calls_enter (call : Call) (before after : Option ν) (world : ω) :
    (ledger.enter call before after world).calls = ledger.calls ++ [call] := by
  simp [calls, Entry.call?]

@[simp] theorem calls_write (record : LogRecord) (world : ω) :
    (ledger.write record world).calls = ledger.calls := by
  simp [calls, Entry.call?]

@[simp] theorem created_enter (call : Call) (before after : Option ν) (world : ω) :
    (ledger.enter call before after world).created = ledger.created ++ call.created?.toList := by
  cases hnumber : call.created? <;> simp [created, hnumber]

@[simp] theorem created_write (record : LogRecord) (world : ω) :
    (ledger.write record world).created = ledger.created := by
  simp [created]

/-- A ledger that has grown has all the calls it had before. -/
theorem calls_of_growth {earlier later : Ledger ω ν} (h : earlier.entries <+: later.entries) :
    ∃ made, later.calls = earlier.calls ++ made := by
  obtain ⟨made, hmade⟩ := h
  exact ⟨made.filterMap Entry.call?, by rw [calls, ← hmade, List.filterMap_append, calls]⟩

/-- Between two states of a ledger nobody but resolvers was called.  This is what finding the
address of an attempt comes to. -/
def OnlyLookups (earlier later : Ledger ω ν) : Prop :=
  ∃ made, later.calls = earlier.calls ++ made ∧ ∀ call ∈ made, call.IsLookup

/-- Between two states of a ledger new transports were numbered one after another, from the number
that was next in the earlier one. -/
def Numbers (earlier later : Ledger ω ν) : Prop :=
  ∃ count, later.created = earlier.created ++ List.range' earlier.next count ∧
    later.next = earlier.next + count

end Ledger

namespace Environment

variable {ω τ π ρ ν : Type}

/-- The environment that keeps a ledger.  Every call is made in the environment it is made of, with
the transport, the proxy and the world that these stand for, and is entered with its answer; every
call to a transport is noted by `note`. -/
def recorded (env : Environment ω τ π ρ) (note : τ → ω → ν) :
    Environment (Ledger ω ν) (Numbered τ) (Numbered π) ρ where
  observe query transport ledger := env.observe query transport.value ledger.world
  perform action transport ledger :=
    let (reply, value, world) := env.perform action transport.value ledger.world
    (reply, { transport with value },
      ledger.enter (.perform transport.number action reply)
        (some (note transport.value ledger.world)) (some (note value world)) world)
  close transport ledger :=
    let (reply, value, world) := env.close transport.value ledger.world
    (reply, { transport with value },
      ledger.enter (.close transport.number reply)
        (some (note transport.value ledger.world)) (some (note value world)) world)
  create proxy ledger :=
    let (value, world) := env.create ⟨proxy.address, proxy.state.value⟩ ledger.world
    (⟨ledger.next, value⟩,
      { ledger with next := ledger.next + 1 }.enter (.create ledger.next)
        none (some (note value world)) world)
  dial proxy transport ledger :=
    let (ending, state, value, world) :=
      env.dial ⟨proxy.address, proxy.state.value⟩ transport.value ledger.world
    (ending, { proxy.state with value := state }, { transport with value },
      ledger.enter (.dial proxy.state.number transport.number ending)
        (some (note transport.value ledger.world)) (some (note value world)) world)
  markReached proxy ledger :=
    let (state, world) := env.markReached ⟨proxy.address, proxy.state.value⟩ ledger.world
    ({ proxy.state with value := state },
      ledger.enter (.mark proxy.state.number) none none world)
  request proxy target transport ledger :=
    let (ending, state, value, world) :=
      env.request ⟨proxy.address, proxy.state.value⟩ target transport.value ledger.world
    (ending, { proxy.state with value := state }, { transport with value },
      ledger.enter (.request proxy.state.number target transport.number ending)
        (some (note transport.value ledger.world)) (some (note value world)) world)
  lookup resolver host ledger :=
    let (ending, world) := env.lookup resolver host ledger.world
    (ending, ledger.enter (.lookup host ending) none none world)
  systemResolver := env.systemResolver
  log record ledger := ledger.write record (env.log record ledger.world)

variable (env : Environment ω τ π ρ) (note : τ → ω → ν)

/-- The creation of a transport is entered under its number. -/
@[simp] theorem calls_create (proxy : Proxy (Numbered π)) (ledger : Ledger ω ν) :
    ((env.recorded note).create proxy ledger).2.calls = ledger.calls ++ [.create ledger.next] :=
  Ledger.calls_enter { ledger with next := ledger.next + 1 } _ _ _ _

/-- A lookup is entered with its answer. -/
theorem lookup_recorded {resolver : ρ} {host : String} {ledger : Ledger ω ν}
    {answer : Ending IoFault (List Ip)} {world : ω}
    (h : env.lookup resolver host ledger.world = (answer, world)) :
    (env.recorded note).lookup resolver host ledger =
      (answer, ledger.enter (.lookup host answer) none none world) := by
  simp only [recorded, h]

@[simp] theorem calls_copyRoute (route : Route (Numbered π)) (ledger : Ledger ω ν) :
    ((env.recorded note).copyRoute route ledger).2.calls = ledger.calls := by
  rw [copyRoute_eq]
  exact Ledger.calls_write ledger _ _

/-- Copying a route gives no number away. -/
@[simp] theorem next_copyRoute (route : Route (Numbered π)) (ledger : Ledger ω ν) :
    ((env.recorded note).copyRoute route ledger).2.next = ledger.next := by
  rw [copyRoute_eq]
  rfl

end Environment

namespace Route

variable {π : Type}

/-- Numbers proxies from a number on. -/
def numberFrom : Nat → List (Proxy π) → List (Proxy (Numbered π))
  | _, [] => []
  | n, proxy :: proxies => ⟨proxy.address, ⟨n, proxy.state⟩⟩ :: numberFrom (n + 1) proxies

/-- The route with its proxies numbered by their place, from zero, so that the calls in a ledger
tell which proxy of the route was called. -/
def numbered (route : Route π) : Route (Numbered π) where
  head := ⟨route.head.address, ⟨0, route.head.state⟩⟩
  rest := numberFrom 1 route.rest

end Route

/-! ## Calls to one target -/

section

variable {γ : Type} (target? : γ → Option Nat)

/-- Those of some calls that go to the target with a number, where `target?` gives the number of the
target of a call, if it has one: the transport for a `Call`, the socket for a call to a network. -/
def callsTo (n : Nat) (calls : List γ) : List γ :=
  calls.filter fun call => target? call = some n

variable {target?}

/-- The calls to a target come in the order in which they are made. -/
theorem callsTo_append (n : Nat) (first second : List γ) :
    callsTo target? n (first ++ second) = callsTo target? n first ++ callsTo target? n second :=
  List.filter_append ..

/-- Calls that go to other targets, or to none. -/
theorem callsTo_eq_nil {n : Nat} {calls : List γ} (h : ∀ call ∈ calls, target? call ≠ some n) :
    callsTo target? n calls = [] :=
  List.filter_eq_nil_iff.mpr fun call hcall => by simpa using h call hcall

/-- Calls that all go to one target. -/
theorem callsTo_eq_self {n : Nat} {calls : List γ} (h : ∀ call ∈ calls, target? call = some n) :
    callsTo target? n calls = calls :=
  List.filter_eq_self.mpr fun call hcall => by simpa using h call hcall

end

/-! ## Settings that are tried -/

/-- Which settings are tried, with the replies, and what comes of it: they are tried in order up to
the first that fails.  What is tried says nothing about where; `Call.making` enters it as calls to a
transport, and `NetworkCall.preparing` as calls to a socket. -/
inductive Makes (settings : List Setting) :
    List (Setting × Except IoFault Unit) → Except IoFault Unit → Prop
  | whole : Makes settings (settings.map fun setting => (setting, .ok ())) (.ok ())
  | stopped {made skipped : List Setting} {setting : Setting} (fault : IoFault)
    (order : settings = made ++ setting :: skipped) :
    Makes settings ((made.map fun setting => (setting, .ok ())) ++ [(setting, .error fault)])
      (.error fault)

namespace Makes

variable {settings : List Setting} {tried : List (Setting × Except IoFault Unit)}
  {reply : Except IoFault Unit}

/-- The first setting fails, and no other one is tried. -/
theorem refused (setting : Setting) (settings : List Setting) (fault : IoFault) :
    Makes (setting :: settings) [(setting, .error fault)] (.error fault) := by
  have horder : setting :: settings = [] ++ setting :: settings := rfl
  exact .stopped fault horder

/-- A setting that is made comes in front of those made after it. -/
theorem cons (h : Makes settings tried reply) (setting : Setting) :
    Makes (setting :: settings) ((setting, .ok ()) :: tried) reply := by
  cases h with
  | whole => exact .whole
  | @stopped made skipped refused fault order =>
      have horder : setting :: settings = (setting :: made) ++ refused :: skipped := by
        rw [order, List.cons_append]
      exact .stopped fault horder

/-- Where nothing fails all settings are made. -/
theorem eq_of_ok (h : Makes settings tried (.ok ())) :
    tried = settings.map fun setting => (setting, .ok ()) := by
  cases h with
  | whole => rfl

/-- A setting that fails is the last that is tried, and what comes of the whole is its fault;
nothing after it is tried, and nothing before it has failed. -/
theorem of_fails (h : Makes settings tried reply) {setting : Setting} {fault : IoFault}
    (hfails : (setting, .error fault) ∈ tried) :
    reply = .error fault ∧ ∃ earlier, tried = earlier ++ [(setting, .error fault)] := by
  have hmade {settings : List Setting} :
      (setting, Except.error fault) ∉ settings.map fun setting => (setting, .ok ()) := by
    intro hmem
    obtain ⟨_, -, heq⟩ := List.mem_map.mp hmem
    cases heq
  cases h with
  | whole => exact absurd hfails hmade
  | stopped refusal order =>
      rcases List.mem_append.mp hfails with hmem | hlast
      · exact absurd hmem hmade
      · cases List.mem_singleton.mp hlast
        exact ⟨rfl, _, rfl⟩

end Makes

/-- What was tried on a transport. -/
def Call.making (transport : Nat) (tried : List (Setting × Except IoFault Unit)) : List Call :=
  tried.map fun made => .perform transport (.set made.1) made.2

end RelayRoute
