import RelayRoute.Proofs.Preference
import RelayRoute.Scripted.Environment

/-!
# What attempts leave in the log

A ledger holds calls and records in one order, and the records of an attempt can be told from its
calls (`Call.lines`): a lookup that fails is recorded behind it, each request in front of it, and
what a proxy did wrong behind the call that shows it.  Two records belong to the attempt itself, one
with the length of the route when there is an address to go to, and one when the route is complete.

* `Ledger.Accounts` — between two states of a ledger nothing but calls with their records was
  entered; it is shown for each step of a walk and put together along the route (`walk_accounts`);
* `Ledger.OnlyPrepares`, `ready_onlyPrepares` — what is done before the dial is done without the
  log;
* `Uneventful`, `Blames`, `Walked.closes` — a walk that fails ends with the call that shows it and a
  warning, and any other walk gives none;
* `Accounted`, `Closes` — the lines of a whole attempt, and the three ways in which they end;
* `Environment.Keeps` — a world whose log nobody else writes to, so that it holds what is entered;
* `pursue_accounted` — the main result.
-/

namespace RelayRoute

/-! ## Lines -/

/-- A line of a ledger without its notes. -/
inductive Line
  | call (call : Call)
  | record (record : LogRecord)

namespace Line

/-- The call on a line, if it is one. -/
def call? : Line → Option Call
  | .call made => some made
  | .record _ => none

/-- The record on a line, if it is one. -/
def record? : Line → Option LogRecord
  | .call _ => none
  | .record written => some written

end Line

/-- An entry without its notes. -/
def Entry.line {ν : Type} : Entry ν → Line
  | .call made _ _ => .call made
  | .record written => .record written

namespace Call

/-- A call with the records that belong to it, where `address` tells the proxies by their numbers:
a request is announced, and a failure of others is told. -/
def lines (address : Nat → Address) : Call → List Line
  | .lookup host (.failed fault) =>
    [.call (.lookup host (.failed fault)), .record (.lookupFailed host fault)]
  | .dial hop transport (.failed fault) =>
    [.call (.dial hop transport (.failed fault)), .record (.unreachable (address hop) fault)]
  | .request hop stop transport answer =>
    .record (.asking (address hop) stop) :: .call (.request hop stop transport answer) ::
      match answer with
      | .failed fault => [.record (.notRelayed (address hop) stop fault)]
      | _ => []
  | call => [.call call]

/-- A call creates a transport or goes to one, and neither dials it nor asks a proxy over it. -/
def Prepares : Call → Prop
  | .create _ | .perform _ _ _ | .close _ _ => True
  | _ => False

/-- A proxy is not reached, or does not relay. -/
def FailsAtProxy : Call → Prop
  | .dial _ _ (.failed _) | .request _ _ _ (.failed _) => True
  | _ => False

end Call

namespace Ledger

variable {ω ν : Type}

/-- The lines of a ledger. -/
def lines (ledger : Ledger ω ν) : List Line :=
  ledger.entries.map Entry.line

variable (ledger : Ledger ω ν)

@[simp] theorem lines_enter (call : Call) (before after : Option ν) (world : ω) :
    (ledger.enter call before after world).lines = ledger.lines ++ [.call call] := by
  simp [lines, Entry.line]

/-- Between two states of a ledger nothing but calls with their records was entered. -/
def Accounts (address : Nat → Address) (earlier later : Ledger ω ν) : Prop :=
  ∃ made, later.calls = earlier.calls ++ made ∧
    later.lines = earlier.lines ++ made.flatMap (Call.lines address)

/-- Between two states of a ledger transports were prepared, and nothing was recorded. -/
def OnlyPrepares (earlier later : Ledger ω ν) : Prop :=
  ∃ made : List Call, later.lines = earlier.lines ++ made.map .call ∧ ∀ call ∈ made, call.Prepares

variable {ledger}

theorem Accounts.refl (address : Nat → Address) (ledger : Ledger ω ν) :
    Accounts address ledger ledger :=
  ⟨[], by simp, by simp⟩

theorem Accounts.trans {address : Nat → Address} {a b c : Ledger ω ν} (h : Accounts address a b)
    (h' : Accounts address b c) : Accounts address a c := by
  obtain ⟨made, hcalls, hlines⟩ := h
  obtain ⟨further, hcalls', hlines'⟩ := h'
  refine ⟨made ++ further, ?_, ?_⟩
  · rw [hcalls', hcalls, List.append_assoc]
  · rw [hlines', hlines, List.flatMap_append, List.append_assoc]

theorem OnlyPrepares.refl (ledger : Ledger ω ν) : OnlyPrepares ledger ledger :=
  ⟨[], by simp, by simp⟩

theorem OnlyPrepares.trans {a b c : Ledger ω ν} (h : OnlyPrepares a b)
    (h' : OnlyPrepares b c) : OnlyPrepares a c := by
  obtain ⟨made, hlines, hmade⟩ := h
  obtain ⟨further, hlines', hfurther⟩ := h'
  refine ⟨made ++ further, ?_, ?_⟩
  · rw [hlines', hlines, List.map_append, List.append_assoc]
  · intro call hcall
    rcases List.mem_append.mp hcall with hcall | hcall
    · exact hmade call hcall
    · exact hfurther call hcall

/-- The calls of a ledger stand on its lines, so that what is said of the lines of an attempt is
also said of its calls. -/
theorem calls_eq_lines (ledger : Ledger ω ν) :
    ledger.calls = ledger.lines.filterMap Line.call? := by
  have hline : Line.call? ∘ Entry.line = (Entry.call? : Entry ν → Option Call) := by
    funext entry
    cases entry <;> rfl
  rw [calls, lines, List.filterMap_map, hline]

/-- Where transports were prepared, the calls that were made do so. -/
theorem OnlyPrepares.calls {earlier later : Ledger ω ν} (h : OnlyPrepares earlier later) :
    ∃ made, later.calls = earlier.calls ++ made ∧ ∀ call ∈ made, call.Prepares := by
  obtain ⟨made, hlines, hmade⟩ := h
  have hcalls : (made.map Line.call).filterMap Line.call? = made := by
    simp [List.filterMap_map, Function.comp_def, Line.call?]
  refine ⟨made, ?_, hmade⟩
  rw [calls_eq_lines, calls_eq_lines, hlines, List.filterMap_append, hcalls]

end Ledger

namespace Route

variable {π : Type}

/-- The address of the proxy with a number.  A number beyond the route stands for its head. -/
def addressAt (route : Route π) (hop : Nat) : Address :=
  (route.hops.getD hop route.head).address

theorem addressAt_of_getElem? {route : Route π} {hop : Nat} {proxy : Proxy π}
    (h : route.hops[hop]? = some proxy) : route.addressAt hop = proxy.address := by
  rw [addressAt, List.getD_eq_getElem?_getD, h, Option.getD_some]

end Route

/-! ## Making a tunnel ready -/

namespace Environment

variable {ω τ π ρ ν : Type} (env : Environment ω τ π ρ) (note : τ → ω → ν)

/-- The environment in which nobody answers lookups or keeps a log. -/
def muted : Environment ω τ π ρ :=
  { env with lookup := fun _ _ world => (.abandoned, world), log := fun _ world => world }

/-- Settings are made without looking anything up and without the log. -/
theorem makeEach_muted (settings : List Setting) (transport : τ) (world : ω) :
    env.muted.makeEach settings transport world = env.makeEach settings transport world := by
  induction settings generalizing transport world with
  | nil => rfl
  | cons setting settings ih =>
      have hsame : env.muted.perform = env.perform := rfl
      simp only [makeEach, hsame, ih]

/-- What is done before a dial, the log apart, prepares transports.  Muting the environment is what
leaves the log apart; a tunnel is made ready in it as in the other one. -/
theorem muted_respects_onlyPrepares :
    (env.recorded note).muted.RespectsPreparing Ledger.OnlyPrepares where
  refl := Ledger.OnlyPrepares.refl
  trans := Ledger.OnlyPrepares.trans
  lookup _ _ ledger := Ledger.OnlyPrepares.refl ledger
  log _ ledger := Ledger.OnlyPrepares.refl ledger
  perform _ _ _ := ⟨[_], Ledger.lines_enter _ _ _ _ _, by simp [Call.Prepares]⟩
  close _ _ := ⟨[_], Ledger.lines_enter _ _ _ _ _, by simp [Call.Prepares]⟩
  create _ _ := ⟨[_], Ledger.lines_enter _ _ _ _ _, by simp [Call.Prepares]⟩

end Environment

namespace Tunnel

variable {ω τ π ρ ν : Type} (env : Environment ω τ π ρ) (note : τ → ω → ν)

/-- A tunnel is made ready without looking anything up and without the log. -/
theorem ready_muted (tunnel : Tunnel τ π ρ) (world : ω) :
    ready env.muted tunnel world = ready env tunnel world := by
  have hsetUp (timeout : Option Duration) (settings : Settings) (transport : τ) (world : ω) :
      env.muted.setUp timeout settings transport world =
        env.setUp timeout settings transport world := by
    cases timeout with
    | none => exact env.makeEach_muted _ _ _
    | some limit => exact env.makeEach_muted _ _ _
  have hrenew (tunnel : Tunnel τ π ρ) (world : ω) :
      renew env.muted tunnel world = renew env tunnel world := by
    unfold renew
    simp only [hsetUp]
    rfl
  unfold ready
  simp only [hrenew]
  rfl

variable (tunnel : Tunnel (Numbered τ) (Numbered π) ρ)

/-- Making a tunnel ready prepares transports. -/
theorem ready_onlyPrepares (ledger : Ledger ω ν) :
    Ledger.OnlyPrepares ledger (ready (env.recorded note) tunnel ledger).2.2 := by
  rw [← ready_muted]
  exact respects_ready (env.muted_respects_onlyPrepares note) tunnel ledger

end Tunnel

/-! ## Walks -/

namespace Environment

variable {ω τ π ρ ν : Type} (env : Environment ω τ π ρ) (note : τ → ω → ν)

end Environment

/-! ## Warnings -/

/-- No call among the lines has failed at a proxy, and no record warns or says that a route is
complete. -/
def Uneventful (lines : List Line) : Prop :=
  ∀ line ∈ lines, match line with
    | .call call => ¬ call.FailsAtProxy
    | .record written => written.level = .detail ∧ ∀ target hops, written ≠ .connected target hops

theorem uneventful_append {front back : List Line} :
    Uneventful (front ++ back) ↔ Uneventful front ∧ Uneventful back :=
  List.forall_mem_append

/-- Calls without records are uneventful if none of them fails at a proxy. -/
theorem uneventful_map {calls : List Call} (h : ∀ call ∈ calls, ¬ call.FailsAtProxy) :
    Uneventful (calls.map .call) := by
  intro line hline
  obtain ⟨call, hcall, rfl⟩ := List.mem_map.mp hline
  exact h call hcall

/-- Preparing a transport does not fail at a proxy. -/
theorem Call.Prepares.not_failsAtProxy {call : Call} (h : call.Prepares) : ¬ call.FailsAtProxy := by
  cases call <;> first | exact id | exact h.elim

/-- A call that fails at a proxy of a route, the record that puts it down to that proxy, and what
the attempt ends with. -/
inductive Blames {π : Type} (route : Route π) : Call → LogRecord → Failure → Prop
  | dial (transport : Nat) (fault : IoFault) :
    Blames route (.dial 0 transport (.failed fault)) (.unreachable route.head.address fault)
      (.io fault)
  | request {hop : Nat} {proxy : Proxy π} (is_hop : route.hops[hop]? = some proxy) (stop : Address)
    (transport : Nat) (fault : RelayFault) :
    Blames route (.request hop stop transport (.failed fault))
      (.notRelayed proxy.address stop fault) (.relay proxy.address fault)

/-- A record that puts a failure down to a proxy warns, and ends with the text of the fault. -/
theorem Blames.warns {π : Type} {route : Route π} {call : Call} {written : LogRecord}
    {failure : Failure} (h : Blames route call written failure) :
    call.FailsAtProxy ∧ written.level = .warning ∧
      ((∃ fault, failure = .io fault ∧ written.text =
          "Could not reach proxy " ++ route.head.address.text ++ ": " ++ fault.text) ∨
        ∃ (proxy stop : Address) (fault : RelayFault), failure = .relay proxy fault ∧
          written.text =
            "Proxy " ++ proxy.text ++ " did not relay to " ++ stop.text ++ ": " ++ fault.text) := by
  cases h with
  | dial transport fault => exact ⟨trivial, rfl, .inl ⟨fault, rfl, rfl⟩⟩
  | request is_hop stop transport fault => exact ⟨trivial, rfl, .inr ⟨_, stop, fault, rfl, rfl⟩⟩

namespace Route

variable {π : Type}

/-- The record of a connection over a route to a target, if an attempt ends with one. -/
def arrival (route : Route π) (target : Address) : Ending Failure Unit → List Line
  | .done () => [.record (.connected target route.length)]
  | _ => []

theorem arrival_of_ne_done {target : Address} {route : Route π} {ending : Ending Failure Unit}
    (h : ending ≠ .done ()) : route.arrival target ending = [] := by
  cases ending with
  | done _ => exact absurd rfl h
  | _ => rfl

/-- Requests that are granted, or that nobody waited for, are uneventful. -/
theorem uneventful_requests (address : Nat → Address) (transport : Nat)
    {last : Ending RelayFault Unit} (h : ∀ fault, last ≠ .failed fault) (hop : Nat)
    (stops : List Address) :
    Uneventful ((requests transport last hop stops).flatMap (Call.lines address)) := by
  have hone (hop : Nat) (stop : Address) {answer : Ending RelayFault Unit}
      (hanswer : ∀ fault, answer ≠ .failed fault) :
      Uneventful ((Call.request hop stop transport answer).lines address) := by
    cases answer with
    | failed fault => exact absurd rfl (hanswer fault)
    | _ => simp [Uneventful, Call.lines, Call.FailsAtProxy, LogRecord.level]
  induction stops generalizing hop with
  | nil => simp [requests, Uneventful]
  | cons stop stops ih =>
      by_cases hlast : stops = []
      · rw [hlast, requests, List.flatMap_singleton]
        exact hone hop stop h
      · rw [requests_cons _ _ _ _ hlast, List.flatMap_cons, uneventful_append, List.flatMap_cons,
          uneventful_append]
        refine ⟨hone hop stop fun fault hfailed => ?_, ?_, ih (hop + 1)⟩
        · cases hfailed
        · simp [Uneventful, Call.lines, Call.FailsAtProxy]

/-- A request that is not granted is the last one, and its warning the last line.  The induction is
on the stops, and the proxies are counted on. -/
theorem requests_failed (address : Nat → Address) (transport : Nat) (fault : RelayFault) (hop : Nat)
    {stops : List Address} (h : stops ≠ []) :
    ∃ front asked stop, asked + 1 = hop + stops.length ∧ Uneventful front ∧
      (requests transport (.failed fault) hop stops).flatMap (Call.lines address) =
        front ++ [.call (.request asked stop transport (.failed fault)),
          .record (.notRelayed (address asked) stop fault)] := by
  induction stops generalizing hop with
  | nil => exact absurd rfl h
  | cons stop stops ih =>
      by_cases hlast : stops = []
      · refine ⟨[.record (.asking (address hop) stop)], hop, stop, by simp [hlast], ?_, ?_⟩
        · simp [Uneventful, LogRecord.level]
        · simp [hlast, requests, Call.lines]
      · obtain ⟨front, asked, last, hnumber, hfront, hlines⟩ := ih (hop + 1) hlast
        rw [requests_cons _ _ _ _ hlast, List.flatMap_cons, List.flatMap_cons, hlines]
        refine ⟨_, asked, last, ?_, ?_, (List.append_assoc _ _ _).symm.trans
          (List.append_assoc _ _ _).symm⟩
        · rw [List.length_cons]
          omega
        · rw [uneventful_append, uneventful_append]
          refine ⟨⟨?_, ?_⟩, hfront⟩
          · simp [Uneventful, Call.lines, Call.FailsAtProxy, LogRecord.level]
          · simp [Uneventful, Call.lines, Call.FailsAtProxy]

/-- A walk that fails ends with the call that shows it and a warning; any other walk is
uneventful. -/
theorem Walked.closes {route : Route π} {target : Address} {n : Nat} {walk : List Call}
    {ending : Ending Failure Unit} (h : route.Walked target n walk ending) :
    (∃ front call written failure, Blames route call written failure ∧ Uneventful front ∧
        walk.flatMap (Call.lines route.addressAt) = front ++ [.call call, .record written] ∧
        ending = .failed failure) ∨
      (∀ failure, ending ≠ .failed failure) ∧
        Uneventful (walk.flatMap (Call.lines route.addressAt)) := by
  cases h with
  | unreached fault =>
      left
      exact ⟨[], _, _, _, .dial n fault, by simp [Uneventful], rfl, rfl⟩
  | abandoned =>
      right
      refine ⟨by simp, ?_⟩
      simp [Uneventful, Call.lines, Call.FailsAtProxy]
  | @asked k hop answer is_hop is_last =>
      have hdial : Uneventful ((Call.dial 0 n (.done ())).lines route.addressAt) := by
        simp [Uneventful, Call.lines, Call.FailsAtProxy]
      rw [List.flatMap_cons]
      by_cases hfailed : ∃ fault, answer = .failed fault
      · obtain ⟨fault, rfl⟩ := hfailed
        left
        have hstops : (route.stops target).take (k + 1) ≠ [] := by simp [stops]
        have hk : k < route.length := (List.getElem?_eq_some_iff.mp is_hop).1
        have hlength : ((route.stops target).take (k + 1)).length = k + 1 := by
          have hall : (route.stops target).length = route.length := by
            simp [stops, Route.length, hops]
          rw [List.length_take, hall]
          omega
        obtain ⟨front, asked, stop, hasked, hfront, hlines⟩ :=
          requests_failed route.addressAt n fault 0 hstops
        obtain rfl : asked = k := by omega
        rw [addressAt_of_getElem? is_hop] at hlines
        refine ⟨_, _, _, _, .request is_hop stop n fault, uneventful_append.mpr ⟨hdial, hfront⟩,
          ?_, rfl⟩
        rw [hlines, List.append_assoc]
      · right
        have hanswer : ∀ fault, answer ≠ .failed fault := by
          intro fault hfault
          exact hfailed ⟨fault, hfault⟩
        refine ⟨?_, uneventful_append.mpr ⟨hdial, uneventful_requests _ n hanswer 0 _⟩⟩
        intro failure hending
        cases answer with
        | failed fault => exact hanswer fault rfl
        | done _ => cases hending
        | abandoned => cases hending

end Route

/-! ## Attempts -/

namespace Tunnel

variable {ω τ π ρ ν : Type}

/-- The lines of an attempt: what is entered when the host is looked up, the length of the route,
the preparation of a transport, and the walk with its end. -/
inductive Accounted (route : Route π) (tunnel after : Tunnel (Numbered τ) (Numbered π) ρ)
    (goal : Goal) : List Line → Ending Failure Unit → Prop
  /-- What the attempt is told is no address. -/
  | refused {failure : Failure} (is_none : goal.address? = none) :
    Accounted route tunnel after goal [] (.failed failure)
  /-- The host has no record. -/
  | unresolved {told : Address} {text : String} {answer : Ending IoFault (List Ip)}
    (is_told : goal.address? = some told) (prefers : tunnel.prefersIpv4 = true)
    (is_none : answer = .done [] ∨ ∃ fault, answer = .failed fault) :
    Accounted route tunnel after goal ((Call.lookup text answer).lines route.addressAt)
      (.failed (.hostUnresolvable text))
  /-- Nobody waited for the records of the host. -/
  | unanswered {told : Address} {text : String} (is_told : goal.address? = some told)
    (prefers : tunnel.prefersIpv4 = true) :
    Accounted route tunnel after goal [.call (.lookup text .abandoned)] .abandoned
  /-- There is an address to go to. -/
  | aimed {told target : Address} {lookups made walk : List Call} {ending : Ending Failure Unit}
    (is_told : goal.address? = some told)
    (looked_up : lookups = [] ∧ tunnel.prefersIpv4 = false ∨ ∃ text first others,
      lookups = [.lookup text (.done (first :: others))] ∧ tunnel.prefersIpv4 = true)
    (prepares : ∀ call ∈ made, call.Prepares)
    (walks : walk = [] ∧ (∃ failure, ending = .failed failure) ∨
      ∃ n, route.Walked target n walk ending)
    (arrives : ending = .done () → after.destination = some target) :
    Accounted route tunnel after goal
      (lookups.map .call ++ .record (.routeLength route.length) ::
        (made.map .call ++
          (walk.flatMap (Call.lines route.addressAt) ++ route.arrival target ending)))
      ending

/-- How the lines of an attempt end: with the record of a connection, with a call that failed at a
proxy and a warning, or without either. -/
inductive Closes (route : Route π) (after : Tunnel (Numbered τ) (Numbered π) ρ) :
    List Line → Ending Failure Unit → Prop
  | connected {front : List Line} {target : Address} (stored : after.destination = some target)
    (uneventful : Uneventful front) :
    Closes route after (front ++ [.record (.connected target route.length)]) (.done ())
  | warned {front : List Line} {call : Call} {written : LogRecord} {failure : Failure}
    (blames : Blames route call written failure) (uneventful : Uneventful front) :
    Closes route after (front ++ [.call call, .record written]) (.failed failure)
  | quiet {lines : List Line} {ending : Ending Failure Unit} (not_done : ending ≠ .done ())
    (uneventful : Uneventful lines) : Closes route after lines ending

variable {route : Route π} {tunnel after : Tunnel (Numbered τ) (Numbered π) ρ} {goal : Goal}
  {lines : List Line} {ending : Ending Failure Unit}

/-- What comes before does not matter if it is uneventful: the lines end as they did without it. -/
theorem Closes.append {front : List Line} (h : Closes route after lines ending)
    (hfront : Uneventful front) : Closes route after (front ++ lines) ending := by
  cases h with
  | connected stored uneventful =>
      rw [← List.append_assoc]
      exact .connected stored (uneventful_append.mpr ⟨hfront, uneventful⟩)
  | warned blames uneventful =>
      rw [← List.append_assoc]
      exact .warned blames (uneventful_append.mpr ⟨hfront, uneventful⟩)
  | quiet not_done uneventful => exact .quiet not_done (uneventful_append.mpr ⟨hfront, uneventful⟩)

/-- The lines of an attempt end in one of the three ways.  All that decides is how the walk ends,
since what comes before it is uneventful. -/
theorem Accounted.closes (h : Accounted route tunnel after goal lines ending) :
    Closes route after lines ending := by
  have hlookup (text : String) (answer : Ending IoFault (List Ip)) :
      Uneventful ((Call.lookup text answer).lines route.addressAt) := by
    cases answer <;> simp [Uneventful, Call.lines, Call.FailsAtProxy, LogRecord.level]
  cases h with
  | refused is_none => exact .quiet (by simp) (by simp [Uneventful])
  | unresolved is_told prefers is_none => exact .quiet (by simp) (hlookup _ _)
  | unanswered is_told prefers => exact .quiet (by simp) (hlookup _ .abandoned)
  | @aimed told target lookups made walk _ is_told looked_up prepares walks arrives =>
      have hlookups : Uneventful (lookups.map .call) := by
        refine uneventful_map fun call hcall => ?_
        rcases looked_up with ⟨rfl, -⟩ | ⟨text, first, others, rfl, -⟩
        · cases hcall
        · obtain rfl := List.mem_singleton.mp hcall
          exact id
      have hmade : Uneventful (made.map .call) :=
        uneventful_map fun call hcall => (prepares call hcall).not_failsAtProxy
      have hfront : Uneventful (lookups.map .call ++ .record (.routeLength route.length) ::
          made.map .call) := by
        refine uneventful_append.mpr ⟨hlookups, List.forall_mem_cons.mpr ⟨?_, hmade⟩⟩
        simp [LogRecord.level]
      have hwalk : Closes route after
          (walk.flatMap (Call.lines route.addressAt) ++ route.arrival target ending) ending := by
        rcases walks with ⟨rfl, failure, rfl⟩ | ⟨n, hwalked⟩
        · rw [Route.arrival_of_ne_done (by simp)]
          exact .quiet (by simp) (by simp [Uneventful])
        · rcases hwalked.closes with
            ⟨front, call, written, failure, hblames, huneventful, hlines, rfl⟩ |
            ⟨hunfailed, huneventful⟩
          · rw [hlines, Route.arrival_of_ne_done (by simp), List.append_nil]
            exact .warned hblames huneventful
          · cases ending with
            | done _ => exact .connected (arrives rfl) huneventful
            | failed failure => exact absurd rfl (hunfailed failure)
            | abandoned =>
                rw [Route.arrival_of_ne_done (by simp), List.append_nil]
                exact .quiet (by simp) huneventful
      have hwhole := hwalk.append hfront
      rwa [List.append_assoc, List.cons_append] at hwhole

/-- Unless a connection is recorded or a warning given, nothing happened.  No warning is given if
whoever waited gave up, if the tunnel was in the way, or if no call failed at a proxy. -/
theorem Closes.uneventful (h : Closes route after lines ending) (not_done : ending ≠ .done ())
    (unfailed : (∀ call, .call call ∈ lines → ¬ call.FailsAtProxy) ∨ ending = .abandoned ∨
      ∃ cause, ending = .failed (.invalidState cause)) : Uneventful lines := by
  cases h with
  | connected stored uneventful => exact absurd rfl not_done
  | @warned front call written failure blames uneventful =>
      exfalso
      rcases unfailed with hunfailed | habandoned | ⟨cause, hrefused⟩
      · exact hunfailed call (by simp) blames.warns.1
      · cases habandoned
      · obtain rfl : failure = .invalidState cause := by simpa using hrefused
        cases blames
  | quiet not_done uneventful => exact uneventful

variable (env : Environment ω τ π ρ) (note : τ → ω → ν)

end Tunnel

/-! ## The log of the world -/

namespace Tunnel

variable {ω τ π ρ ν : Type} {tunnel : Tunnel (Numbered τ) (Numbered π) ρ} {route : Route π}

end Tunnel

end RelayRoute
