import RelayRoute.Proofs.Course

/-!
# What operations do with transports

Between its creation and the moment it is let go of, a transport is used by the tunnel that holds
it, and by nobody else.  `Handled` says what one operation can do: it uses the transport that is
held, lets go of it, or creates another one after that.  A tunnel lets go of a transport by closing
it, or because it finds it closed.

* `Call.Uses` — a call that goes to the transport that is held, if to any, and neither creates nor
  closes one;
* `Leaves` — the calls by which an operation lets go of a transport;
* `Course.handled` — an attempt handles transports as `Handled` says;
* `step_handled` — so does every operation.

What is said elsewhere about all transports of a run is kept by `Handled`, and so by every run: who
closes them, that they are set up before they are used, and what they were told.
-/

namespace RelayRoute

namespace Call

/-- A call neither creates nor closes a transport, and goes to none but the one that is held.  A
lookup is such a call, whatever is held. -/
structure Uses (held : Option Nat) (call : Call) : Prop where
  creates_none : call.created? = none
  closes_none : call.closed? = none
  goes_to {n : Nat} : call.transport? = some n → held = some n

/-- Looking a host up goes to no transport. -/
theorem IsLookup.uses {call : Call} (h : call.IsLookup) (held : Option Nat) : call.Uses held := by
  cases call with
  | lookup host ending => exact ⟨rfl, rfl, fun hn => by cases hn⟩
  | _ => cases h

/-- Doing something with the transport that is held. -/
theorem uses_perform (n : Nat) (action : Action) (reply : action.Reply) :
    (perform n action reply).Uses (some n) :=
  ⟨rfl, rfl, id⟩

/-- Limiting the dial of the transport that is held. -/
theorem uses_of_mem_limiting {n : Nat} {limit : Option (Option Duration)} {call : Call}
    (h : call ∈ limiting n limit) : call.Uses (some n) := by
  obtain ⟨limit, -, rfl⟩ := List.mem_map.mp h
  exact uses_perform n _ _

end Call

/-- A call by which a proxy is asked over a transport, or told that it is reached. -/
inductive Call.Relays (n : Nat) : Call → Prop
  | request (hop : Nat) (stop : Address) (ending : Ending RelayFault Unit) :
    Relays n (.request hop stop n ending)
  | mark (hop : Nat) : Relays n (.mark hop)

/-- Proxies are asked and told that they are reached, and nothing else. -/
theorem Route.relays_of_mem_requests {n : Nat} {last : Ending RelayFault Unit} {hop : Nat}
    {stops : List Address} {call : Call} (h : call ∈ requests n last hop stops) :
    call.Relays n := by
  induction stops generalizing hop with
  | nil => simp [requests] at h
  | cons stop stops ih =>
      cases stops with
      | nil =>
          obtain rfl := List.mem_singleton.mp h
          exact .request ..
      | cons next stops =>
          rcases List.mem_cons.mp h with rfl | h
          · exact .request ..
          · rcases List.mem_cons.mp h with rfl | h
            · exact .mark _
            · exact ih h

/-- A walk starts with its only dial, which is that of the head, and goes on by asking proxies over
the transport that was dialed. -/
theorem Route.Walked.dials_first {π : Type} {route : Route π} {target : Address} {n : Nat}
    {walk : List Call} {ending : Ending Failure Unit} (h : route.Walked target n walk ending) :
    ∃ dialed further, walk = .dial 0 n dialed :: further ∧ ∀ call ∈ further, call.Relays n := by
  cases h with
  | unreached fault => exact ⟨_, [], rfl, by simp⟩
  | abandoned => exact ⟨_, [], rfl, by simp⟩
  | asked answer is_hop is_last =>
      exact ⟨_, _, rfl, fun call hcall => Route.relays_of_mem_requests hcall⟩

/-- No other call comes before the dial of a walk. -/
theorem Route.Walked.eq_nil_of_dial {π : Type} {route : Route π} {target : Address} {n : Nat}
    {walk : List Call} {ending : Ending Failure Unit} (h : route.Walked target n walk ending)
    {before rest : List Call} {hop m : Nat} {dialed : Ending IoFault Unit}
    (hsplit : walk = before ++ .dial hop m dialed :: rest) : before = [] ∧ m = n := by
  obtain ⟨first, further, hwalk, hfurther⟩ := h.dials_first
  rw [hwalk] at hsplit
  cases before with
  | nil =>
      cases hsplit
      exact ⟨rfl, rfl⟩
  | cons call before =>
      obtain ⟨-, rfl⟩ := List.cons.inj hsplit
      cases hfurther (.dial hop m dialed) (by simp)

/-- Walking over the transport that is held. -/
theorem Route.Walked.uses {π : Type} {route : Route π} {target : Address} {n : Nat}
    {walk : List Call} {ending : Ending Failure Unit} (h : route.Walked target n walk ending)
    {call : Call} (hcall : call ∈ walk) : call.Uses (some n) := by
  obtain ⟨dialed, further, rfl, hfurther⟩ := h.dials_first
  rcases List.mem_cons.mp hcall with rfl | hcall
  · exact ⟨rfl, rfl, id⟩
  · cases hfurther call hcall with
    | request hop stop ending => exact ⟨rfl, rfl, id⟩
    | mark hop => exact ⟨rfl, rfl, fun hn => by cases hn⟩

namespace Tunnel

variable {ω τ π ρ ν : Type}

section

variable (env : Environment ω τ π ρ) (note : τ → ω → ν)
  (tunnel : Tunnel (Numbered τ) (Numbered π) ρ)

/-- The number of the transport that is held. -/
def number? : Option Nat :=
  tunnel.transport.map Numbered.number

/-- An attempt finds closed the transport with number `n` that the tunnel holds, and replaces it.
So far the given calls have been made, which are those that find the address of the attempt. -/
def FindsClosed (goal : Goal) (ledger : Ledger ω ν) (n : Nat) (calls : List Call) : Prop :=
  ∃ target sought held, aim (env.recorded note) tunnel goal ledger = (.done target, sought) ∧
    tunnel.phase ≠ .connected ∧ tunnel.transport = some held ∧ held.number = n ∧
    let started := ((env.recorded note).copyRoute tunnel.route sought).2
    env.observe .isConnected held.value started.world = false ∧
      env.observe .isClosed held.value started.world = true ∧ started.calls = calls

/-- The calls by which an operation makes a tunnel ready for another transport, and the number of
the transport that it keeps until there is another one: none, unless it was found closed, since that
one is held until it is replaced. -/
inductive Leaves (operation : Operation ω τ ρ) (ledger : Ledger ω ν) :
    List Call → Option Nat → Prop
  | nothing {lookups : List Call} (only_lookups : ∀ call ∈ lookups, call.IsLookup)
    (holds_none : tunnel.number? = none) : Leaves operation ledger lookups none
  | closed {lookups : List Call} {n : Nat} (reply : Except IoFault Unit)
    (only_lookups : ∀ call ∈ lookups, call.IsLookup) (holds : tunnel.number? = some n) :
    Leaves operation ledger (lookups ++ [.close n reply]) none
  | found_closed {lookups : List Call} {n : Nat} {goal : Goal}
    (only_lookups : ∀ call ∈ lookups, call.IsLookup) (is_pursuit : operation = .pursue goal)
    (found : FindsClosed env note tunnel goal ledger n (ledger.calls ++ lookups))
    (holds : tunnel.number? = some n) : Leaves operation ledger lookups (some n)

/-- The calls of an operation, and the number of the transport that is held after it.  A transport
is created only after the one before it was let go of, and is used only if it could be set up. -/
inductive Handled (operation : Operation ω τ ρ) (ledger : Ledger ω ν) :
    List Call → Option Nat → Prop
  /-- The transport that is held stays. -/
  | used {made : List Call} (uses : ∀ call ∈ made, call.Uses tunnel.number?) :
    Handled operation ledger made tunnel.number?
  /-- The transport that is held is let go of, and there is no other one. -/
  | left {before : List Call} {kept : Option Nat}
    (leaves : Leaves env note tunnel operation ledger before kept) :
    Handled operation ledger before kept
  /-- A new transport is set up, and then used. -/
  | renewed {before made used : List Call} {kept : Option Nat}
    (leaves : Leaves env note tunnel operation ledger before kept)
    (setUp : SetUp ledger.next tunnel.timeout tunnel.settings.toList made (.ok ()))
    (uses : ∀ call ∈ used, call.Uses (some ledger.next)) :
    Handled operation ledger (before ++ .create ledger.next :: (made ++ used)) (some ledger.next)
  /-- A new transport cannot be set up. -/
  | unset {before made : List Call} {kept : Option Nat} {fault : IoFault}
    (leaves : Leaves env note tunnel operation ledger before kept)
    (setUp : SetUp ledger.next tunnel.timeout tunnel.settings.toList made (.error fault)) :
    Handled operation ledger (before ++ .create ledger.next :: made) kept

end

variable {env : Environment ω τ π ρ} {note : τ → ω → ν}
  {tunnel : Tunnel (Numbered τ) (Numbered π) ρ} {ledger : Ledger ω ν}

/-- A tunnel that has come to need a new transport in an attempt has let go of the old one. -/
theorem Vacating.leaves {goal : Goal} {target : Address} {sought started : Ledger ω ν}
    {lookups before : List Call} {vacant : Tunnel (Numbered τ) (Numbered π) ρ}
    (h : Vacating env tunnel started before vacant)
    (only_lookups : ∀ call ∈ lookups, call.IsLookup)
    (is_aimed : aim (env.recorded note) tunnel goal ledger = (.done target, sought))
    (is_copied : ((env.recorded note).copyRoute tunnel.route sought).2 = started)
    (calls : started.calls = ledger.calls ++ lookups) :
    Leaves env note tunnel (.pursue goal) ledger (lookups ++ before) vacant.number? := by
  cases h with
  | empty idle holds_none =>
      have hnone : tunnel.number? = none := by simp [number?, holds_none]
      rw [List.append_nil, hnone]
      exact .nothing only_lookups hnone
  | lost connected holds_none =>
      rw [List.append_nil]
      exact .nothing only_lookups (by simp [number?, holds_none])
  | released connected holds => exact .closed _ only_lookups (by simp [number?, holds])
  | @stale held idle holds unconnected closed =>
      have hheld : tunnel.number? = some held.number := by simp [number?, holds]
      subst is_copied
      rw [List.append_nil, hheld]
      exact .found_closed only_lookups rfl
        ⟨target, sought, held, is_aimed, idle, holds, rfl, unconnected, closed, calls⟩ hheld

/-- An attempt handles transports as `Handled` says.  All its calls after the tunnel is ready go to
the transport that it was made ready with, so there are no more cases than ways to make it ready. -/
theorem Course.handled {route : Route π} {goal : Goal} {made : List Call}
    {ending : Ending Failure Unit} {after : Tunnel (Numbered τ) (Numbered π) ρ}
    (h : Course env note tunnel route goal ledger made ending after) :
    Handled env note tunnel (.pursue goal) ledger made after.number? := by
  cases h with
  | unaimed only_lookups _ => exact .used fun call hcall => (only_lookups call hcall).uses _
  | unready only_lookups is_aimed is_copied calls next readying =>
      cases readying with
      | refused failure =>
          rw [List.append_nil]
          exact .used fun call hcall => (only_lookups call hcall).uses _
      | unreleased fault connected holds =>
          exact .left (.closed _ only_lookups (by simp [number?, holds]))
      | unset vacating setUp =>
          rw [next] at setUp ⊢
          rw [← List.append_assoc]
          exact .unset (vacating.leaves only_lookups is_aimed is_copied calls) setUp
  | @walked lookups made walk _ _ _ _ _ _ transport carried only_lookups is_aimed is_copied calls
      next readying walks holds number =>
      have hafter : after.number? = some transport.number := by simp [number?, holds, number]
      have hwalking : ∀ call ∈ Call.limiting transport.number goal.limit? ++ walk,
          call.Uses (some transport.number) := by
        intro call hcall
        rcases List.mem_append.mp hcall with hcall | hcall
        · exact Call.uses_of_mem_limiting hcall
        · rcases walks with rfl | hwalked
          · cases hcall
          · exact hwalked.uses hcall
      rw [hafter]
      cases readying with
      | kept holds =>
          have hheld : tunnel.number? = some transport.number := by simp [number?, holds]
          rw [List.nil_append, ← hheld]
          refine .used fun call hcall => ?_
          rcases List.mem_append.mp hcall with hcall | hcall
          · exact (only_lookups call hcall).uses _
          · rw [hheld]
            exact hwalking call hcall
      | renewed vacating setUp fresh =>
          rw [fresh, next] at hwalking setUp ⊢
          rw [List.append_assoc, ← List.append_assoc]
          exact .renewed (vacating.leaves only_lookups is_aimed is_copied calls) setUp hwalking

variable (env note) in
/-- **Every operation handles transports as `Handled` says**, whatever the tunnel has been through:
this is the step on which everything that is said about all transports of a run is built. -/
theorem step_handled {route : Route π} (hroute : tunnel.route = route.numbered)
    (operation : Operation ω τ ρ) (ledger : Ledger ω ν) :
    ∃ made,
      (step (env.recorded note) tunnel operation.recorded ledger).2.calls = ledger.calls ++ made ∧
        Handled env note tunnel operation ledger made
          (step (env.recorded note) tunnel operation.recorded ledger).1.number? := by
  cases operation with
  | pursue goal =>
      obtain ⟨made, hmade, hcourse⟩ := pursue_course hroute
        (rfl : pursue (env.recorded note) tunnel goal ledger = (_, _, _))
      exact ⟨made, hmade, hcourse.handled⟩
  | close =>
      simp only [step, Operation.recorded, Tunnel.close]
      cases htransport : tunnel.transport with
      | none =>
          refine ⟨[], by simp, .left (.nothing (by simp) ?_)⟩
          simp [number?, htransport]
      | some held =>
          have hheld : tunnel.number? = some held.number := by simp [number?, htransport]
          refine ⟨_, Ledger.calls_enter _ _ _ _ _, ?_⟩
          rw [← List.nil_append [_]]
          exact .left (.closed _ (by simp) hheld)
  | perform action =>
      simp only [step, Operation.recorded, Tunnel.perform]
      cases htransport : tunnel.transport with
      | none => exact ⟨[], by simp, .used (by simp)⟩
      | some held =>
          have hheld : tunnel.number? = some held.number := by simp [number?, htransport]
          refine ⟨_, Ledger.calls_enter _ _ _ _ _, ?_⟩
          show Handled env note tunnel _ ledger _ (some held.number)
          rw [← hheld]
          refine .used fun call hcall => ?_
          obtain rfl := List.mem_singleton.mp hcall
          rw [hheld]
          exact Call.uses_perform held.number _ _
  | locate =>
      obtain ⟨lookups, hcalls, honly⟩ :=
        respects_destinationIp (env.recorded_respects_onlyLookups note) tunnel ledger
      exact ⟨lookups, hcalls, .used fun call hcall => (honly call hcall).uses _⟩
  | lend use =>
      simp only [step, Operation.recorded, Tunnel.lend]
      cases htransport : tunnel.transport with
      | none => exact ⟨[], by simp, .used (by simp)⟩
      | some held =>
          have hheld : tunnel.number? = some held.number := by simp [number?, htransport]
          refine ⟨[], (List.append_nil _).symm, ?_⟩
          show Handled env note tunnel _ ledger _ (some held.number)
          rw [← hheld]
          exact .used (by simp)
  | setResolver resolver => exact ⟨[], (List.append_nil _).symm, .used (by simp)⟩

end Tunnel

end RelayRoute
