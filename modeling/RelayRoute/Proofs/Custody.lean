import RelayRoute.Proofs.Established
import RelayRoute.Proofs.Handling

/-!
# Who closes a transport

A tunnel that lets go of a transport has closed it or found it closed, and it closes none twice.
Two things are shown, each by what one operation does and then for all of a run:

* `Custody` is what every run keeps: the transports that were closed are different, and the one that
  is held is not among them.  `Custody.handle` is the step, `Reachable.custody` the run;
* `Discharged` says of one transport that it may be replaced: it has been closed, or found closed by
  an attempt that was about to replace it.  `Handled.discharged` is the step, and by
  `run_discharges` nothing that is done with a tunnel makes it hold another transport, or create
  one, before that.

`discharged_once` puts them together, and adds that a tunnel that was closed holds nothing and does
nothing when it is closed again.
-/

namespace RelayRoute

/-- The numbers of the transports that some calls close. -/
def Call.closings (calls : List Call) : List Nat :=
  calls.filterMap closed?

theorem Call.closings_eq_nil {calls : List Call} (h : ∀ call ∈ calls, call.closed? = none) :
    closings calls = [] :=
  List.filterMap_eq_nil_iff.mpr h

/-- The numbers of the transports that were closed. -/
def Ledger.closed {ω ν : Type} (ledger : Ledger ω ν) : List Nat :=
  Call.closings ledger.calls

/-- The transports created between two states of a ledger have new numbers. -/
theorem Ledger.Numbers.lt {ω ν : Type} {ledger later : Ledger ω ν} (h : ledger.Numbers later)
    {made : List Call} (hmade : later.calls = ledger.calls ++ made) {n : Nat}
    (hn : Call.create n ∈ made) : ledger.next ≤ n ∧ n < later.next := by
  obtain ⟨count, hcreated, hnext⟩ := h
  rw [created, created, hmade, List.filterMap_append] at hcreated
  have hrange := List.append_cancel_left hcreated
  have hmem : n ∈ made.filterMap Call.created? := List.mem_filterMap.mpr ⟨_, hn, rfl⟩
  rw [hrange, List.mem_range'_1] at hmem
  omega

/-- A transport that is created gets a number that is given away then: it is not below the next one
of the earlier state, and below that of the later one. -/
theorem Ledger.Numbers.lt_of_split {ω ν : Type} {ledger later : Ledger ω ν}
    (h : ledger.Numbers later) {made before rest : List Call} {n : Nat}
    (hmade : later.calls = ledger.calls ++ made) (hsplit : made = before ++ .create n :: rest) :
    ledger.next ≤ n ∧ n < later.next := by
  refine h.lt hmade ?_
  rw [hsplit]
  exact List.mem_append_right _ List.mem_cons_self

/-- Numbers are only ever given away. -/
theorem Ledger.Numbers.le {ω ν : Type} {ledger later : Ledger ω ν} (h : ledger.Numbers later) :
    ledger.next ≤ later.next := by
  obtain ⟨count, -, hnext⟩ := h
  omega

/-- Setting a transport up closes nothing. -/
theorem SetUp.closings_eq_nil {n : Nat} {timeout : Option Duration} {settings : List Setting}
    {made : List Call} {reply : Except IoFault Unit}
    (h : SetUp n timeout settings made reply) : Call.closings made = [] := by
  refine Call.closings_eq_nil fun call hcall => ?_
  obtain ⟨action, reply, rfl⟩ := h.plain call hcall
  rfl

namespace Tunnel

variable {ω τ π ρ ν : Type} {env : Environment ω τ π ρ} {note : τ → ω → ν}
  {tunnel : Tunnel (Numbered τ) (Numbered π) ρ} {ledger later : Ledger ω ν}

/-! ## Nothing is closed twice -/

/-- The transports that were closed are different, all numbers are given away, and the transport
that is held is not closed.  Closing is counted whether it succeeds or not. -/
structure Custody (held : Option Nat) (closed : List Nat) (next : Nat) : Prop where
  nodup : closed.Nodup
  closed_lt {n : Nat} : n ∈ closed → n < next
  held_lt {n : Nat} : held = some n → n < next
  held_open {n : Nat} : held = some n → n ∉ closed

namespace Custody

variable {held : Option Nat} {closed : List Nat} {next next' : Nat}

theorem grow (h : Custody held closed next) (hle : next ≤ next') : Custody held closed next' where
  nodup := h.nodup
  closed_lt hn := Nat.lt_of_lt_of_le (h.closed_lt hn) hle
  held_lt hn := Nat.lt_of_lt_of_le (h.held_lt hn) hle
  held_open := h.held_open

/-- The transport that is held is closed, and held no longer. -/
theorem close {n : Nat} (h : Custody (some n) closed next) :
    Custody none (closed ++ [n]) next where
  nodup := List.nodup_append.mpr ⟨h.nodup, by simp, fun m hm k hk => by
    rintro rfl
    obtain rfl := List.mem_singleton.mp hk
    exact h.held_open rfl hm⟩
  closed_lt hm := by
    rcases List.mem_append.mp hm with hm | hm
    · exact h.closed_lt hm
    · obtain rfl := List.mem_singleton.mp hm
      exact h.held_lt rfl
  held_lt hn := by cases hn
  held_open hn := by cases hn

/-- A new transport takes the place of the one that is held. -/
theorem renew (h : Custody held closed next) (hlt : next < next') :
    Custody (some next) closed next' where
  nodup := h.nodup
  closed_lt hn := Nat.lt_trans (h.closed_lt hn) hlt
  held_lt hn := by
    obtain rfl := Option.some.inj hn
    exact hlt
  held_open hn hclosed := by
    obtain rfl := Option.some.inj hn
    exact absurd (h.closed_lt hclosed) (Nat.lt_irrefl _)

theorem leave {operation : Operation ω τ ρ} {before : List Call} {kept : Option Nat}
    (h : Custody tunnel.number? closed next)
    (leaves : Leaves env note tunnel operation ledger before kept) :
    Custody kept (closed ++ Call.closings before) next := by
  have hlookups {lookups : List Call} (only_lookups : ∀ call ∈ lookups, call.IsLookup) :
      Call.closings lookups = [] :=
    Call.closings_eq_nil fun call hcall => ((only_lookups call hcall).uses none).closes_none
  cases leaves with
  | nothing only_lookups holds_none =>
      rw [hlookups only_lookups, List.append_nil]
      rwa [holds_none] at h
  | @closed lookups n reply only_lookups holds =>
      have hclosings : Call.closings (lookups ++ [.close n reply]) = [n] := by
        rw [Call.closings, List.filterMap_append, ← Call.closings, hlookups only_lookups]
        rfl
      rw [hclosings]
      rw [holds] at h
      exact h.close
  | found_closed only_lookups is_pursuit found holds =>
      rw [hlookups only_lookups, List.append_nil]
      rwa [holds] at h

/-- Whatever an operation does with transports, custody is kept.  What an operation closes is closed
before it creates anything, so the new transport is not among those that were closed. -/
theorem handle {operation : Operation ω τ ρ} {made : List Call} {after : Option Nat}
    (h : Custody tunnel.number? ledger.closed ledger.next)
    (handled : Handled env note tunnel operation ledger made after)
    (hmade : later.calls = ledger.calls ++ made) (hnumbers : ledger.Numbers later) :
    Custody after later.closed later.next := by
  have hclosed : later.closed = ledger.closed ++ Call.closings made := by
    rw [Ledger.closed, hmade, Call.closings, List.filterMap_append]
    rfl
  have hclosings (before made : List Call) (n : Nat) :
      Call.closings (before ++ .create n :: made) =
        Call.closings before ++ Call.closings made := by
    rw [Call.closings, List.filterMap_append]
    rfl
  rw [hclosed]
  cases handled with
  | used uses =>
      rw [Call.closings_eq_nil fun call hcall => (uses call hcall).closes_none, List.append_nil]
      exact h.grow hnumbers.le
  | left leaves => exact (h.leave leaves).grow hnumbers.le
  | @renewed before made used kept leaves setUp uses =>
      have hused : Call.closings (made ++ used) = [] := by
        rw [Call.closings, List.filterMap_append, ← Call.closings, ← Call.closings,
          setUp.closings_eq_nil,
          Call.closings_eq_nil fun call hcall => (uses call hcall).closes_none]
        rfl
      rw [hclosings, hused, List.append_nil]
      exact (h.leave leaves).renew (hnumbers.lt_of_split hmade rfl).2
  | unset leaves setUp =>
      rw [hclosings, setUp.closings_eq_nil, List.append_nil]
      exact (h.leave leaves).grow hnumbers.le

end Custody

/-- An attempt of a tunnel over a route. -/
theorem Custody.pursue {route : Route π} (hroute : tunnel.route = route.numbered)
    (h : Custody tunnel.number? ledger.closed ledger.next) {goal : Goal}
    {ending : Ending Failure Unit} {after : Tunnel (Numbered τ) (Numbered π) ρ}
    (hpursue : Tunnel.pursue (env.recorded note) tunnel goal ledger = (ending, after, later)) :
    Custody after.number? later.closed later.next := by
  obtain ⟨made, hmade, hcourse⟩ := pursue_course hroute hpursue
  have hnumbers := respects_pursue (env.recorded_respects_numbers note) tunnel goal ledger
  rw [hpursue] at hnumbers
  exact h.handle hcourse.handled hmade hnumbers

/-- A new tunnel holds a transport that nobody has closed. -/
theorem Custody.start {start : Ledger ω ν} {n : Nat} (hclosed : start.closed = [])
    (hlt : n < start.next) : Custody (some n) start.closed start.next where
  nodup := hclosed ▸ .nil
  closed_lt hm := by simp [hclosed] at hm
  held_lt hm := Option.some.inj hm ▸ hlt
  held_open _ := by simp [hclosed]

/-- A new tunnel that is connected at once. -/
theorem Custody.made {route : Route π} (goal : Goal) {prefersIpv4 : Bool} {world : ω}
    {new : Tunnel (Numbered τ) (Numbered π) ρ} {start : Ledger ω ν}
    (hcreate : create (env.recorded note) route.numbered prefersIpv4 (.start world) = (new, start))
    (hpursue : Tunnel.pursue (env.recorded note) new goal start = (.done (), tunnel, ledger)) :
    Custody tunnel.number? ledger.closed ledger.next := by
  have hnew : new.route = route.numbered ∧ Custody new.number? start.closed start.next := by
    obtain ⟨rfl, rfl⟩ := by simpa [create] using hcreate
    exact ⟨rfl, .start rfl Nat.zero_lt_one⟩
  exact hnew.2.pursue hnew.1 hpursue

theorem Custody.ofConfig {route : Route π} {config : Config} {world : ω}
    (h : Tunnel.ofConfig (env.recorded note) route.numbered config (.start world) =
      (.ok tunnel, ledger)) :
    Custody tunnel.number? ledger.closed ledger.next := by
  have hnumbers := respects_ofConfig (env.recorded_respects_numbers note).toRespectsPreparing
    route.numbered config (.start world)
  rw [h] at hnumbers
  obtain ⟨made, hcalls, hmade⟩ := ofConfig_calls h
  rcases hmade with ⟨new, transport, hnew, -, holds, hnumber, hsetUp⟩ | ⟨fault, hnew, -⟩
  · obtain rfl := Except.ok.inj hnew
    have hclosed : ledger.closed = [] := by
      rw [Ledger.closed, hcalls]
      exact hsetUp.closings_eq_nil
    have hheld : tunnel.number? = some 0 := by
      rw [number?, holds]
      exact congrArg some hnumber
    rw [hheld]
    exact .start hclosed (hnumbers.lt hcalls List.mem_cons_self).2
  · cases hnew

/-- **Every run keeps custody.**  The induction is on the run: the ways to make a tunnel start with
nothing closed, and an operation handles transports as `Handled` says. -/
theorem Reachable.custody {route : Route π} {targets : List Address}
    (h : Reachable env note route targets tunnel ledger) :
    Custody tunnel.number? ledger.closed ledger.next := by
  induction h with
  | create prefersIpv4 world made =>
      obtain ⟨rfl, rfl⟩ := by simpa [create] using made
      exact .start rfl Nat.zero_lt_one
  | ofTransport transport prefersIpv4 world receive made =>
      obtain ⟨rfl, rfl⟩ := by simpa [Ledger.receive] using receive
      unfold Tunnel.ofTransport at made
      split at made
      · cases made
      · obtain rfl := Except.ok.inj made
        exact .start rfl Nat.zero_lt_one
  | ofConfig config world made =>
      exact .ofConfig made
  | toHost host port prefersIpv4 world create made =>
      unfold Tunnel.toHost at made
      rw [create] at made
      exact .made (.host host port) create (pursue_of_made made)
  | toEndpoint endpoint prefersIpv4 world create made =>
      unfold Tunnel.toEndpoint at made
      rw [create] at made
      exact .made (.endpoint endpoint none) create (pursue_of_made made)
  | step reached operation ih =>
      obtain ⟨made, hmade, handled⟩ :=
        step_handled env note reached.established.route_eq operation _
      exact ih.handle handled hmade
        (respects_step (env.recorded_respects_numbers note) numbers_unseen _ operation _)

/-! ## Nothing is replaced before it is let go of -/

section

variable (env : Environment ω τ π ρ) (note : τ → ω → ν)
  (tunnel : Tunnel (Numbered τ) (Numbered π) ρ)

/-- In the course of operations, when the given calls have been made in all, the transport with
number `n` has been closed, or an attempt that was about to replace it has found it closed. -/
inductive Discharged (operations : List (Operation ω τ ρ)) (ledger : Ledger ω ν) (n : Nat)
    (calls : List Call) : Prop
  | closed (reply : Except IoFault Unit) (is_closed : .close n reply ∈ calls)
  | found_closed {earlier others : List (Operation ω τ ρ)} {goal : Goal} {before : List Call}
    (split : operations = earlier ++ .pursue goal :: others)
    (found : FindsClosed env note
      (tunnel.run (env.recorded note) (earlier.map .recorded) ledger).1 goal
      (tunnel.run (env.recorded note) (earlier.map .recorded) ledger).2 n before)
    (is_earlier : before <+: calls)

end

namespace Discharged

variable {n : Nat} {operation : Operation ω τ ρ} {operations : List (Operation ω τ ρ)}
  {calls calls' : List Call}

/-- What has become of a transport stays so when more calls are made. -/
theorem mono (h : Discharged env note tunnel operations ledger n calls)
    (hcalls : calls <+: calls') : Discharged env note tunnel operations ledger n calls' := by
  cases h with
  | closed reply is_closed => exact .closed reply (hcalls.subset is_closed)
  | found_closed split found is_earlier =>
      exact .found_closed split found (is_earlier.trans hcalls)

/-- What becomes of a transport after an operation. -/
theorem cons
    (h : Discharged env note (step (env.recorded note) tunnel operation.recorded ledger).1
      operations (step (env.recorded note) tunnel operation.recorded ledger).2 n calls) :
    Discharged env note tunnel (operation :: operations) ledger n calls := by
  cases h with
  | closed reply is_closed => exact .closed reply is_closed
  | @found_closed earlier others goal before split found is_earlier =>
      have hsplit : operation :: operations = (operation :: earlier) ++ .pursue goal :: others := by
        rw [split, List.cons_append]
      exact .found_closed hsplit found is_earlier

end Discharged

/-- A transport that is let go of is discharged. -/
theorem Leaves.discharged {n : Nat} {operation : Operation ω τ ρ} {before : List Call}
    {kept : Option Nat} (h : Leaves env note tunnel operation ledger before kept)
    (holds : tunnel.number? = some n) (operations : List (Operation ω τ ρ)) :
    Discharged env note tunnel (operation :: operations) ledger n (ledger.calls ++ before) := by
  cases h with
  | nothing only_lookups holds_none => simp [holds] at holds_none
  | closed reply only_lookups holds' =>
      obtain rfl : n = _ := Option.some.inj (holds.symm.trans holds')
      exact .closed reply (by simp)
  | @found_closed _ _ goal only_lookups is_pursuit found holds' =>
      obtain rfl : n = _ := Option.some.inj (holds.symm.trans holds')
      have hsplit : operation :: operations = [] ++ .pursue goal :: operations := by
        rw [is_pursuit, List.nil_append]
      exact .found_closed hsplit found List.prefix_rfl

/-- Letting go of a transport creates none. -/
theorem Leaves.creates_none {operation : Operation ω τ ρ} {before : List Call} {kept : Option Nat}
    (h : Leaves env note tunnel operation ledger before kept) (n : Nat) : .create n ∉ before := by
  have hlookups {lookups : List Call} (only_lookups : ∀ call ∈ lookups, call.IsLookup) :
      .create n ∉ lookups := fun hn => only_lookups _ hn
  cases h with
  | nothing only_lookups holds_none => exact hlookups only_lookups
  | closed reply only_lookups holds =>
      intro hn
      rcases List.mem_append.mp hn with hn | hn
      · exact hlookups only_lookups hn
      · cases List.mem_singleton.mp hn
  | found_closed only_lookups is_pursuit found holds => exact hlookups only_lookups

/-- A call that is made in the course of others is one of the first or one of the rest. -/
theorem split_at {first second before rest : List Call} {call : Call}
    (h : first ++ second = before ++ call :: rest) :
    (∃ between, before = first ++ between ∧ second = between ++ call :: rest) ∨
      ∃ others, first = before ++ call :: others := by
  rcases List.append_eq_append_iff.mp h with ⟨between, hbefore, hsecond⟩ | ⟨others, hfirst, hrest⟩
  · exact .inl ⟨between, hbefore, hsecond⟩
  · cases others with
    | nil => exact .inl ⟨[], by simpa using hfirst.symm, by simpa using hrest.symm⟩
    | cons other others =>
        obtain ⟨rfl, -⟩ := List.cons.inj hrest
        exact .inr ⟨others, hfirst⟩

/-- In the course of one operation a tunnel holds another transport, or creates one, only when the
one that it held is discharged.  It makes no difference whether the new transport can be set up
after it is created. -/
theorem Handled.discharged {n : Nat} {operation : Operation ω τ ρ} {made : List Call}
    {after : Option Nat} (h : Handled env note tunnel operation ledger made after)
    (holds : tunnel.number? = some n) (operations : List (Operation ω τ ρ)) :
    (after ≠ some n →
      Discharged env note tunnel (operation :: operations) ledger n (ledger.calls ++ made)) ∧
    ∀ before m rest, made = before ++ .create m :: rest →
      Discharged env note tunnel (operation :: operations) ledger n (ledger.calls ++ before) := by
  have hcreating {before rest : List Call} {kept : Option Nat}
      (leaves : Leaves env note tunnel operation ledger before kept)
      (hmade : made = before ++ .create ledger.next :: rest) :
      Discharged env note tunnel (operation :: operations) ledger n (ledger.calls ++ made) ∧
      ∀ before m rest, made = before ++ .create m :: rest →
        Discharged env note tunnel (operation :: operations) ledger n
          (ledger.calls ++ before) := by
    have hleft := leaves.discharged holds operations
    refine ⟨hleft.mono ?_, ?_⟩
    · rw [hmade]
      exact List.prefix_append_right_inj _ |>.mpr (List.prefix_append _ _)
    · intro before' m rest' hsplit
      rcases split_at (hmade.symm.trans hsplit) with ⟨between, rfl, -⟩ | ⟨others, rfl⟩
      · exact hleft.mono ((List.prefix_append_right_inj _).mpr (List.prefix_append _ _))
      · exact absurd (by simp) (leaves.creates_none m)
  cases h with
  | used uses =>
      refine ⟨fun hother => absurd holds hother, ?_⟩
      rintro before m rest rfl
      have hcreates := (uses (.create m) (by simp)).creates_none
      cases hcreates
  | left leaves =>
      refine ⟨fun _ => leaves.discharged holds operations, ?_⟩
      rintro before m rest rfl
      exact absurd (by simp) (leaves.creates_none m)
  | renewed leaves setUp uses => exact (hcreating leaves rfl).imp_left fun h _ => h
  | unset leaves setUp => exact (hcreating leaves rfl).imp_left fun h _ => h

variable (env note) in
/-- **In the course of any operations** a tunnel holds another transport, or creates one, only when
the one that it held is discharged.  The induction is on the operations: a transport that was
discharged in one of them stays so, and one that is still held is followed on. -/
theorem run_discharges {route : Route π} {n : Nat} (hroute : tunnel.route = route.numbered)
    (holds : tunnel.number? = some n) (operations : List (Operation ω τ ρ)) :
    ∃ made,
      (tunnel.run (env.recorded note) (operations.map .recorded) ledger).2.calls =
        ledger.calls ++ made ∧
      ((tunnel.run (env.recorded note) (operations.map .recorded) ledger).1.number? ≠ some n →
        Discharged env note tunnel operations ledger n (ledger.calls ++ made)) ∧
      ∀ before m rest, made = before ++ .create m :: rest →
        Discharged env note tunnel operations ledger n (ledger.calls ++ before) := by
  induction operations generalizing tunnel ledger with
  | nil =>
      refine ⟨[], (List.append_nil _).symm, fun hother => absurd holds hother, ?_⟩
      intro before m rest hsplit
      simp at hsplit
  | cons operation operations ih =>
      obtain ⟨made, hmade, handled⟩ := step_handled env note hroute operation ledger
      obtain ⟨hother, hcreated⟩ := handled.discharged holds operations
      have hkept : (step (env.recorded note) tunnel operation.recorded ledger).1.route =
          route.numbered :=
        (congrArg Plan.route (step_plan _ tunnel operation.recorded ledger)).trans hroute
      by_cases hheld :
          (step (env.recorded note) tunnel operation.recorded ledger).1.number? = some n
      · obtain ⟨made', hmade', hother', hcreated'⟩ := ih hkept hheld
        rw [hmade] at hmade' hother' hcreated'
        refine ⟨made ++ made', by rw [← List.append_assoc]; exact hmade', ?_, ?_⟩
        · intro hafter
          rw [← List.append_assoc]
          exact (hother' hafter).cons
        · intro before m rest hsplit
          rcases split_at hsplit with ⟨between, rfl, hbetween⟩ | ⟨others, hothers⟩
          · rw [← List.append_assoc]
            exact (hcreated' between m rest hbetween).cons
          · exact hcreated before m others hothers
      · have hdischarged := hother hheld
        have hgrowth := respects_run (env.recorded_respects_growth note)
          (fun _ _ => List.prefix_rfl)
          (step (env.recorded note) tunnel operation.recorded ledger).1 operations
          (step (env.recorded note) tunnel operation.recorded ledger).2
        obtain ⟨made', hmade'⟩ := Ledger.calls_of_growth hgrowth
        rw [hmade, List.append_assoc] at hmade'
        refine ⟨made ++ made', hmade', fun _ => hdischarged.mono ?_, ?_⟩
        · rw [← List.append_assoc]
          exact List.prefix_append _ _
        · intro before m rest hsplit
          rcases split_at hsplit with ⟨between, rfl, -⟩ | ⟨others, hothers⟩
          · rw [← List.append_assoc]
            exact hdischarged.mono (List.prefix_append _ _)
          · exact hcreated before m others hothers

/-- Closing a tunnel that holds nothing does nothing. -/
theorem close_of_empty {env : Environment ω τ π ρ} {tunnel : Tunnel τ π ρ} (world : ω)
    (is_closed : tunnel.phase = .closed) (holds_none : tunnel.transport = none) :
    close env tunnel world = (.ok (), tunnel, world) := by
  obtain ⟨route, transport, destination, phase, prefersIpv4, resolver, timeout, settings⟩ := tunnel
  obtain rfl : phase = .closed := is_closed
  obtain rfl : transport = none := holds_none
  rfl

/-- Closing a tunnel that holds nothing does nothing, however often it is done. -/
theorem run_close_of_empty {env : Environment ω τ π ρ} {tunnel : Tunnel τ π ρ} (world : ω)
    (is_closed : tunnel.phase = .closed) (holds_none : tunnel.transport = none) (k : Nat) :
    run env tunnel (List.replicate k .close) world = (tunnel, world) := by
  induction k with
  | zero => rfl
  | succ k ih =>
      rw [List.replicate_succ, run, step, close_of_empty world is_closed holds_none]
      exact ih

/-- **No transport is leaked, and none is closed twice.**  In every run all transports that were
closed are different, and so are all that were created.  Whatever is done with a tunnel that holds a
transport, that one is discharged before the tunnel lets go of it, and before another one is
created; the other one has a later number.  A tunnel that was closed holds nothing, and closing it
again does nothing. -/
theorem discharged_once {route : Route π} {targets : List Address}
    (h : Reachable env note route targets tunnel ledger) :
    ledger.closed.Nodup ∧ ledger.created.Nodup ∧
    (∀ held, tunnel.transport = some held → held.number ∉ ledger.closed ∧
      ∀ operations : List (Operation ω τ ρ),
        let (after, later) := tunnel.run (env.recorded note) (operations.map .recorded) ledger
        later.closed.Nodup ∧
        ∃ made, later.calls = ledger.calls ++ made ∧
          (after.number? ≠ some held.number →
            Discharged env note tunnel operations ledger held.number later.calls) ∧
          ∀ before m rest, made = before ++ .create m :: rest → held.number < m ∧
            Discharged env note tunnel operations ledger held.number (ledger.calls ++ before)) ∧
    let (_, after, later) := close (env.recorded note) tunnel ledger
    after.phase = .closed ∧ after.transport = none ∧
      close (env.recorded note) after later = (.ok (), after, later) ∧
      ∀ k, after.run (env.recorded note) (List.replicate k .close) later = (after, later) := by
  have hcustody := h.custody
  refine ⟨hcustody.nodup, h.created_nodup, ?_, ?_⟩
  · intro held holds
    have hheld : tunnel.number? = some held.number := by rw [number?, holds]; rfl
    refine ⟨hcustody.held_open hheld, fun operations => ?_⟩
    obtain ⟨targets', hafter⟩ := h.run operations
    obtain ⟨made, hmade, hother, hcreated⟩ :=
      run_discharges env note h.established.route_eq hheld operations
    refine ⟨hafter.custody.nodup, made, hmade, hmade ▸ hother, ?_⟩
    intro before m rest hsplit
    have hnumbers := respects_run (env.recorded_respects_numbers note) numbers_unseen tunnel
      operations ledger
    have hle := (hnumbers.lt_of_split hmade hsplit).1
    exact ⟨Nat.lt_of_lt_of_le (hcustody.held_lt hheld) hle, hcreated before m rest hsplit⟩
  · have hclosed := close_tunnel (env.recorded note) tunnel ledger
    generalize close (env.recorded note) tunnel ledger = result at hclosed
    obtain ⟨reply, after, later⟩ := result
    obtain rfl : after = { tunnel with phase := .closed, transport := none } := hclosed
    exact ⟨rfl, rfl, close_of_empty later rfl rfl, run_close_of_empty later rfl rfl⟩

/-- Connecting a connected tunnel again discharges the transport it held. -/
theorem discharged_by_reconnecting :
    let route := Scripted.throughTwo {}
    let goal : Goal := .endpoint (.inet (.v4 ⟨198, 51, 100, 7⟩ 43)) none
    let env := Scripted.environment
    let note : Scripted.Carrier → Scripted.Stage → Unit := fun _ _ => ()
    ∃ targets tunnel ledger, Reachable env note route targets tunnel ledger ∧
      tunnel.number? = some 0 ∧
      let (after, later) := tunnel.run (env.recorded note) [.pursue goal] ledger
      after.number? = some 1 ∧
        Discharged env note tunnel [.pursue goal] ledger 0 later.calls := by
  intro route goal env note
  have hcreate : Reachable env note route [] _ _ := .create false ({} : Scripted.Stage) rfl
  have hconnected := hcreate.step (.pursue goal)
  obtain ⟨-, -, hheld, -⟩ := discharged_once hconnected
  obtain ⟨-, made, -, hother, -⟩ := (hheld _ rfl).2 [.pursue goal]
  exact ⟨_, _, _, hconnected, rfl, rfl, hother (by decide)⟩

end Tunnel

end RelayRoute
