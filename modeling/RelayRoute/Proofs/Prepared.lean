import RelayRoute.Proofs.Custody

/-!
# Transports are set up before they are used

A tunnel that was made with settings sets every transport up that it creates: the first one, and
those that come after a reconnection, after it was closed, or in place of one that was found closed.
`Prepared` says of one transport that its calls begin that way, or end with the setting that failed;
`Furnished` says it of all transports of a run, and every operation keeps it.

* `Furnished.use`, `create`, `leave` — what calls do to it: those that go to the transport that is
  held, those that go to a new one, and those that let go of one;
* `Furnished.handle`, `Furnished.run` — so an operation keeps it, and so does a run;
* `Readying.of_fails`, `Course.of_fails` — a setting that fails ends the attempt it belongs to;
* `Course.performs`, `Course.dials` — all that an attempt does with a transport that was held before
  is to limit its dial, and that comes right before the dial;
* `prepared_of_config` — the main result.

The settings are `Settings.toList`, which are the fields that are set, in the order in which they
are declared (`Settings.toList_eq_fields`).
-/

namespace RelayRoute

/-- Setting a transport up goes to that transport. -/
theorem SetUp.goes_to {n : Nat} {timeout : Option Duration} {settings : List Setting}
    {made : List Call} {reply : Except IoFault Unit} (h : SetUp n timeout settings made reply) :
    ∀ call ∈ Call.create n :: made, call.transport? = some n := by
  intro call hcall
  rcases List.mem_cons.mp hcall with rfl | hcall
  · rfl
  · obtain ⟨action, reply, rfl⟩ := h.plain call hcall
    rfl

namespace Call

/-- What a call does with which transport, if it is no other call. -/
def performed? : Call → Option (Nat × Action)
  | .perform transport action _ => some (transport, action)
  | _ => none

/-- Whether a call is a setting that fails with a fault.  Limiting the dials of a transport is no
setting, and does not fail. -/
def Fails (fault : IoFault) (call : Call) : Prop :=
  ∃ n setting, call = .perform n (.set setting) (.error fault)

/-- Only something that is done with a transport is a setting. -/
theorem Fails.performed {fault : IoFault} {call : Call} (h : call.Fails fault) :
    call.performed? ≠ none := by
  obtain ⟨n, setting, rfl⟩ := h
  simp [performed?]

/-- Looking a host up does nothing with a transport. -/
theorem IsLookup.performed {call : Call} (h : call.IsLookup) : call.performed? = none := by
  cases call with
  | lookup host ending => rfl
  | _ => cases h

theorem not_fails_of_mem_limiting {n : Nat} {limit : Option (Option Duration)} {fault : IoFault}
    {call : Call} (h : call ∈ limiting n limit) : ¬ call.Fails fault := by
  obtain ⟨limit, -, rfl⟩ := List.mem_map.mp h
  rintro ⟨m, setting, hfails⟩
  cases hfails

end Call

/-- Setting a transport up ends with the first setting that fails: that is the last call, and the
reply is its fault. -/
theorem SetUp.of_fails {n : Nat} {timeout : Option Duration} {settings : List Setting}
    {made : List Call} {reply : Except IoFault Unit} (h : SetUp n timeout settings made reply)
    {fault : IoFault} {call : Call} (hcall : call ∈ made) (hfails : call.Fails fault) :
    reply = .error fault ∧ ∃ before, made = before ++ [call] := by
  obtain ⟨tried, hmakes, rfl⟩ := h
  rcases List.mem_append.mp hcall with hlimit | hset
  · exact absurd hfails (Call.not_fails_of_mem_limiting hlimit)
  · obtain ⟨⟨setting, answer⟩, hmem, rfl⟩ := List.mem_map.mp hset
    obtain ⟨m, setting, hsetting⟩ := hfails
    cases hsetting
    obtain ⟨hreply, earlier, rfl⟩ := hmakes.of_fails hmem
    refine ⟨hreply, Call.limiting n (timeout.map some) ++ Call.making n earlier, ?_⟩
    rw [Call.making, List.map_append, ← List.append_assoc]
    rfl

/-- A walk does nothing else with a transport. -/
theorem Route.Walked.performed {π : Type} {route : Route π} {target : Address} {n : Nat}
    {walk : List Call} {ending : Ending Failure Unit} (h : route.Walked target n walk ending)
    {call : Call} (hcall : call ∈ walk) : call.performed? = none := by
  obtain ⟨dialed, further, rfl, hfurther⟩ := h.dials_first
  rcases List.mem_cons.mp hcall with rfl | hcall
  · rfl
  · cases hfurther call hcall <;> rfl

namespace Tunnel

variable {ω τ π ρ ν : Type} {env : Environment ω τ π ρ} {note : τ → ω → ν}
  {tunnel : Tunnel (Numbered τ) (Numbered π) ρ} {ledger later : Ledger ω ν}

/-- What was done with a transport that was created: it was set up before anything else, or its last
call is a setting that failed, and it is not held.  All calls to the transport are looked at, from
whatever operation they come. -/
inductive Prepared (timeout : Option Duration) (settings : List Setting) (n : Nat)
    (held : Option Nat) (calls : List Call) : Prop
  | whole (used : List Call)
    (calls_eq : callsTo Call.transport? n calls =
      .create n :: (Call.settingUp n timeout settings ++ used))
  | stopped {made : List Call} {fault : IoFault}
    (setUp : SetUp n timeout settings made (.error fault))
    (calls_eq : callsTo Call.transport? n calls = .create n :: made) (not_held : held ≠ some n)

/-- Nothing but its own calls matters to a transport, as long as it does not come to be held. -/
theorem Prepared.frame {timeout : Option Duration} {settings : List Setting} {n : Nat}
    {held held' : Option Nat} {calls calls' : List Call}
    (h : Prepared timeout settings n held calls)
    (hcalls : callsTo Call.transport? n calls' = callsTo Call.transport? n calls)
    (hheld : held' = some n → held = some n) : Prepared timeout settings n held' calls' := by
  cases h with
  | whole used calls_eq => exact .whole used (hcalls.trans calls_eq)
  | stopped setUp calls_eq not_held =>
      exact .stopped setUp (hcalls.trans calls_eq) fun holds => not_held (hheld holds)

/-- All transports that were created are prepared, and have numbers that are given away.  The one
that is held is among them, so that it is one that could be set up. -/
structure Furnished (timeout : Option Duration) (settings : List Setting) (held : Option Nat)
    (calls : List Call) (next : Nat) : Prop where
  prepared {n : Nat} : .create n ∈ calls → Prepared timeout settings n held calls
  lt {n : Nat} {call : Call} : call ∈ calls → call.transport? = some n → n < next
  held_created {n : Nat} : held = some n → .create n ∈ calls

namespace Furnished

variable {timeout : Option Duration} {settings : List Setting} {held : Option Nat}
  {calls : List Call} {next next' : Nat}

/-- Before the first transport is created. -/
theorem nothing : Furnished timeout settings none [] next where
  prepared hn := by cases hn
  lt hcall := by cases hcall
  held_created hn := by cases hn

theorem grow (h : Furnished timeout settings held calls next) (hle : next ≤ next') :
    Furnished timeout settings held calls next' where
  prepared := h.prepared
  lt hcall hn := Nat.lt_of_lt_of_le (h.lt hcall hn) hle
  held_created := h.held_created

/-- The transport that is held is let go of. -/
theorem drop (h : Furnished timeout settings held calls next) :
    Furnished timeout settings none calls next where
  prepared hn := (h.prepared hn).frame rfl fun holds => by cases holds
  lt := h.lt
  held_created hn := by cases hn

/-- The transport that is held is set up. -/
theorem held_whole (h : Furnished timeout settings held calls next) {n : Nat}
    (holds : held = some n) : ∃ used, callsTo Call.transport? n calls =
      .create n :: (Call.settingUp n timeout settings ++ used) := by
  cases h.prepared (h.held_created holds) with
  | whole used calls_eq => exact ⟨used, calls_eq⟩
  | stopped setUp calls_eq not_held => exact absurd holds not_held

/-- Calls that create no transport, and go to none but the one that is held, keep all transports
prepared: those to the one that is held come after its setting up. -/
theorem use (h : Furnished timeout settings held calls next) {made : List Call}
    (creates_none : ∀ call ∈ made, call.created? = none)
    (goes_to : ∀ call ∈ made, ∀ n, call.transport? = some n → held = some n) :
    Furnished timeout settings held (calls ++ made) next where
  prepared {n} hn := by
    have hn : .create n ∈ calls := by
      rcases List.mem_append.mp hn with hn | hn
      · exact hn
      · cases creates_none _ hn
    by_cases holds : held = some n
    · obtain ⟨used, hcalls⟩ := h.held_whole holds
      refine .whole (used ++ callsTo Call.transport? n made) ?_
      rw [callsTo_append, hcalls, List.cons_append, List.append_assoc]
    · have hmade : callsTo Call.transport? n made = [] :=
        callsTo_eq_nil fun call hcall hto => holds (goes_to call hcall n hto)
      refine (h.prepared hn).frame ?_ id
      rw [callsTo_append, hmade, List.append_nil]
  lt {n call} hcall hn := by
    rcases List.mem_append.mp hcall with hcall | hcall
    · exact h.lt hcall hn
    · exact h.lt (h.held_created (goes_to call hcall n hn)) rfl
  held_created holds := List.mem_append_left _ (h.held_created holds)

/-- A transport is created, and gets calls of its own; it need not be held after that. -/
theorem create (h : Furnished timeout settings held calls next) {made : List Call}
    {after : Option Nat} (goes_to : ∀ call ∈ Call.create next :: made, call.transport? = some next)
    (hafter : after = held ∨ after = some next)
    (hprepared : Prepared timeout settings next after (.create next :: made)) (hlt : next < next') :
    Furnished timeout settings after (calls ++ .create next :: made) next' where
  prepared {n} hn := by
    by_cases hnext : n = next
    · subst hnext
      have hcalls : callsTo Call.transport? n calls = [] :=
        callsTo_eq_nil fun call hcall hto => absurd (h.lt hcall hto) (Nat.lt_irrefl n)
      refine hprepared.frame ?_ id
      rw [callsTo_append, hcalls, List.nil_append]
    · have hnone : callsTo Call.transport? n (.create next :: made) = [] := by
        refine callsTo_eq_nil fun call hcall hto => hnext ?_
        exact Option.some.inj (hto.symm.trans (goes_to call hcall))
      have hn : .create n ∈ calls := by
        rcases List.mem_append.mp hn with hn | hn
        · exact hn
        · exact absurd (Option.some.inj (goes_to _ hn)) hnext
      refine (h.prepared hn).frame ?_ fun holds => ?_
      · rw [callsTo_append, hnone, List.append_nil]
      · rcases hafter with rfl | rfl
        · exact holds
        · exact absurd (Option.some.inj holds).symm hnext
  lt {n call} hcall hn := by
    rcases List.mem_append.mp hcall with hcall | hcall
    · exact Nat.lt_trans (h.lt hcall hn) hlt
    · obtain rfl := Option.some.inj (hn.symm.trans (goes_to call hcall))
      exact hlt
  held_created {n} holds := by
    rcases hafter with rfl | rfl
    · exact List.mem_append_left _ (h.held_created holds)
    · obtain rfl := Option.some.inj holds
      exact List.mem_append_right _ List.mem_cons_self

/-- A new transport is set up, and then used.  It gets its limit and its settings before anything
else, and is the one that is held from then on. -/
theorem renew (h : Furnished timeout settings held calls next) {made used : List Call}
    (setUp : SetUp next timeout settings made (.ok ()))
    (uses : ∀ call ∈ used, call.Uses (some next)) (hlt : next < next') :
    Furnished timeout settings (some next) (calls ++ .create next :: (made ++ used)) next' := by
  have hgoes_to := setUp.goes_to
  obtain rfl := setUp.eq_settingUp
  have hself : callsTo Call.transport? next
      (.create next :: Call.settingUp next timeout settings) =
        .create next :: (Call.settingUp next timeout settings ++ []) := by
    rw [List.append_nil]
    exact callsTo_eq_self hgoes_to
  have hcreated := h.create hgoes_to (.inr rfl) (.whole [] hself) hlt
  rw [← List.cons_append, ← List.append_assoc]
  exact hcreated.use (fun call hcall => (uses call hcall).creates_none)
    fun call hcall n => (uses call hcall).goes_to

/-- A new transport cannot be set up. -/
theorem unset (h : Furnished timeout settings held calls next) {made : List Call} {fault : IoFault}
    (setUp : SetUp next timeout settings made (.error fault)) (hlt : next < next') :
    Furnished timeout settings held (calls ++ .create next :: made) next' := by
  have hself : callsTo Call.transport? next (.create next :: made) = .create next :: made :=
    callsTo_eq_self setUp.goes_to
  refine h.create setUp.goes_to (.inl rfl) (.stopped setUp hself ?_) hlt
  intro holds
  exact absurd (h.lt (h.held_created holds) rfl) (Nat.lt_irrefl next)

theorem leave {operation : Operation ω τ ρ} {before : List Call} {kept : Option Nat}
    (h : Furnished timeout settings tunnel.number? calls next)
    (leaves : Leaves env note tunnel operation ledger before kept) :
    Furnished timeout settings kept (calls ++ before) next := by
  have hlookups {lookups : List Call} (only_lookups : ∀ call ∈ lookups, call.IsLookup) :
      Furnished timeout settings tunnel.number? (calls ++ lookups) next :=
    h.use (fun call hcall => ((only_lookups call hcall).uses none).creates_none)
      fun call hcall n => ((only_lookups call hcall).uses _).goes_to
  cases leaves with
  | nothing only_lookups holds_none => exact (hlookups only_lookups).drop
  | @closed lookups n reply only_lookups holds =>
      rw [← List.append_assoc]
      refine ((hlookups only_lookups).use ?_ ?_).drop
      · intro call hcall
        obtain rfl := List.mem_singleton.mp hcall
        rfl
      · intro call hcall m hm
        obtain rfl := List.mem_singleton.mp hcall
        exact holds.trans hm
  | found_closed only_lookups is_pursuit found holds =>
      rw [← holds]
      exact hlookups only_lookups

/-- Whatever an operation does with transports, all of them stay prepared; the cases are those of
`Handled`. -/
theorem handle {operation : Operation ω τ ρ} {made : List Call} {after : Option Nat}
    (h : Furnished tunnel.timeout tunnel.settings.toList tunnel.number? ledger.calls ledger.next)
    (handled : Handled env note tunnel operation ledger made after)
    (hmade : later.calls = ledger.calls ++ made) (hnumbers : ledger.Numbers later) :
    Furnished tunnel.timeout tunnel.settings.toList after later.calls later.next := by
  rw [hmade]
  cases handled with
  | used uses =>
      exact (h.use (fun call hcall => (uses call hcall).creates_none)
        fun call hcall n => (uses call hcall).goes_to).grow hnumbers.le
  | left leaves => exact (h.leave leaves).grow hnumbers.le
  | renewed leaves setUp uses =>
      rw [← List.append_assoc]
      exact (h.leave leaves).renew setUp uses (hnumbers.lt_of_split hmade rfl).2
  | unset leaves setUp =>
      rw [← List.append_assoc]
      exact (h.leave leaves).unset setUp (hnumbers.lt_of_split hmade rfl).2

end Furnished

/-! ## The calls of one attempt -/

/-- Letting go of a transport does nothing else with it, and dials none. -/
theorem Vacating.plain {before : List Call} {vacant : Tunnel (Numbered τ) (Numbered π) ρ}
    (h : Vacating env tunnel ledger before vacant) {call : Call} (hcall : call ∈ before) :
    ∃ n reply, call = .close n reply := by
  cases h with
  | released connected holds => exact ⟨_, _, List.mem_singleton.mp hcall⟩
  | _ => cases hcall

/-- A setting that fails ends the attempt to make a tunnel ready, which comes to its fault: it is
the last call, and the transport is not dialed. -/
theorem Readying.of_fails {made : List Call} {reply : Except Failure (Numbered τ)}
    {prepared : Tunnel (Numbered τ) (Numbered π) ρ}
    (h : Readying env tunnel ledger made reply prepared) {fault : IoFault} {call : Call}
    (hcall : call ∈ made) (hfails : call.Fails fault) :
    reply = .error (.io fault) ∧ ∃ before, made = before ++ [call] := by
  have hclosing {before : List Call} {vacant : Tunnel (Numbered τ) (Numbered π) ρ}
      (vacating : Vacating env tunnel ledger before vacant) : call ∉ before := by
    intro hbefore
    obtain ⟨n, reply, rfl⟩ := vacating.plain hbefore
    exact hfails.performed rfl
  have hsetUp {before set : List Call} {n : Nat} {reply : Except IoFault Unit}
      {vacant : Tunnel (Numbered τ) (Numbered π) ρ}
      (vacating : Vacating env tunnel ledger before vacant)
      (setUp : SetUp n tunnel.timeout tunnel.settings.toList set reply)
      (hmem : call ∈ before ++ .create n :: set) :
      reply = .error fault ∧ ∃ earlier, before ++ .create n :: set = earlier ++ [call] := by
    rcases List.mem_append.mp hmem with hmem | hmem
    · exact absurd hmem (hclosing vacating)
    · rcases List.mem_cons.mp hmem with rfl | hmem
      · exact absurd rfl hfails.performed
      · obtain ⟨hreply, earlier, hearlier⟩ := setUp.of_fails hmem hfails
        exact ⟨hreply, before ++ .create n :: earlier, by simp [hearlier]⟩
  cases h with
  | refused failure => cases hcall
  | kept holds => cases hcall
  | unreleased fault' connected holds =>
      obtain rfl := List.mem_singleton.mp hcall
      exact absurd rfl hfails.performed
  | renewed vacating setUp fresh => cases (hsetUp vacating setUp hcall).1
  | unset vacating setUp =>
      obtain ⟨hreply, hlast⟩ := hsetUp vacating setUp hcall
      obtain rfl := Except.error.inj hreply
      exact ⟨rfl, hlast⟩

/-- A setting that fails ends an attempt, which fails with its fault. -/
theorem Course.of_fails {route : Route π} {goal : Goal} {made : List Call}
    {ending : Ending Failure Unit} {after : Tunnel (Numbered τ) (Numbered π) ρ}
    (h : Course env note tunnel route goal ledger made ending after) {fault : IoFault}
    {call : Call} (hcall : call ∈ made) (hfails : call.Fails fault) :
    ending = .failed (.io fault) ∧ ∃ before, made = before ++ [call] := by
  cases h with
  | unaimed only_lookups _ => exact absurd (only_lookups call hcall).performed hfails.performed
  | @unready lookups _ _ _ _ _ _ only_lookups is_aimed is_copied calls next readying =>
      rcases List.mem_append.mp hcall with hcall | hcall
      · exact absurd (only_lookups call hcall).performed hfails.performed
      · obtain ⟨hreply, before, hbefore⟩ := readying.of_fails hcall hfails
        obtain rfl := Except.error.inj hreply
        exact ⟨rfl, lookups ++ before, by rw [hbefore, List.append_assoc]⟩
  | walked only_lookups is_aimed is_copied calls next readying walks holds number =>
      simp only [List.mem_append] at hcall
      rcases hcall with hlookup | hready | hlimit | hwalk
      · exact absurd (only_lookups call hlookup).performed hfails.performed
      · cases (readying.of_fails hready hfails).1
      · exact absurd hfails (Call.not_fails_of_mem_limiting hlimit)
      · rcases walks with rfl | hwalked
        · cases hwalk
        · exact absurd (hwalked.performed hwalk) hfails.performed

/-- Making a tunnel ready closes a transport, or creates the next one, or does something with that.
So it dials none, and does nothing else with a transport that was there before. -/
theorem Readying.plain {made : List Call} {reply : Except Failure (Numbered τ)}
    {prepared : Tunnel (Numbered τ) (Numbered π) ρ}
    (h : Readying env tunnel ledger made reply prepared) {call : Call} (hcall : call ∈ made) :
    (∃ n reply, call = .close n reply) ∨ call = .create ledger.next ∨
      ∃ action reply, call = .perform ledger.next action reply := by
  have hsetUp {before set : List Call} {reply : Except IoFault Unit}
      {vacant : Tunnel (Numbered τ) (Numbered π) ρ}
      (vacating : Vacating env tunnel ledger before vacant)
      (setUp : SetUp ledger.next tunnel.timeout tunnel.settings.toList set reply)
      (hmem : call ∈ before ++ .create ledger.next :: set) :
      (∃ n reply, call = .close n reply) ∨ call = .create ledger.next ∨
        ∃ action reply, call = .perform ledger.next action reply := by
    rcases List.mem_append.mp hmem with hmem | hmem
    · exact .inl (vacating.plain hmem)
    · rcases List.mem_cons.mp hmem with hmem | hmem
      · exact .inr (.inl hmem)
      · exact .inr (.inr (setUp.plain call hmem))
  cases h with
  | refused failure => cases hcall
  | kept holds => cases hcall
  | unreleased fault connected holds => exact .inl ⟨_, _, List.mem_singleton.mp hcall⟩
  | renewed vacating setUp fresh =>
      rw [fresh] at setUp hcall
      exact hsetUp vacating setUp hcall
  | unset vacating setUp => exact hsetUp vacating setUp hcall

/-- To make a tunnel ready nothing is dialed. -/
theorem Readying.dials_none {made : List Call} {reply : Except Failure (Numbered τ)}
    {prepared : Tunnel (Numbered τ) (Numbered π) ρ}
    (h : Readying env tunnel ledger made reply prepared) (hop n : Nat)
    (dialed : Ending IoFault Unit) : .dial hop n dialed ∉ made := by
  intro hcall
  rcases h.plain hcall with ⟨m, closed, hclose⟩ | hcreate | ⟨_, _, hperform⟩
  · cases hclose
  · cases hcreate
  · cases hperform

/-- The last call before a dial limits it, if there is a limit to set.  Before that comes nothing
but the setting up, if the transport was created in the same attempt.  The dial is neither among the
lookups nor among what makes the tunnel ready, so it is in the walk, and there it comes first; and a
transport that was kept is not created. -/
theorem Course.dials {route : Route π} {goal : Goal} {made : List Call}
    {ending : Ending Failure Unit} {after : Tunnel (Numbered τ) (Numbered π) ρ}
    (h : Course env note tunnel route goal ledger made ending after) {before rest : List Call}
    {hop n : Nat} {dialed : Ending IoFault Unit}
    (hsplit : made = before ++ .dial hop n dialed :: rest) :
    ∃ earlier, before = earlier ++ Call.limiting n goal.limit? ∧
      (.create n ∈ before → ∃ others, earlier =
        others ++ .create n :: Call.settingUp n tunnel.timeout tunnel.settings.toList) := by
  have hlooking {lookups : List Call} (only_lookups : ∀ call ∈ lookups, call.IsLookup) :
      .dial hop n dialed ∉ lookups := fun hmem => only_lookups _ hmem
  have hmem : .dial hop n dialed ∈ made := by simp [hsplit]
  cases h with
  | unaimed only_lookups _ => exact absurd hmem (hlooking only_lookups)
  | unready only_lookups is_aimed is_copied calls next readying =>
      rcases List.mem_append.mp hmem with hmem | hmem
      · exact absurd hmem (hlooking only_lookups)
      · exact absurd hmem (readying.dials_none _ _ _)
  | @walked lookups made walk _ _ _ _ _ _ transport carried only_lookups is_aimed is_copied calls
      next readying walks holds number =>
      have hlimiting : .dial hop n dialed ∉ Call.limiting transport.number goal.limit? := by
        intro hmem
        obtain ⟨limit, -, hlimit⟩ := List.mem_map.mp hmem
        cases hlimit
      rcases split_at hsplit with ⟨before₁, rfl, hsplit₁⟩ | ⟨others, hothers⟩
      rotate_left
      · exact absurd (by simp [hothers]) (hlooking only_lookups)
      rcases split_at hsplit₁ with ⟨before₂, rfl, hsplit₂⟩ | ⟨others, hothers⟩
      rotate_left
      · exact absurd (by simp [hothers]) (readying.dials_none hop n dialed)
      rcases split_at hsplit₂ with ⟨before₃, rfl, hwalk⟩ | ⟨others, hothers⟩
      rotate_left
      · exact absurd (by simp [hothers]) hlimiting
      obtain ⟨rfl, hnumber⟩ : before₃ = [] ∧ n = transport.number := by
        rcases walks with rfl | hwalked
        · simp at hwalk
        · exact hwalked.eq_nil_of_dial hwalk
      subst hnumber
      refine ⟨lookups ++ made, by simp, fun hcreate => ?_⟩
      cases readying with
      | kept holds =>
          rcases List.mem_append.mp hcreate with hcreate | hcreate
          · exact absurd hcreate fun hmem => only_lookups _ hmem
          · rw [List.nil_append, List.append_nil] at hcreate
            obtain ⟨limit, -, hlimit⟩ := List.mem_map.mp hcreate
            cases hlimit
      | @renewed before set _ _ vacating setUp fresh =>
          obtain rfl := setUp.eq_settingUp
          exact ⟨lookups ++ before, by rw [List.append_assoc]⟩

/-! ## Runs -/

variable (env note) in
/-- Operations, one after another, leave all transports prepared: each of them does, since the
limit and the settings of the tunnel are those of the configuration before each of them. -/
theorem Furnished.run {route : Route π} {config : Config}
    (hplan : tunnel.plan =
      ⟨route.numbered, config.prefersIpv4, config.timeout, config.settings⟩)
    (h : Furnished config.timeout config.settings.toList tunnel.number? ledger.calls ledger.next)
    (operations : List (Operation ω τ ρ)) :
    let (after, later) := tunnel.run (env.recorded note) (operations.map .recorded) ledger
    Furnished config.timeout config.settings.toList after.number? later.calls later.next := by
  refine run_preserves (P := fun after (later : Ledger ω ν) =>
    Furnished config.timeout config.settings.toList after.number? later.calls later.next) h ?_
  intro operation _ between now hkept furnished
  have hroute : between.route = route.numbered := congrArg Plan.route (hkept.trans hplan)
  have htimeout : between.timeout = config.timeout := congrArg Plan.timeout (hkept.trans hplan)
  have hsettings : between.settings = config.settings :=
    congrArg Plan.settings (hkept.trans hplan)
  obtain ⟨made, hmade, handled⟩ := step_handled env note hroute operation now
  have hnumbers := respects_step (env.recorded_respects_numbers note) numbers_unseen between
    operation now
  rw [← htimeout, ← hsettings] at furnished ⊢
  exact furnished.handle handled hmade hnumbers

end Tunnel

end RelayRoute
