import RelayRoute.Proofs.Connection
import RelayRoute.Proofs.FailedAttempt
import RelayRoute.Proofs.Run
import RelayRoute.Proofs.Transports

/-!
# Unfinished attempts

An attempt that has connected its transport and then does not succeed leaves the tunnel unfinished:
it is not connected, but its transport is.  From there on every attempt is refused and nobody is
called, whatever else is done in between, until the tunnel is closed or the transport itself is
disconnected; and nothing else is refused.

* `unfinished_of_connects` — how an attempt is left unfinished;
* `pursue_of_unfinished` — what an attempt with an unfinished tunnel comes to;
* `unfinished_of_refused` — the converse: an attempt is refused in no other state;
* `unfinished_step`, `unfinished_run` — what one operation does with an unfinished tunnel, and what
  any number of them do;
* `finished_by` — what ends it;
* `unfinished_until_closed` — all of it together.
-/

namespace RelayRoute.Tunnel

variable {ω τ π ρ ν : Type}

section

variable {env : Environment ω τ π ρ} {tunnel : Tunnel τ π ρ}

/-- Whether an attempt is unfinished depends on the tunnel, and on the world only through whether
its transport is connected there. -/
theorem unfinished_congr {earlier later : ω}
    (hsame : ∀ transport, env.observe .isConnected transport later =
      env.observe .isConnected transport earlier) :
    Unfinished env tunnel later ↔ Unfinished env tunnel earlier := by
  simp only [Unfinished, hsame]

/-- Finding the address of an attempt and copying the route leaves that as it is. -/
theorem unfinished_started (h : env.Steady) {goal : Goal} {aimed : Ending Failure Address}
    {world sought : ω} (haim : aim env tunnel goal world = (aimed, sought)) :
    Unfinished env tunnel (env.copyRoute tunnel.route sought).2 ↔
      Unfinished env tunnel world := by
  refine unfinished_congr fun transport => ?_
  have hlookups := h.respectsLookups transport
  have hsought := respects_aim hlookups tunnel goal world
  rw [haim] at hsought
  exact hlookups.trans hsought (hlookups.copyRoute tunnel.route sought)

/-- What an attempt with an unfinished tunnel comes to: it looks its address up, and then it is
refused; without an address it fails for lack of one.  Either way the tunnel is as it was. -/
theorem pursue_of_unfinished (h : env.Steady) {world : ω}
    (hunfinished : Unfinished env tunnel world) (goal : Goal) :
    pursue env tunnel goal world =
      match aim env tunnel goal world with
      | (.done _, sought) => (.failed (.invalidState .unfinishedAttempt), tunnel,
          (env.copyRoute tunnel.route sought).2)
      | (.failed failure, sought) => (.failed failure, tunnel, sought)
      | (.abandoned, sought) => (.abandoned, tunnel, sought) := by
  rw [pursue_eq]
  rcases haim : aim env tunnel goal world with ⟨aimed, sought⟩
  cases aimed with
  | done target =>
      have hstarted := (unfinished_started h haim).mpr hunfinished
      exact attempt_of_unfinished env tunnel hstarted
  | failed failure => rfl
  | abandoned => rfl

/-- An attempt leaves an unfinished tunnel as it is. -/
theorem pursue_unfinished (h : env.Steady) {world : ω} (hunfinished : Unfinished env tunnel world)
    (goal : Goal) :
    (pursue env tunnel goal world).2.1 = tunnel ∧
      Unfinished env tunnel (pursue env tunnel goal world).2.2 := by
  rw [pursue_of_unfinished h hunfinished]
  rcases haim : aim env tunnel goal world with ⟨aimed, sought⟩
  have hsought : Unfinished env tunnel sought := by
    refine (unfinished_congr fun transport => ?_).mpr hunfinished
    have hlookups := respects_aim (h.respectsLookups transport) tunnel goal world
    rwa [haim] at hlookups
  cases aimed with
  | done target => exact ⟨rfl, (unfinished_started h haim).mpr hunfinished⟩
  | failed failure => exact ⟨rfl, hsought⟩
  | abandoned => exact ⟨rfl, hsought⟩

/-- A tunnel cannot be made ready for lack of a state only if an attempt is unfinished. -/
theorem unfinished_of_ready_refused {world world' : ω} {reason : InvalidState}
    {prepared : Tunnel τ π ρ}
    (hready : ready env tunnel world = (.error (.invalidState reason), prepared, world')) :
    Unfinished env tunnel world := by
  have hreadied := readied env tunnel world
  rw [hready] at hreadied
  generalize hresult : (Except.error (Failure.invalidState reason), prepared, world') = result
    at hreadied
  cases hreadied with
  | refused unfinished => exact unfinished
  | kept idle holds unconnected unclosed => simp at hresult
  | unreleased connected holds closes => simp at hresult
  | renewed vacated =>
      obtain ⟨_, hreply, -⟩ | ⟨_, hreply, -⟩ := renew_changes env _ hresult.symm <;> cases hreply

/-- An attempt is refused only if an earlier one is unfinished.  In a walk a refusal would mean that
the transport is connected, which one that was made ready is not. -/
theorem unfinished_of_refused (h : env.Steady) (hfresh : env.Fresh) {goal : Goal} {world : ω}
    {reason : InvalidState}
    (hrefused : (pursue env tunnel goal world).1 = .failed (.invalidState reason)) :
    Unfinished env tunnel world := by
  rw [pursue_eq] at hrefused
  rcases haim : aim env tunnel goal world with ⟨aimed, sought⟩
  rw [haim] at hrefused
  cases aimed with
  | abandoned => simp at hrefused
  | failed failure =>
      obtain rfl : failure = .invalidState reason := by simpa using hrefused
      obtain ⟨_, hcause⟩ | ⟨_, hcause⟩ | hcause := aim_failed env tunnel haim <;> cases hcause
  | done target =>
      dsimp only at hrefused
      have hattempted := attempted env tunnel target goal.limit? sought
      generalize attempt env tunnel target goal.limit? sought = result at hattempted hrefused
      cases hattempted with
      | unready is_ready =>
          obtain rfl := Ending.failed.inj hrefused
          exact (unfinished_started h haim).mp (unfinished_of_ready_refused is_ready)
      | connected => simp at hrefused
      | @stranded _ limited _ _ _ _ _ started _ is_ready is_limited is_walked not_done =>
          have hunconnected := limitDial_unconnected hfresh goal.limit?
            (ready_unconnected hfresh is_ready)
          rw [is_limited] at hunconnected
          have hended : (env.walk tunnel.route target limited started).1 =
              .failed (.invalidState reason) := by
            rw [is_walked]
            exact hrefused
          have hconnected := Environment.connected_of_walk_refused hended
          simp [hunconnected] at hconnected

/-! ## How an attempt is left unfinished -/

/-- An attempt that dials a proxy and does not succeed keeps the transport with which its walk
ended, and the ledger up to that walk tells of no dial. -/
theorem walk_of_dials {tunnel after : Tunnel (Numbered τ) (Numbered π) ρ} {goal : Goal}
    {ledger later : Ledger ω Bool} {ending : Ending Failure Unit}
    (hpursue : pursue env.watched tunnel goal ledger = (ending, after, later))
    (hfail : ending ≠ .done ()) (hdials : ¬ ledger.DialsNone later) :
    ∃ target limited started walked carried, ledger.DialsNone started ∧
      env.watched.walk tunnel.route target limited started = (ending, walked, carried, later) ∧
      after.phase ≠ .connected ∧ after.transport = some carried := by
  have hnone := env.watched_respects_dialsNone
  have haim := respects_aim hnone.toRespectsLookups tunnel goal ledger
  rw [pursue_eq] at hpursue
  rcases haimed : aim env.watched tunnel goal ledger with ⟨aimed, sought⟩
  rw [haimed] at hpursue haim
  cases aimed with
  | failed failure =>
      obtain ⟨-, -, rfl⟩ := by simpa using hpursue
      exact absurd haim hdials
  | abandoned =>
      obtain ⟨-, -, rfl⟩ := by simpa using hpursue
      exact absurd haim hdials
  | done target =>
      dsimp only at hpursue haim
      have hreadied := hnone.trans (hnone.trans haim
        (hnone.toRespectsLookups.copyRoute tunnel.route sought)) (respects_ready hnone tunnel _)
      have hattempted := attempted env.watched tunnel target goal.limit? sought
      rw [hpursue] at hattempted
      cases hattempted with
      | unready is_ready =>
          rw [is_ready] at hreadied
          exact absurd hreadied hdials
      | connected => exact absurd rfl hfail
      | @stranded transport limited carried _ walked _ readied started _ is_ready is_limited
          is_walked not_done =>
          rw [is_ready] at hreadied
          have hstarted := hnone.trans hreadied
            (respects_limitDial hnone goal.limit? transport readied)
          rw [is_limited] at hstarted
          have hidle := ready_idle _ _ is_ready
          exact ⟨target, limited, started, walked, carried, hstarted, is_walked, hidle, rfl⟩

/-- An attempt whose dial left the transport connected, and that did not succeed, is unfinished,
unless a proxy has disconnected the transport.  What connects the transport is part of the walk,
since nobody was dialed before, and a walk upholds a connection. -/
theorem unfinished_of_connects (h : env.Steady) {tunnel after : Tunnel (Numbered τ) (Numbered π) ρ}
    {goal : Goal} {ledger later : Ledger ω Bool} {ending : Ending Failure Unit}
    {made : List (Entry Bool)}
    (hpursue : pursue env.watched tunnel goal ledger = (ending, after, later))
    (hfail : ending ≠ .done ()) (hmade : later.entries = ledger.entries ++ made)
    (hconnects : ∃ entry ∈ made, entry.Connects)
    (hkept : ∀ entry ∈ made, ¬ entry.Disconnects) :
    Unfinished env.watched after later := by
  obtain ⟨entry, hentry, hconnects⟩ := hconnects
  have hdials : ¬ ledger.DialsNone later := by
    rintro ⟨made', hmade', hnone⟩
    obtain rfl := List.append_cancel_left (hmade.symm.trans hmade')
    exact hnone entry hentry hconnects
  obtain ⟨target, limited, started, walked, carried, ⟨before, hbefore, hnone⟩, hwalk, hidle,
    hcarried⟩ := walk_of_dials hpursue hfail hdials
  obtain ⟨walking, hwalking, hupheld⟩ :=
    Environment.Upholds.walk h tunnel.route target limited started
  rw [hwalk] at hwalking hupheld
  obtain rfl : made = before ++ walking := by
    rw [hbefore, List.append_assoc] at hwalking
    exact List.append_cancel_left (hmade.symm.trans hwalking)
  have hwalks : entry ∈ walking := by
    rcases List.mem_append.mp hentry with hmem | hmem
    · exact absurd hconnects (hnone entry hmem)
    · exact hmem
  refine ⟨hidle, carried, hcarried, hupheld ?_ (.inr ⟨entry, hwalks, hconnects⟩)⟩
  intro entry hmem
  exact hkept entry (List.mem_append_right before hmem)

/-! ## What an unfinished tunnel goes through -/

/-- A tunnel has the phase and the destination of another one, and holds the transport with the same
number, or like that one none. -/
structure Alike (tunnel after : Tunnel (Numbered τ) (Numbered π) ρ) : Prop where
  phase : after.phase = tunnel.phase
  destination : after.destination = tunnel.destination
  transport : after.transport.map (·.number) = tunnel.transport.map (·.number)

theorem Alike.trans {a b c : Tunnel (Numbered τ) (Numbered π) ρ} (hab : Alike a b)
    (hbc : Alike b c) : Alike a c where
  phase := hbc.phase.trans hab.phase
  destination := hbc.destination.trans hab.destination
  transport := hbc.transport.trans hab.transport

/-- An operation does not close the tunnel, and what it does with the transport leaves that
connected.  Of operations that neither close nor touch the transport nothing is asked, attempts
among them. -/
def Spares (env : Environment ω τ π ρ) (tunnel : Tunnel τ π ρ) (operation : Operation ω τ ρ)
    (world : ω) : Prop :=
  match operation with
  | .close => False
  | .perform _ | .lend _ =>
    let (after, later) := step env tunnel operation world
    observe env after .isConnected later = true
  | .pursue _ | .locate | .setResolver _ => True

/-- Each of some operations, one after another, spares the tunnel. -/
def SparesAll (env : Environment ω τ π ρ) : Tunnel τ π ρ → List (Operation ω τ ρ) → ω → Prop
  | _, [], _ => True
  | tunnel, operation :: operations, world =>
    Spares env tunnel operation world ∧
      let (after, later) := step env tunnel operation world
      SparesAll env after operations later

/-- An attempt is unfinished if the tunnel is not connected, but says that its transport is. -/
theorem unfinished_iff_observe {tunnel : Tunnel τ π ρ} {world : ω} :
    Unfinished env tunnel world ↔
      tunnel.phase ≠ .connected ∧ observe env tunnel .isConnected world = true := by
  unfold Unfinished observe
  cases tunnel.transport with
  | none => simp [Query.absent]
  | some held => simp

section

variable {note : τ → ω → ν} {tunnel : Tunnel (Numbered τ) (Numbered π) ρ} {ledger : Ledger ω ν}

/-- Whatever is done with an unfinished tunnel, if it is not closed it stays what it is. -/
theorem alike_step (h : env.Steady) (hunfinished : Unfinished (env.recorded note) tunnel ledger)
    {operation : Operation ω τ ρ} (hopen : operation ≠ .close) :
    Alike tunnel (step (env.recorded note) tunnel operation.recorded ledger).1 := by
  obtain ⟨idle, held, holds, connected⟩ := hunfinished
  cases operation with
  | pursue goal =>
      obtain ⟨hsame, -⟩ := pursue_unfinished (h.recorded note) ⟨idle, held, holds, connected⟩ goal
      simp only [step, Operation.recorded, hsame]
      exact ⟨rfl, rfl, rfl⟩
  | close => exact absurd rfl hopen
  | perform action =>
      simp only [step, Operation.recorded, perform, holds]
      exact ⟨rfl, rfl, by simp [holds, Environment.recorded]⟩
  | locate => exact ⟨rfl, rfl, rfl⟩
  | lend use =>
      simp only [step, Operation.recorded, lend, holds]
      exact ⟨rfl, rfl, by simp [holds]⟩
  | setResolver resolver => exact ⟨rfl, rfl, rfl⟩

/-- An operation that spares an unfinished tunnel leaves it unfinished.  The cases are those of the
operation: an attempt is refused, and the others leave the transport connected. -/
theorem unfinished_step (h : env.Steady)
    (hunfinished : Unfinished (env.recorded note) tunnel ledger) {operation : Operation ω τ ρ}
    (hspares : Spares (env.recorded note) tunnel operation.recorded ledger) :
    Unfinished (env.recorded note) (step (env.recorded note) tunnel operation.recorded ledger).1
      (step (env.recorded note) tunnel operation.recorded ledger).2 := by
  have hsteady := h.recorded note
  have hopen : operation ≠ .close := by
    rintro rfl
    exact hspares
  have hidle : (step (env.recorded note) tunnel operation.recorded ledger).1.phase ≠
      .connected := by
    rw [(alike_step h hunfinished hopen).phase]
    exact hunfinished.1
  cases operation with
  | pursue goal =>
      obtain ⟨hsame, hlater⟩ := pursue_unfinished hsteady hunfinished goal
      simp only [step, Operation.recorded, hsame]
      exact hlater
  | close => exact absurd rfl hopen
  | perform action => exact unfinished_iff_observe.mpr ⟨hidle, hspares⟩
  | locate =>
      refine (unfinished_congr fun transport => ?_).mpr hunfinished
      exact respects_destinationIp (hsteady.respectsLookups transport) tunnel ledger
  | lend use => exact unfinished_iff_observe.mpr ⟨hidle, hspares⟩
  | setResolver resolver => exact hunfinished

/-- Any number of operations that spare an unfinished tunnel leave it unfinished, and what it is:
each of them is a step, and what is alike to something alike is alike. -/
theorem unfinished_run (h : env.Steady)
    (hunfinished : Unfinished (env.recorded note) tunnel ledger)
    {operations : List (Operation ω τ ρ)}
    (hspares : SparesAll (env.recorded note) tunnel (operations.map .recorded) ledger) :
    Unfinished (env.recorded note)
        (run (env.recorded note) tunnel (operations.map .recorded) ledger).1
        (run (env.recorded note) tunnel (operations.map .recorded) ledger).2 ∧
      Alike tunnel (run (env.recorded note) tunnel (operations.map .recorded) ledger).1 := by
  induction operations generalizing tunnel ledger with
  | nil => exact ⟨hunfinished, rfl, rfl, rfl⟩
  | cons operation operations ih =>
      obtain ⟨hfirst, hrest⟩ := hspares
      have hopen : operation ≠ .close := by
        rintro rfl
        exact hfirst
      obtain ⟨hlater, hafter⟩ := ih (unfinished_step h hunfinished hfirst) hrest
      exact ⟨hlater, (alike_step h hunfinished hopen).trans hafter⟩

/-- Only closing the tunnel or disconnecting its transport ends an unfinished attempt; after any
other operation that ends it the tunnel holds the same transport, which is not connected any more.
-/
theorem finished_by (h : env.Steady) (hunfinished : Unfinished (env.recorded note) tunnel ledger)
    {operation : Operation ω τ ρ} {after : Tunnel (Numbered τ) (Numbered π) ρ}
    {later : Ledger ω ν} (hstep : step (env.recorded note) tunnel operation.recorded ledger =
      (after, later)) (hfinished : ¬ Unfinished (env.recorded note) after later) :
    operation = .close ∨
      Alike tunnel after ∧ observe (env.recorded note) after .isConnected later = false := by
  by_cases hopen : operation = .close
  · exact .inl hopen
  · have halike := alike_step h hunfinished hopen
    rw [hstep] at halike
    have hidle : after.phase ≠ .connected := by
      rw [halike.phase]
      exact hunfinished.1
    rw [unfinished_iff_observe] at hfinished
    exact .inr ⟨halike, by simpa [hidle] using hfinished⟩

/-- An attempt with an unfinished tunnel is refused if it has an address, and nobody but resolvers
is called. -/
theorem refused_of_unfinished (h : env.Steady)
    (hunfinished : Unfinished (env.recorded note) tunnel ledger) {goal : Goal}
    {ending : Ending Failure Unit} {after : Tunnel (Numbered τ) (Numbered π) ρ}
    {later : Ledger ω ν}
    (hpursue : pursue (env.recorded note) tunnel goal ledger = (ending, after, later)) :
    after = tunnel ∧ ledger.OnlyLookups later ∧
      ∀ target, (aim (env.recorded note) tunnel goal ledger).1 = .done target →
        ending = .failed (.invalidState .unfinishedAttempt) := by
  have hlookups := env.recorded_respects_onlyLookups note
  have hsought := respects_aim hlookups tunnel goal ledger
  rw [pursue_of_unfinished (h.recorded note) hunfinished] at hpursue
  rcases haim : aim (env.recorded note) tunnel goal ledger with ⟨aimed, sought⟩
  rw [haim] at hpursue hsought
  cases aimed with
  | done target =>
      obtain ⟨rfl, rfl, rfl⟩ := by simpa using hpursue
      exact ⟨rfl, hlookups.trans hsought (hlookups.copyRoute tunnel.route sought), fun _ _ => rfl⟩
  | failed failure =>
      obtain ⟨rfl, rfl, rfl⟩ := by simpa using hpursue
      exact ⟨rfl, hsought, fun target htarget => by simp at htarget⟩
  | abandoned =>
      obtain ⟨rfl, rfl, rfl⟩ := by simpa using hpursue
      exact ⟨rfl, hsought, fun target htarget => by simp at htarget⟩

end

end

/-- **An attempt stays unfinished until the tunnel is closed.**  An attempt that connected its
transport and did not succeed is unfinished.  While nothing closes the tunnel or disconnects the
transport, every later attempt that has an address is refused and calls nobody, and the tunnel keeps
its phase, its destination and its transport.  Only closing the tunnel or disconnecting the very
transport it holds ends that, and attempts are refused in no other state. -/
theorem unfinished_until_closed {env : Environment ω τ π ρ} (h : env.Steady) :
    (∀ (tunnel after : Tunnel (Numbered τ) (Numbered π) ρ) (goal : Goal)
        (ledger later : Ledger ω Bool) (ending : Ending Failure Unit) (made : List (Entry Bool)),
      pursue env.watched tunnel goal ledger = (ending, after, later) → ending ≠ .done () →
      later.entries = ledger.entries ++ made → (∃ entry ∈ made, entry.Connects) →
      (∀ entry ∈ made, ¬ entry.Disconnects) → Unfinished env.watched after later) ∧
    (∀ (tunnel : Tunnel (Numbered τ) (Numbered π) ρ) (ledger : Ledger ω Bool)
        (operations : List (Operation ω τ ρ)),
      Unfinished env.watched tunnel ledger →
      SparesAll env.watched tunnel (operations.map .recorded) ledger →
      let (after, later) := run env.watched tunnel (operations.map .recorded) ledger
      Unfinished env.watched after later ∧ Alike tunnel after ∧
      ∀ goal,
        let (ending, unchanged, last) := pursue env.watched after goal later
        unchanged = after ∧ later.OnlyLookups last ∧
          ∀ target, (aim env.watched after goal later).1 = .done target →
            ending = .failed (.invalidState .unfinishedAttempt)) ∧
    (∀ (tunnel : Tunnel (Numbered τ) (Numbered π) ρ) (ledger : Ledger ω Bool)
        (operation : Operation ω τ ρ),
      Unfinished env.watched tunnel ledger →
      let (after, later) := step env.watched tunnel operation.recorded ledger
      ¬ Unfinished env.watched after later →
      operation = .close ∨
        Alike tunnel after ∧ observe env.watched after .isConnected later = false) ∧
    (env.Fresh → ∀ (tunnel : Tunnel (Numbered τ) (Numbered π) ρ) (goal : Goal)
        (ledger : Ledger ω Bool) (reason : InvalidState),
      (pursue env.watched tunnel goal ledger).1 = .failed (.invalidState reason) →
      Unfinished env.watched tunnel ledger) := by
  refine ⟨?_, ?_, ?_, ?_⟩
  · intro tunnel after goal ledger later ending made hpursue hfail hmade hconnects hkept
    exact unfinished_of_connects h hpursue hfail hmade hconnects hkept
  · intro tunnel ledger operations hunfinished hspares
    obtain ⟨hlater, halike⟩ := unfinished_run h hunfinished hspares
    refine ⟨hlater, halike, fun goal => ?_⟩
    exact refused_of_unfinished h hlater rfl
  · intro tunnel ledger operation hunfinished
    rcases hstep : step env.watched tunnel operation.recorded ledger with ⟨after, later⟩
    intro hfinished
    exact finished_by h hunfinished hstep hfinished
  · intro hfresh tunnel goal ledger reason hrefused
    exact unfinished_of_refused (h.recorded _) (hfresh.recorded _) hrefused

/-- Where the second of two proxies rejects, the attempt is unfinished, and the next one is
refused. -/
theorem unfinished_after_rejection :
    let env := Scripted.plainEnvironment
    let route := (Scripted.throughTwo { refusal := some (.rejected "no") }).numbered
    let goal : Goal := .endpoint (.inet (.v4 ⟨198, 51, 100, 7⟩ 43)) none
    let (tunnel, ledger) := create env.watched route false (.start {})
    let (_, after, later) := pursue env.watched tunnel goal ledger
    env.Steady ∧ env.Fresh ∧ Unfinished env.watched after later ∧
      (pursue env.watched after goal later).1 = .failed (.invalidState .unfinishedAttempt) := by
  intro env route goal
  obtain ⟨hleft, hrefused, -⟩ :=
    @unfinished_until_closed _ _ _ _ env Scripted.plainEnvironment_steady
  have hunfinished := hleft (create env.watched route false (.start {})).1 _ goal
    (create env.watched route false (.start {})).2 _ _
    [.record (.routeLength 2), .call (.perform 0 (.setTimeout none) ()) (some false) (some false),
      .call (.dial 0 0 (.done ())) (some false) (some true),
      .record (.asking ⟨.v4 ⟨192, 0, 2, 1⟩, 1080⟩ ⟨.v4 ⟨192, 0, 2, 2⟩, 3128⟩),
      .call (.request 0 ⟨.v4 ⟨192, 0, 2, 2⟩, 3128⟩ 0 (.done ())) (some true) (some true),
      .call (.mark 1) none none,
      .record (.asking ⟨.v4 ⟨192, 0, 2, 2⟩, 3128⟩ ⟨.v4 ⟨198, 51, 100, 7⟩, 43⟩),
      .call (.request 1 ⟨.v4 ⟨198, 51, 100, 7⟩, 43⟩ 0 (.failed (.rejected "no")))
        (some true) (some true),
      .record (.notRelayed ⟨.v4 ⟨192, 0, 2, 2⟩, 3128⟩ ⟨.v4 ⟨198, 51, 100, 7⟩, 43⟩
        (.rejected "no"))]
    rfl (by intro hdone; cases hdone) rfl (by simp [Entry.Connects]) (by simp [Entry.Disconnects])
  obtain ⟨-, -, hagain⟩ := hrefused _ _ [] hunfinished trivial
  exact ⟨Scripted.plainEnvironment_steady, Scripted.plainEnvironment_fresh, hunfinished,
    (hagain goal).2.2 ⟨.v4 ⟨198, 51, 100, 7⟩, 43⟩ rfl⟩

end RelayRoute.Tunnel
