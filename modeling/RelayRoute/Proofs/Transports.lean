import RelayRoute.Proofs.Connection
import RelayRoute.Scripted.Environment

/-!
# Transports that keep their word

TCP transports and the transports of a rehearsal are connected by a dial and by nothing else: no
action connects, disconnects or closes them, and of the actions only the one for it changes the
limit for their dials.  So a rehearsal is `Steady`, and `Fresh` where the transports that its
proxies create are plain ones.  These are the conditions under which runs are looked at elsewhere,
and the transports here are the ones that meet them.

* `Tcp.state_perform`, `Tcp.timeout_perform`, `Tcp.connect_frame` — what actions and dials leave
  alone in a TCP transport;
* `Puppet.connected_perform`, `Puppet.perform_frame` — the same for a scripted transport;
* `Carrier.isConnected_perform`, `Carrier.isClosed_perform` — the same for whatever a rehearsal
  holds;
* `environment_steady`, `plainEnvironment_steady`, `plainEnvironment_fresh` — a rehearsal meets the
  conditions.
-/

namespace RelayRoute

/-- No action connects, disconnects or closes a TCP transport, whatever the network answers:
shutting a direction down or failing to read leaves its state alone. -/
theorem Tcp.state_perform {ω κ σ : Type} (network : Network ω κ σ) (action : Action) (tcp : Tcp σ)
    (world : ω) : (Tcp.perform network action tcp world).2.1.state = tcp.state := by
  cases action with
  | bind address =>
      show (tcp.chooseOrigin address).2.state = tcp.state
      unfold chooseOrigin
      split <;> rfl
  | shutdownInput =>
      show (shutdownInput network tcp world).2.1.state = tcp.state
      unfold shutdownInput
      split <;> rfl
  | shutdownOutput =>
      show (shutdownOutput network tcp world).2.1.state = tcp.state
      unfold shutdownOutput
      split <;> rfl
  | set setting =>
      show (setOption network setting tcp world).2.1.state = tcp.state
      unfold setOption
      split <;> rfl
  | _ => rfl

/-- Whatever else is done with a TCP transport, its dials stay limited as they are. -/
theorem Tcp.timeout_perform {ω κ σ : Type} (network : Network ω κ σ) {action : Action}
    (other : ∀ limit, action ≠ .setTimeout limit) (tcp : Tcp σ) (world : ω) :
    (Tcp.perform network action tcp world).2.1.timeout = tcp.timeout := by
  cases action with
  | setTimeout limit => exact absurd rfl (other limit)
  | bind address =>
      show (tcp.chooseOrigin address).2.timeout = tcp.timeout
      unfold chooseOrigin
      split <;> rfl
  | shutdownInput =>
      show (shutdownInput network tcp world).2.1.timeout = tcp.timeout
      unfold shutdownInput
      split <;> rfl
  | shutdownOutput =>
      show (shutdownOutput network tcp world).2.1.timeout = tcp.timeout
      unfold shutdownOutput
      split <;> rfl
  | set setting =>
      show (setOption network setting tcp world).2.1.timeout = tcp.timeout
      unfold setOption
      split <;> rfl
  | _ => rfl

/-- Connecting a TCP transport changes at most its state; its settings, its limit, the address to
dial from and what was shut down stay. -/
theorem Tcp.connect_frame {ω κ σ : Type} (network : Network ω κ σ) (host : String) (port : UInt16)
    (tcp : Tcp σ) (world : ω) :
    (Tcp.connect network host port tcp world).2.1 =
      { tcp with state := (Tcp.connect network host port tcp world).2.1.state } := by
  unfold connect
  split
  · rfl
  · rfl
  · split
    · rfl
    · rfl
    · split <;> rfl
    · rfl

/-- A TCP transport that is dialed successfully is connected. -/
theorem Tcp.isConnected_connect {ω κ σ : Type} {network : Network ω κ σ} {host : String}
    {port : UInt16} {tcp connected : Tcp σ} {world later : ω}
    (h : Tcp.connect network host port tcp world = (.done (), connected, later)) :
    connected.isConnected = true := by
  unfold connect at h
  split at h
  · cases h
  · cases h
  · split at h
    · cases h
      rfl
    · cases h
    · split at h <;> cases h
    · cases h

namespace Scripted

/-- A scripted transport says how its dials are limited, whatever else it can do. -/
@[simp] theorem Puppet.observe_timeout (puppet : Puppet) :
    puppet.observe .timeout = puppet.timeout := by
  unfold observe
  split <;> rfl

/-- A scripted transport that is told the limit that it has is as it was. -/
theorem Puppet.perform_own_timeout (puppet : Puppet) (stage : Stage) :
    (puppet.perform (.setTimeout (puppet.observe .timeout)) stage).2.1 = puppet := by
  rw [Puppet.observe_timeout]
  unfold perform
  split <;> rfl

/-- A scripted transport says whether it is connected, whatever else it can do. -/
@[simp] theorem Puppet.observe_isConnected (puppet : Puppet) :
    puppet.observe .isConnected = puppet.connected := by
  unfold observe
  split <;> rfl

/-- So it says whether it is closed. -/
@[simp] theorem Puppet.observe_isClosed (puppet : Puppet) :
    puppet.observe .isClosed = puppet.closed := by
  unfold observe
  split <;> rfl

/-- Trying something leaves a scripted transport as it was, or as it is when done. -/
theorem Puppet.connected_attempt (puppet done : Puppet) (stage : Stage) (action : Action)
    (h : done.connected = puppet.connected) :
    (puppet.attempt stage action done).2.1.connected = puppet.connected := by
  unfold attempt
  dsimp only
  cases puppet.permit (actionName action) with
  | error fault => rfl
  | ok _ => exact h

/-- No action connects or disconnects a scripted transport. -/
theorem Puppet.connected_perform (puppet : Puppet) (action : Action) (stage : Stage) :
    (puppet.perform action stage).2.1.connected = puppet.connected := by
  have hfull : (puppet.performFull stage action).2.1.connected = puppet.connected := by
    cases action with
    | setTimeout limit => rfl
    | read most =>
        unfold performFull
        cases puppet.permit "read" <;> rfl
    | write bytes =>
        unfold performFull
        cases puppet.permit "write" <;> rfl
    | _ => exact connected_attempt _ _ _ _ rfl
  unfold perform
  split
  · exact hfull
  · exact hfull
  · rfl

/-- Trying something leaves a scripted transport as it was, or as it is when done. -/
theorem Puppet.attempt_cases (puppet done : Puppet) (stage : Stage) (action : Action) :
    (puppet.attempt stage action done).2.1 = puppet ∨
      (puppet.attempt stage action done).2.1 = done := by
  unfold attempt
  dsimp only
  cases puppet.permit (actionName action) with
  | error fault => exact .inl rfl
  | ok _ => exact .inr rfl

/-- No action closes a scripted transport, and only one limits its dials. -/
theorem Puppet.perform_frame (puppet : Puppet) (action : Action) (stage : Stage) :
    (puppet.perform action stage).2.1.closed = puppet.closed ∧
      ((∀ limit, action ≠ .setTimeout limit) →
        (puppet.perform action stage).2.1.timeout = puppet.timeout) := by
  have hattempt {done : Puppet} {action : Action} {other : Prop}
      (h : done.closed = puppet.closed) (h' : done.timeout = puppet.timeout) :
      (puppet.attempt stage action done).2.1.closed = puppet.closed ∧
        (other → (puppet.attempt stage action done).2.1.timeout = puppet.timeout) := by
    rcases puppet.attempt_cases done stage action with hsame | hdone
    · rw [hsame]
      exact ⟨rfl, fun _ => rfl⟩
    · rw [hdone]
      exact ⟨h, fun _ => h'⟩
  have hfull : (puppet.performFull stage action).2.1.closed = puppet.closed ∧
      ((∀ limit, action ≠ .setTimeout limit) →
        (puppet.performFull stage action).2.1.timeout = puppet.timeout) := by
    cases action with
    | setTimeout limit => exact ⟨rfl, fun other => absurd rfl (other limit)⟩
    | read most =>
        unfold performFull
        cases puppet.permit "read" <;> exact ⟨rfl, fun _ => rfl⟩
    | write bytes =>
        unfold performFull
        cases puppet.permit "write" <;> exact ⟨rfl, fun _ => rfl⟩
    | _ => exact hattempt rfl rfl
  unfold perform
  split
  · exact hfull
  · exact hfull
  · exact ⟨rfl, fun _ => rfl⟩

/-- Whether a transport of a rehearsal is connected does not depend on the stage, and no action
changes it. -/
theorem Carrier.isConnected_perform (action : Action) (carrier : Carrier)
    (stage earlier later : Stage) :
    (carrier.perform action stage).2.1.observe .isConnected later =
      carrier.observe .isConnected earlier := by
  cases carrier with
  | scripted puppet =>
      show (puppet.perform action stage).2.1.observe .isConnected = puppet.observe .isConnected
      rw [Puppet.observe_isConnected, Puppet.observe_isConnected]
      exact Puppet.connected_perform puppet action stage
  | isolated tcp =>
      show (Tcp.perform isolation action tcp stage).2.1.isConnected = tcp.isConnected
      unfold Tcp.isConnected
      rw [Tcp.state_perform]

theorem Carrier.isClosed_perform (action : Action) (carrier : Carrier)
    (stage earlier later : Stage) :
    (carrier.perform action stage).2.1.observe .isClosed later =
      carrier.observe .isClosed earlier := by
  cases carrier with
  | scripted puppet =>
      show (puppet.perform action stage).2.1.observe .isClosed = puppet.observe .isClosed
      rw [Puppet.observe_isClosed, Puppet.observe_isClosed]
      exact (puppet.perform_frame action stage).1
  | isolated tcp =>
      show (Tcp.perform isolation action tcp stage).2.1.isClosed = tcp.isClosed
      unfold Tcp.isClosed
      rw [Tcp.state_perform]

/-- A transport of a rehearsal is connected or not, whatever the stage is. -/
theorem Carrier.isConnected_stage (carrier : Carrier) (earlier later : Stage) :
    carrier.observe .isConnected later = carrier.observe .isConnected earlier := by
  cases carrier <;> rfl

theorem environment_steady : environment.Steady where
  log _ carrier stage := carrier.isConnected_stage stage _
  lookup _ _ carrier stage := carrier.isConnected_stage stage _
  markReached _ carrier stage := carrier.isConnected_stage stage _

/-- A rehearsal in which the transports that scripted proxies create are plain ones, whatever their
scripts say. -/
def plainEnvironment : Environment Stage Carrier Hop Resolver :=
  { environment with create := fun proxy stage => Hop.create proxy { stage with scripts := [] } }

theorem plainEnvironment_steady : plainEnvironment.Steady :=
  ⟨environment_steady.log, environment_steady.lookup, environment_steady.markReached⟩

theorem plainEnvironment_fresh : plainEnvironment.Fresh where
  create proxy stage := by
    obtain ⟨address, state⟩ := proxy
    cases state <;> rfl
  setTimeout limit carrier stage unconnected :=
    (Carrier.isConnected_perform (.setTimeout limit) carrier stage stage _).trans unconnected
  set setting carrier stage unconnected :=
    (Carrier.isConnected_perform (.set setting) carrier stage stage _).trans unconnected

end Scripted

end RelayRoute
