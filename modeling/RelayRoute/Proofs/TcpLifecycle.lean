import RelayRoute.Tcp

/-!
# The life of a TCP transport

A TCP transport is dialed, used and closed, and there is no way back.  Whatever the network answers,
an operation either comes to one of the few changes that `Stepped` lists, or leaves the transport as
it was; and an operation that fails is never among those that change something.  So a dial that
fails, or that somebody gives up, can be made again with all that was set before.

* `Tcp.step`, `Tcp.run` — an operation, and operations one after another;
* `Stepped`, `stepped` — all that one operation can change, and that every operation is one of
  these;
* `Stepped.of_not_done`, `Stepped.state`, `Stepped.waiting`, `Stepped.shuts` — what follows for one
  operation: failures change nothing, and the state, what waits for the dial and the directions of
  the stream change only as they should;
* `Ages`, `Stepped.ages`, `run_ages` — what an operation keeps, and so what a run comes to;
* `run_shuts` — a direction that is shut down in a run was shut down by the network;
* `lives_once` — the main result.
-/

namespace RelayRoute

/-- How something ends that is answered at once. -/
def Ending.ofExcept {α : Type} : Except IoFault α → Ending IoFault Unit
  | .ok _ => .done ()
  | .error fault => .failed fault

/-- How an action ends that is answered with `reply`. -/
def Action.ending : (action : Action) → action.Reply → Ending IoFault Unit
  | .setTimeout _, _ => .done ()
  | .read _, reply => .ofExcept reply
  | .write _, reply => .ofExcept reply
  | .bind _, reply | .shutdownInput, reply | .shutdownOutput, reply | .set _, reply
  | .sendUrgent _, reply | .flush, reply | .finish, reply => .ofExcept reply

/-- How a question ends that is answered with `reply`. -/
def Query.ending : (query : Query) → query.Reply → Ending IoFault Unit
  | .isConnected, _ | .isClosed, _ | .isBound, _ | .isInputShutdown, _ | .isOutputShutdown, _
  | .timeout, _ => .done ()
  | .localAddress, reply | .peerAddress, reply => .ofExcept reply
  | .option _, reply => .ofExcept reply

/-- A direction in which a connection can be shut down. -/
inductive Side
  | input
  | output
  deriving DecidableEq

/-- The action that shuts a direction down. -/
def Side.shutdown : Side → Action
  | .input => .shutdownInput
  | .output => .shutdownOutput

/-- Shuts a direction of a stream down. -/
def Network.shutdown {ω κ σ : Type} (network : Network ω κ σ) :
    Side → σ → ω → Except IoFault Unit × ω
  | .input => network.shutdownInput
  | .output => network.shutdownOutput

namespace Tcp

variable {ω κ σ : Type}

/-- Whether a direction of a transport was shut down. -/
def isShutdown (tcp : Tcp σ) : Side → Bool
  | .input => tcp.inputShutdown
  | .output => tcp.outputShutdown

/-- The transport with a direction shut down. -/
def shut (tcp : Tcp σ) : Side → Tcp σ
  | .input => { tcp with inputShutdown := true }
  | .output => { tcp with outputShutdown := true }

/-- Shutting a direction down leaves the other one alone. -/
theorem isShutdown_shut (tcp : Tcp σ) (side other : Side) :
    (tcp.shut side).isShutdown other = (tcp.isShutdown other || decide (other = side)) := by
  cases side <;> cases other <;> simp [shut, isShutdown]

/-- Nothing else changes about a transport. -/
theorem shut_frame (tcp : Tcp σ) (side : Side) :
    (tcp.shut side).state = tcp.state ∧ (tcp.shut side).settings = tcp.settings ∧
      (tcp.shut side).origin = tcp.origin ∧ (tcp.shut side).timeout = tcp.timeout := by
  cases side <;> exact ⟨rfl, rfl, rfl, rfl⟩

/-- Something that is done with a TCP transport, or asked of it. -/
inductive Operation
  | connect (host : String) (port : UInt16)
  | close
  | perform (action : Action)
  | ask (query : Query)

/-- Whether a transport that is closed still does something: it can be closed again, its limit can
be set, its output has nothing to pass on, and it tells about itself. -/
def Operation.OutlivesClosing : Operation → Prop
  | .close | .perform (.setTimeout _) | .perform .flush | .perform .finish => True
  | .ask .isConnected | .ask .isClosed | .ask .isBound | .ask .isInputShutdown
  | .ask .isOutputShutdown | .ask .timeout => True
  | .connect _ _ | .perform (.bind _) | .perform .shutdownInput | .perform .shutdownOutput
  | .perform (.set _) | .perform (.sendUrgent _) | .perform (.read _) | .perform (.write _)
  | .ask .localAddress | .ask .peerAddress | .ask (.option _) => False

variable (network : Network ω κ σ)

/-- An operation: how it ends, and the transport and the world after it. -/
def step (operation : Operation) (tcp : Tcp σ) (world : ω) : Ending IoFault Unit × Tcp σ × ω :=
  match operation with
  | .connect host port => connect network host port tcp world
  | .close =>
    let (reply, tcp, world) := close network tcp world
    (.ofExcept reply, tcp, world)
  | .perform action =>
    let (reply, tcp, world) := perform network action tcp world
    (action.ending reply, tcp, world)
  | .ask query => (query.ending (observe network query tcp world), tcp, world)

/-- The transport and the world after operations, one after another. -/
def run : List Operation → Tcp σ → ω → Tcp σ × ω
  | [], tcp, world => (tcp, world)
  | operation :: operations, tcp, world =>
    let (_, tcp, world) := step network operation tcp world
    run operations tcp world

/-! ## What one operation changes -/

/-- What an operation comes to.  All changes are listed, with what has to be the case for each; an
operation that changes nothing may end in any way. -/
inductive Stepped (tcp : Tcp σ) (world : ω) : Operation → Ending IoFault Unit → Tcp σ → Prop
  | unchanged (operation : Operation) (ending : Ending IoFault Unit) :
    Stepped tcp world operation ending tcp
  | connected (idle : tcp.state = .idle) (host : String) (port : UInt16) (stream : σ) :
    Stepped tcp world (.connect host port) (.done ()) { tcp with state := .connected stream }
  | closed : Stepped tcp world .close (.done ()) { tcp with state := .closed }
  | limited (limit : Option Duration) :
    Stepped tcp world (.perform (.setTimeout limit)) (.done ()) { tcp with timeout := limit }
  | bound (idle : tcp.state = .idle) (address : SocketAddress) :
    Stepped tcp world (.perform (.bind address)) (.done ()) { tcp with origin := some address }
  | set (idle : tcp.state = .idle) (setting : Setting) :
    Stepped tcp world (.perform (.set setting)) (.done ())
      { tcp with settings := tcp.settings.put setting.option setting.value }
  | shut {stream : σ} (side : Side) (connected : tcp.state = .connected stream)
    (shuts : (network.shutdown side stream world).1 = .ok ()) :
    Stepped tcp world (.perform side.shutdown) (.done ()) (tcp.shut side)

variable {network}

/-- Connecting a transport connects an idle one, or changes nothing.  A dial that is given up, or
that runs out of time, counts among the latter. -/
theorem connect_stepped (host : String) (port : UInt16) (tcp : Tcp σ) (world : ω) :
    Stepped network tcp world (.connect host port) (connect network host port tcp world).1
      (connect network host port tcp world).2.1 := by
  unfold connect
  cases hstate : tcp.state with
  | connected stream => exact .unchanged _ _
  | closed => exact .unchanged _ _
  | idle =>
      dsimp only
      generalize dial network tcp host port world = result
      obtain ⟨ending, dialed⟩ := result
      cases ending with
      | done stream => exact .connected hstate host port stream
      | abandoned => exact .unchanged _ _
      | failed fault =>
          cases fault with
          | io fault => exact .unchanged _ _
          | expired =>
              dsimp only
              split <;> exact .unchanged _ _

/-- A direction is shut down if the network shuts it down. -/
theorem step_shutdown {side : Side} {tcp : Tcp σ} {world later : ω} {reply : Except IoFault Unit}
    (h : onStream tcp world (network.shutdown side) = (reply, later)) :
    step network (.perform side.shutdown) tcp world =
      (.ofExcept reply, if reply.isOk then tcp.shut side else tcp, later) := by
  cases side with
  | input =>
      rw [Network.shutdown] at h
      simp only [step, Side.shutdown, perform, shutdownInput, h]
      cases reply <;> rfl
  | output =>
      rw [Network.shutdown] at h
      simp only [step, Side.shutdown, perform, shutdownOutput, h]
      cases reply <;> rfl

/-- Shutting a direction down does so if the network does, or changes nothing. -/
theorem shutdown_stepped (side : Side) (tcp : Tcp σ) (world : ω) :
    Stepped network tcp world (.perform side.shutdown)
      (step network (.perform side.shutdown) tcp world).1
      (step network (.perform side.shutdown) tcp world).2.1 := by
  rcases hreply : onStream tcp world (network.shutdown side) with ⟨reply, later⟩
  rw [step_shutdown hreply]
  cases reply with
  | error fault => exact .unchanged _ _
  | ok _ =>
      cases hstate : tcp.state with
      | connected stream =>
          simp only [onStream, hstate] at hreply
          exact .shut side hstate (by rw [hreply])
      | idle => simp [onStream, hstate] at hreply
      | closed => simp [onStream, hstate] at hreply

/-- **Every operation comes to what `Stepped` lists**, whatever the network answers.  This is all
that is used of what the operations do; the cases are those of the actions. -/
theorem stepped (operation : Operation) (tcp : Tcp σ) (world : ω) :
    Stepped network tcp world operation (step network operation tcp world).1
      (step network operation tcp world).2.1 := by
  cases operation with
  | connect host port => exact connect_stepped host port tcp world
  | close => exact .closed
  | ask query => exact .unchanged _ _
  | perform action =>
      cases action with
      | setTimeout limit => exact .limited limit
      | bind address =>
          simp only [step, perform, chooseOrigin]
          split
          · rename_i hstate
            exact .bound hstate address
          · exact .unchanged _ _
          · exact .unchanged _ _
      | set setting =>
          simp only [step, perform, setOption]
          split
          · rename_i hstate
            exact .set hstate setting
          · exact .unchanged _ _
          · exact .unchanged _ _
      | shutdownInput => exact shutdown_stepped .input tcp world
      | shutdownOutput => exact shutdown_stepped .output tcp world
      | _ => exact .unchanged _ _

/-- An operation that does not succeed leaves a transport as it was: none of the changes that are
listed goes with a failure, or with an operation that is given up. -/
theorem Stepped.of_not_done {tcp after : Tcp σ} {world : ω} {operation : Operation}
    {ending : Ending IoFault Unit} (h : Stepped network tcp world operation ending after)
    (not_done : ending ≠ .done ()) : after = tcp := by
  cases h with
  | unchanged => rfl
  | _ => exact absurd rfl not_done

/-- The state changes only where an idle transport is connected, or a transport is closed. -/
theorem Stepped.state {tcp after : Tcp σ} {world : ω} {operation : Operation}
    {ending : Ending IoFault Unit} (h : Stepped network tcp world operation ending after) :
    after.state = tcp.state ∨
      (tcp.state = .idle ∧ ending = .done () ∧ (∃ host port, operation = .connect host port) ∧
        ∃ stream, after.state = .connected stream) ∨
      (operation = .close ∧ after.state = .closed) := by
  cases h with
  | connected idle host port stream =>
      exact .inr (.inl ⟨idle, rfl, ⟨host, port, rfl⟩, stream, rfl⟩)
  | closed => exact .inr (.inr ⟨rfl, rfl⟩)
  | shut side connected shuts => exact .inl (tcp.shut_frame side).1
  | _ => exact .inl rfl

/-- What waits for the dial changes only while a transport is idle. -/
theorem Stepped.waiting {tcp after : Tcp σ} {world : ω} {operation : Operation}
    {ending : Ending IoFault Unit} (h : Stepped network tcp world operation ending after)
    (dialed : tcp.state ≠ .idle) : after.settings = tcp.settings ∧ after.origin = tcp.origin := by
  cases h with
  | bound idle address => exact absurd idle dialed
  | set idle setting => exact absurd idle dialed
  | shut side connected shuts => exact ⟨(tcp.shut_frame side).2.1, (tcp.shut_frame side).2.2.1⟩
  | _ => exact ⟨rfl, rfl⟩

/-- A direction that is not as it was has been shut down, on a connected transport and by the
network. -/
theorem Stepped.shuts {tcp after : Tcp σ} {world : ω} {operation : Operation}
    {ending : Ending IoFault Unit} (h : Stepped network tcp world operation ending after)
    {side : Side} (changed : after.isShutdown side ≠ tcp.isShutdown side) :
    after.isShutdown side = true ∧ operation = .perform side.shutdown ∧
      ∃ stream, tcp.state = .connected stream ∧
        (network.shutdown side stream world).1 = .ok () := by
  cases h with
  | @shut stream other connected shuts =>
      by_cases hside : side = other
      · subst hside
        exact ⟨by simp [isShutdown_shut], rfl, stream, connected, shuts⟩
      · exact absurd (by simp [isShutdown_shut, hside]) changed
  | _ => exact absurd (by cases side <;> rfl) changed

/-- What a closed transport answers: the operations of `OutlivesClosing` succeed nevertheless, and
all others fail in the same way. -/
theorem step_of_closed {tcp : Tcp σ} (closed : tcp.state = .closed) (operation : Operation)
    (world : ω) :
    (operation.OutlivesClosing → (step network operation tcp world).1 = .done ()) ∧
      (¬ operation.OutlivesClosing →
        (step network operation tcp world).1 = .failed .transportClosed) := by
  cases operation with
  | connect host port => simp [Operation.OutlivesClosing, step, connect, closed]
  | close => simp [Operation.OutlivesClosing, step, close, Ending.ofExcept]
  | perform action =>
      cases action <;> simp [Operation.OutlivesClosing, step, perform, chooseOrigin, shutdownInput,
        shutdownOutput, setOption, onStream, onOutput, closed, Action.ending, Ending.ofExcept]
  | ask query =>
      cases query <;> simp [Operation.OutlivesClosing, step, observe, ofStream, getOption, closed,
        Query.ending, Ending.ofExcept]

end Tcp

/-! ## What a run of operations comes to -/

/-- How far a transport can have come later. -/
inductive TcpState.Ages {σ : Type} : TcpState σ → TcpState σ → Prop
  | same (state : TcpState σ) : Ages state state
  | connects (stream : σ) : Ages .idle (.connected stream)
  | closes (state : TcpState σ) : Ages state .closed

/-- Only an idle transport is idle later. -/
theorem TcpState.Ages.idle {σ : Type} {earlier later : TcpState σ} (h : earlier.Ages later)
    (idle : later = .idle) : earlier = .idle := by
  cases h with
  | same => exact idle
  | _ => cases idle

namespace Tcp

variable {ω κ σ : Type} {network : Network ω κ σ}

/-- What can have become of a transport later: it is not younger, what waited for its dial has not
changed after that, and what was shut down is.  This is kept by every operation, and holds from any
point of a run to any later one. -/
structure Ages (earlier later : Tcp σ) : Prop where
  state : earlier.state.Ages later.state
  settings (dialed : earlier.state ≠ .idle) : later.settings = earlier.settings
  origin (dialed : earlier.state ≠ .idle) : later.origin = earlier.origin
  shutdown {side : Side} (shut : earlier.isShutdown side = true) : later.isShutdown side = true

theorem Ages.trans {earlier middle later : Tcp σ} (h : earlier.Ages middle)
    (h' : middle.Ages later) : earlier.Ages later where
  state := by
    have hmiddle := h.state
    have hlater := h'.state
    generalize earlier.state = first, middle.state = second, later.state = third at hmiddle hlater
    cases hmiddle with
    | same => exact hlater
    | connects stream =>
        cases hlater with
        | same => exact .connects stream
        | closes => exact .closes _
    | closes =>
        cases hlater with
        | same => exact .closes _
        | closes => exact .closes _
  settings dialed :=
    (h'.settings fun idle => dialed (h.state.idle idle)).trans (h.settings dialed)
  origin dialed := (h'.origin fun idle => dialed (h.state.idle idle)).trans (h.origin dialed)
  shutdown shut := h'.shutdown (h.shutdown shut)

/-- A transport ages with every operation. -/
theorem Stepped.ages {tcp after : Tcp σ} {world : ω} {operation : Operation}
    {ending : Ending IoFault Unit} (h : Stepped network tcp world operation ending after) :
    tcp.Ages after where
  state := by
    rcases h.state with hsame | ⟨idle, -, -, stream, hconnected⟩ | ⟨-, hclosed⟩
    · rw [hsame]
      exact .same _
    · rw [idle, hconnected]
      exact .connects stream
    · rw [hclosed]
      exact .closes _
  settings dialed := (h.waiting dialed).1
  origin dialed := (h.waiting dialed).2
  shutdown {side} shut := by
    by_cases hchanged : after.isShutdown side = tcp.isShutdown side
    · exact hchanged.trans shut
    · exact (h.shuts hchanged).1

variable (network)

/-- **A transport ages with operations**, one after another.  The induction is on the operations,
with `Stepped.ages` for each and `Ages.trans` to put them together. -/
theorem run_ages (operations : List Operation) (tcp : Tcp σ) (world : ω) :
    tcp.Ages (run network operations tcp world).1 := by
  induction operations generalizing tcp world with
  | nil => exact ⟨.same _, fun _ => rfl, fun _ => rfl, id⟩
  | cons operation operations ih => exact (stepped operation tcp world).ages.trans (ih _ _)

/-- A direction that was shut down in a run was shut down by the network at some point of it: in the
first operation, or later, if that left the direction as it was. -/
theorem run_shuts (operations : List Operation) (tcp : Tcp σ) (world : ω) {side : Side}
    (changed : (run network operations tcp world).1.isShutdown side ≠ tcp.isShutdown side) :
    ∃ before after, operations = before ++ .perform side.shutdown :: after ∧
      let (held, reached) := run network before tcp world
      ∃ stream, held.state = .connected stream ∧
        (network.shutdown side stream reached).1 = .ok () := by
  induction operations generalizing tcp world with
  | nil => exact absurd rfl changed
  | cons operation operations ih =>
      by_cases hfirst : (step network operation tcp world).2.1.isShutdown side = tcp.isShutdown side
      · obtain ⟨before, after, rfl, hshut⟩ := ih _ _ fun hsame => changed (hsame.trans hfirst)
        exact ⟨operation :: before, after, rfl, hshut⟩
      · obtain ⟨-, rfl, hshut⟩ := (stepped operation tcp world).shuts hfirst
        exact ⟨[], operations, rfl, hshut⟩

/-- **A TCP transport is dialed at most once, and failures leave it alone**, whatever the network
does.  Of single operations, in any state:

* Its state only changes from idle to connected, when it is dialed successfully, and to closed, when
  it is closed; that always succeeds.
* An operation that does not succeed, among them a dial that was given up, leaves it as it was.
* Settings and the address to dial from change only while it is idle.
* A direction is shut down only while it is connected and after the network has shut it down; it is
  not opened again.
* Closed, it can be closed again, flushed, finished and given a limit, and tells about itself;
  everything else fails because it is closed.

So it only ages in a run of operations, and a direction that was shut down in a run was shut down by
the network at some point of it. -/
theorem lives_once :
    (∀ (operation : Operation) (tcp : Tcp σ) (world : ω),
      let (ending, after, _) := step network operation tcp world
      (after.state = tcp.state ∨
        (tcp.state = .idle ∧ ending = .done () ∧ (∃ host port, operation = .connect host port) ∧
          ∃ stream, after.state = .connected stream) ∨
        (operation = .close ∧ after.state = .closed)) ∧
      (operation = .close → ending = .done () ∧ after.state = .closed) ∧
      (ending ≠ .done () → after = tcp) ∧
      (tcp.state ≠ .idle → after.settings = tcp.settings ∧ after.origin = tcp.origin) ∧
      (∀ side, after.isShutdown side ≠ tcp.isShutdown side →
        after.isShutdown side = true ∧ operation = .perform side.shutdown ∧
          ∃ stream, tcp.state = .connected stream ∧
            (network.shutdown side stream world).1 = .ok ()) ∧
      (tcp.state = .closed →
        (operation.OutlivesClosing → ending = .done ()) ∧
        (¬ operation.OutlivesClosing → ending = .failed .transportClosed))) ∧
    (∀ (operations : List Operation) (tcp : Tcp σ) (world : ω),
      let (later, _) := run network operations tcp world
      tcp.Ages later ∧
      ∀ side, later.isShutdown side ≠ tcp.isShutdown side →
        ∃ before after, operations = before ++ .perform side.shutdown :: after ∧
          let (held, reached) := run network before tcp world
          ∃ stream, held.state = .connected stream ∧
            (network.shutdown side stream reached).1 = .ok ()) ∧
    IoFault.transportClosed.kind = .notConnected ∧
    IoFault.transportClosed.text = "transport is closed" := by
  refine ⟨fun operation tcp world => ?_, fun operations tcp world => ?_, rfl, rfl⟩
  · have hstepped : Stepped network tcp world operation _ _ := stepped operation tcp world
    refine ⟨hstepped.state, ?_, hstepped.of_not_done, hstepped.waiting, fun side => hstepped.shuts,
      fun closed => step_of_closed closed operation world⟩
    rintro rfl
    exact ⟨rfl, rfl⟩
  · have hages := run_ages network operations tcp world
    exact ⟨hages, fun side changed => run_shuts network operations tcp world changed⟩

end Tcp

end RelayRoute
