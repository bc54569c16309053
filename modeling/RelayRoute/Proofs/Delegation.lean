import RelayRoute.Proofs.Recording
import RelayRoute.Scripted.Environment

/-!
# Tunnels in place of their transports

Whoever holds a tunnel uses it like the transport it holds: asks it questions, has it do things, and
reads and writes.  A `Use` is any of these, with its answer `Use.Reply`.  `Environment.serve` is a
use of a transport itself, and `Tunnel.use` the same use of a tunnel; reads and writes are followed
to their answers, so that whoever reads from a stream that has nothing to give yet waits for it,
whether or not there is a tunnel in between.

* `Tunnel.use_held`, `Tunnel.useEach_held` — the answers are those of the transport that is held,
  and it is all of the tunnel that changes;
* `Tunnel.use_empty`, `Tunnel.useEach_empty` — a tunnel that holds no transport answers everything
  as a socket with nothing behind it (`IsBlank`), and stays as it is;
* `Environment.serve_calls`, `Environment.serveEach_calls` — a use calls the transport once if it
  may change it, and nobody otherwise;
* `Tunnel.stands_in` — these together, for a run of uses.
-/

namespace RelayRoute

/-- A use of a socket that neither connects nor closes it. -/
inductive Use
  | ask (query : Query)
  | tell (action : Action)
  /-- The address of this side. -/
  | localAddress
  /-- The port of this side. -/
  | localPort
  /-- The address of the other side. -/
  | remoteAddress

namespace Use

/-- What a use is answered with.  An address that cannot be told is not known, and a port that is
not known is zero. -/
abbrev Reply : Use → Type
  | ask query => query.Reply
  | tell action => action.Reply
  | localAddress | remoteAddress => Option SocketAddress
  | localPort => UInt16

/-- A use together with its answer. -/
abbrev Answered : Type :=
  (use : Use) × use.Reply

/-- The call that an answered use makes to a transport with a number, if it may change it. -/
def call? (number : Nat) : Answered → Option Call
  | ⟨.tell action, reply⟩ => some (.perform number action reply)
  | _ => none

/-- The answers of a socket with nothing behind it: it is not connected and has ended, its options
are neutral, setters have nothing to do, and there is no stream. -/
structure IsBlank (answer : (use : Use) → use.Reply) : Prop where
  unconnected : answer (.ask .isConnected) = false ∧ answer (.ask .isBound) = false
  ended : answer (.ask .isClosed) = true ∧ answer (.ask .isInputShutdown) = true ∧
    answer (.ask .isOutputShutdown) = true
  unlimited : answer (.ask .timeout) = none
  nowhere : answer .localAddress = none ∧ answer .localPort = 0 ∧ answer .remoteAddress = none
  neutral (option : SocketOption) : answer (.ask (.option option)) = .ok option.neutral
  obliges : (∀ setting, answer (.tell (.set setting)) = .ok ()) ∧
    (∀ address, answer (.tell (.bind address)) = .ok ()) ∧
    (∀ byte, answer (.tell (.sendUrgent byte)) = .ok ()) ∧
    answer (.tell .shutdownInput) = .ok () ∧ answer (.tell .shutdownOutput) = .ok () ∧
    answer (.tell .finish) = .ok ()
  streamless : ∃ fault : IoFault, fault.kind = .notConnected ∧
    (∀ most, answer (.tell (.read most)) = .error fault) ∧
    (∀ bytes, answer (.tell (.write bytes)) = .error fault) ∧ answer (.tell .flush) = .error fault

end Use

section

variable {ω τ π ρ ν : Type} (env : Environment ω τ π ρ)

namespace Environment

/-- Uses a transport, and gives the answer with the transport and the world after it.  A question
leaves both as they are. -/
def serve (transport : τ) (world : ω) : (use : Use) → use.Reply × τ × ω
  | .ask query => (env.observe query transport world, transport, world)
  | .tell action => env.perform action transport world
  | .localAddress => ((env.observe .localAddress transport world).toOption, transport, world)
  | .localPort =>
    match env.observe .localAddress transport world with
    | .ok address => (address.port, transport, world)
    | .error _ => (0, transport, world)
  | .remoteAddress => ((env.observe .peerAddress transport world).toOption, transport, world)

/-- Uses a transport again and again. -/
def serveEach (transport : τ) : (uses : List Use) → ω → List Use.Answered × τ × ω
  | [], world => ([], transport, world)
  | use :: uses, world =>
    let (reply, transport, world) := env.serve transport world use
    let (answers, transport, world) := serveEach transport uses world
    (⟨use, reply⟩ :: answers, transport, world)

end Environment

namespace Tunnel

/-- Uses a tunnel. -/
def use (tunnel : Tunnel τ π ρ) (world : ω) : (use : Use) → use.Reply × Tunnel τ π ρ × ω
  | .ask query => (observe env tunnel query world, tunnel, world)
  | .tell action => perform env tunnel action world
  | .localAddress => (localAddress env tunnel world, tunnel, world)
  | .localPort => (localPort env tunnel world, tunnel, world)
  | .remoteAddress => (remoteAddress env tunnel world, tunnel, world)

/-- Uses a tunnel again and again. -/
def useEach (tunnel : Tunnel τ π ρ) : (uses : List Use) → ω → List Use.Answered × Tunnel τ π ρ × ω
  | [], world => ([], tunnel, world)
  | use :: uses, world =>
    let (reply, tunnel, world) := tunnel.use env world use
    let (answers, tunnel, world) := useEach tunnel uses world
    (⟨use, reply⟩ :: answers, tunnel, world)

end Tunnel

end

variable {ω τ π ρ ν : Type}

/-! ## Held transports -/

namespace Tunnel

variable (env : Environment ω τ π ρ) {tunnel : Tunnel τ π ρ}

/-- A use of a tunnel is the same use of the transport it holds.  A question leaves the tunnel as it
is, and so does putting back what it holds. -/
theorem use_held {held : τ} (h : tunnel.transport = some held) (world : ω) (use : Use) :
    tunnel.use env world use =
      ((env.serve held world use).1,
        { tunnel with transport := some (env.serve held world use).2.1 },
        (env.serve held world use).2.2) := by
  have hsame : { tunnel with transport := some held } = tunnel := by rw [← h]
  cases use with
  | ask query => simp [Tunnel.use, Environment.serve, observe, h, hsame]
  | tell action => simp [Tunnel.use, Environment.serve, perform, h]
  | localAddress => simp [Tunnel.use, Environment.serve, localAddress, observe, h, hsame]
  | localPort =>
      have haddress : localAddress env tunnel world =
          (env.observe .localAddress held world).toOption := by simp [localAddress, observe, h]
      unfold Tunnel.use Environment.serve localPort
      rw [haddress]
      cases env.observe .localAddress held world <;> simp [Except.toOption, hsame]
  | remoteAddress => simp [Tunnel.use, Environment.serve, remoteAddress, observe, h, hsame]

/-- A run of uses of a tunnel is the same run of uses of the transport it holds. -/
theorem useEach_held {held : τ} (h : tunnel.transport = some held) (uses : List Use) (world : ω) :
    tunnel.useEach env uses world =
      ((env.serveEach held uses world).1,
        { tunnel with transport := some (env.serveEach held uses world).2.1 },
        (env.serveEach held uses world).2.2) := by
  induction uses generalizing tunnel held world with
  | nil =>
      have hsame : { tunnel with transport := some held } = tunnel := by rw [← h]
      simp [useEach, Environment.serveEach, hsame]
  | cons use uses ih =>
      have hrest := @ih { tunnel with transport := some (env.serve held world use).2.1 } _ rfl
        (env.serve held world use).2.2
      simp only [useEach, Environment.serveEach, use_held env h, hrest]

/-! ## Empty tunnels -/

/-- The answer to a use where there is no transport. -/
def blank : (use : Use) → use.Reply
  | .ask query => query.absent
  | .tell action => action.absent
  | .localAddress | .remoteAddress => none
  | .localPort => 0

theorem isBlank_blank : Use.IsBlank blank where
  unconnected := ⟨rfl, rfl⟩
  ended := ⟨rfl, rfl, rfl⟩
  unlimited := rfl
  nowhere := ⟨rfl, rfl, rfl⟩
  neutral _ := rfl
  obliges := ⟨fun _ => rfl, fun _ => rfl, fun _ => rfl, rfl, rfl, rfl⟩
  streamless := ⟨.noTransport, rfl, fun _ => rfl, fun _ => rfl, rfl⟩

/-- A tunnel without a transport gives blank answers and stays as it is. -/
theorem use_empty (h : tunnel.transport = none) (world : ω) (use : Use) :
    tunnel.use env world use = (blank use, tunnel, world) := by
  cases use <;>
    simp [Tunnel.use, blank, observe, perform, localAddress, localPort, remoteAddress, h,
      Query.absent, Except.toOption]

/-- A run of uses changes nothing where there is no transport. -/
theorem useEach_empty (h : tunnel.transport = none) (uses : List Use) (world : ω) :
    tunnel.useEach env uses world = (uses.map fun use => ⟨use, blank use⟩, tunnel, world) := by
  induction uses with
  | nil => rfl
  | cons use uses ih => simp [useEach, use_empty env h, ih]

end Tunnel

/-! ## Calls -/

namespace Environment

variable (env : Environment ω τ π ρ) (note : τ → ω → ν)

/-- A use calls the transport once if it may change it, and nobody otherwise. -/
theorem serve_calls (held : Numbered τ) (ledger : Ledger ω ν) (use : Use) :
    let served := (env.recorded note).serve held ledger use
    served.2.2.calls = ledger.calls ++ (Use.call? held.number ⟨use, served.1⟩).toList ∧
      served.2.1.number = held.number := by
  cases use with
  | tell action => exact ⟨Ledger.calls_enter _ _ _ _ _, rfl⟩
  | localPort =>
      unfold serve
      cases (env.recorded note).observe .localAddress held ledger <;> simp [Use.call?]
  | _ => simp [serve, Use.call?]

/-- A run of uses makes the calls of its uses, in order, all to one transport.  The induction is on
the uses, and a transport keeps its number. -/
theorem serveEach_calls (held : Numbered τ) (uses : List Use) (ledger : Ledger ω ν) :
    let served := (env.recorded note).serveEach held uses ledger
    served.2.2.calls = ledger.calls ++ served.1.filterMap (Use.call? held.number) ∧
      served.2.1.number = held.number := by
  induction uses generalizing held ledger with
  | nil => simp [serveEach]
  | cons use uses ih =>
      obtain ⟨hcalls, hnumber⟩ := env.serve_calls note held ledger use
      obtain ⟨hfurther, hsame⟩ := ih ((env.recorded note).serve held ledger use).2.1
        ((env.recorded note).serve held ledger use).2.2
      rw [hnumber] at hfurther hsame
      refine ⟨?_, hsame⟩
      simp only [serveEach]
      rw [hfurther, hcalls, List.filterMap_cons, List.append_assoc]
      cases Use.call? held.number ⟨use, ((env.recorded note).serve held ledger use).1⟩ <;> rfl

end Environment

namespace Tunnel

/-- **A tunnel stands in for its transport.**  Using a tunnel again and again gives the answers that
the same uses of the transport it holds give, and leaves the transport and the world in the same
state; the rest of the tunnel stays as it was.  Each use that may change the transport is one call
to it, the same one, and no use calls anybody else.  A tunnel that holds no transport gives blank
answers and changes nothing. -/
theorem stands_in (env : Environment ω τ π ρ) (tunnel : Tunnel τ π ρ) (uses : List Use)
    (world : ω) :
    (∀ held, tunnel.transport = some held →
      ∀ answers after later, env.serveEach held uses world = (answers, after, later) →
        tunnel.useEach env uses world = (answers, { tunnel with transport := some after }, later)) ∧
    (∀ (ν : Type) (note : τ → ω → ν) (numbered : Tunnel (Numbered τ) (Numbered π) ρ)
      (held : Numbered τ) (ledger : Ledger ω ν), numbered.transport = some held →
      let used := numbered.useEach (env.recorded note) uses ledger
      used.2.2.calls = ledger.calls ++ used.1.filterMap (Use.call? held.number)) ∧
    (tunnel.transport = none → ∃ answer, Use.IsBlank answer ∧
      tunnel.useEach env uses world = (uses.map fun use => ⟨use, answer use⟩, tunnel, world)) := by
  refine ⟨?_, ?_, ?_⟩
  · intro held hheld answers after later hserved
    rw [useEach_held env hheld, hserved]
  · intro ν note numbered held ledger hheld
    rw [useEach_held (env.recorded note) hheld]
    exact (env.serveEach_calls note held uses ledger).1
  · intro hempty
    exact ⟨blank, isBlank_blank, useEach_empty env hempty uses world⟩

/-- A tunnel stands in for a transport that keeps an option and has three bytes to be read, and
which is called with what the tunnel is told. -/
theorem stands_in_for_scripted :
    let env := Scripted.environment.recorded fun _ _ => ()
    let held : Numbered Scripted.Carrier :=
      ⟨4, .scripted (.ofScript 4 { ability := .full, input := [7, 8, 9] })⟩
    let tunnel := holding env (Scripted.throughTwo {}).numbered held false
    let uses := [.tell (.set ⟨.keepalive, true⟩), .ask (.option .keepalive), .tell (.read 2),
      .localPort]
    let (answers, after, later) := tunnel.useEach env uses (.start {})
    answers = [⟨.tell (.set ⟨.keepalive, true⟩), .ok ()⟩, ⟨.ask (.option .keepalive), .ok true⟩,
        ⟨.tell (.read 2), .ok [7, 8]⟩, ⟨.localPort, 0⟩] ∧
      after.timeout = tunnel.timeout ∧ after.settings = tunnel.settings ∧
      later.calls =
        [.perform 4 (.set ⟨.keepalive, true⟩) (.ok ()), .perform 4 (.read 2) (.ok [7, 8])] := by
  intro env held tunnel uses
  obtain ⟨hheld, -, -⟩ := stands_in env tunnel uses (.start {})
  obtain ⟨-, hcalls, -⟩ := stands_in Scripted.environment
    (holding Scripted.environment (Scripted.throughTwo {}) held.value false) uses {}
  have hused := hheld held rfl _ _ _ rfl
  have hmade := hcalls Unit (fun _ _ => ()) tunnel held (.start {}) rfl
  exact ⟨congrArg (·.1) hused, congrArg (·.2.1.timeout) hused, congrArg (·.2.1.settings) hused,
    hmade⟩

end Tunnel

end RelayRoute
