import RelayRoute.Scripted.Isolation
import RelayRoute.Tcp

/-!
# Transports of a rehearsal

A scripted transport keeps what it is told and fails where its script says so, after it has told the
stage of the call.  Beside scripted transports a rehearsal uses TCP transports of an isolated
system.

* `Puppet` — a scripted transport, with its script and what it was told;
* `Puppet.observe`, `Puppet.perform`, `Puppet.connect`, `Puppet.close` — what it answers and does,
  depending on its ability and its script;
* `Carrier` — a transport of a rehearsal, of either kind, with the same operations.
-/

namespace RelayRoute.Scripted

/-- A scripted transport. -/
structure Puppet where
  number : Nat
  script : TransportScript
  connected : Bool
  closed : Bool
  timeout : Option Duration
  settings : Settings
  bound : Option SocketAddress
  inputShutdown : Bool
  outputShutdown : Bool
  /-- What is left to be read. -/
  unread : List UInt8

namespace Puppet

/-- A transport at the start of its script. -/
def ofScript (number : Nat) (script : TransportScript) : Puppet :=
  ⟨number, script, script.connected, script.closed, none, {}, none, false, false, script.input⟩

/-- Whether the script lets a call succeed.  A call that the script does not name does. -/
def permit (puppet : Puppet) (call : String) : Except IoFault Unit :=
  match puppet.script.failures.find? (·.1 == call) with
  | some (_, kind) => .error (.bare kind)
  | none => .ok ()

/-- The other side of every connection: port 4321 at 192.0.2.250. -/
def peer : SocketAddress :=
  .v4 ⟨192, 0, 2, 250⟩ 4321

/-- The answer of a transport with options and addresses. -/
def observeFull (puppet : Puppet) : (query : Query) → query.Reply
  | .isConnected => puppet.connected
  | .isClosed => puppet.closed
  | .isBound => puppet.bound.isSome
  | .isInputShutdown => puppet.inputShutdown
  | .isOutputShutdown => puppet.outputShutdown
  | .timeout => puppet.timeout
  | .localAddress =>
    (puppet.permit "local_addr").bind fun () =>
      match puppet.bound with
      | some address => .ok address
      | none => .error (.bare .addressNotAvailable)
  | .peerAddress => (puppet.permit "peer_addr").map fun () => peer
  | .option o => (puppet.permit (optionName o)).map fun () => puppet.settings.value o

/-- The answer of a transport to a question. -/
def observe (puppet : Puppet) (query : Query) : query.Reply :=
  if puppet.script.ability = .full then puppet.observeFull query
  else (query.optionless? puppet.connected).getD (puppet.observeFull query)

/-- Dials a port at a host.  A closed transport is refused. -/
def connect (host : String) (port : UInt16) (puppet : Puppet) (stage : Stage) :
    Except IoFault Unit × Puppet × Stage :=
  let stage := stage.tell (.dialed puppet.number host port)
  match puppet.permit "connect" with
  | .error fault => (.error fault, puppet, stage)
  | .ok () =>
    if puppet.closed then (.error (.bare .connectionRefused), puppet, stage)
    else (.ok (), { puppet with connected := true }, stage)

/-- Closes the transport. -/
def close (puppet : Puppet) (stage : Stage) : Except IoFault Unit × Puppet × Stage :=
  let stage := stage.tell (.closed puppet.number)
  match puppet.permit "close" with
  | .error fault => (.error fault, puppet, stage)
  | .ok () => (.ok (), { puppet with connected := false, closed := true }, stage)

/-- Does something that the script may refuse, after the stage has been told. -/
def attempt (puppet : Puppet) (stage : Stage) (action : Action) (done : Puppet) :
    Except IoFault Unit × Puppet × Stage :=
  let stage := stage.tell (.performed puppet.number action)
  match puppet.permit (actionName action) with
  | .error fault => (.error fault, puppet, stage)
  | .ok () => (.ok (), done, stage)

/-- What a transport with options and addresses does.  A write is told with the bytes that were
taken, and only if it was not refused; reading is not told. -/
def performFull (puppet : Puppet) (stage : Stage) :
    (action : Action) → action.Reply × Puppet × Stage
  | .setTimeout limit =>
    ((), { puppet with timeout := limit },
      stage.tell (.performed puppet.number (.setTimeout limit)))
  | .bind address => puppet.attempt stage (.bind address) { puppet with bound := some address }
  | .shutdownInput => puppet.attempt stage .shutdownInput { puppet with inputShutdown := true }
  | .shutdownOutput => puppet.attempt stage .shutdownOutput { puppet with outputShutdown := true }
  | .set setting =>
    puppet.attempt stage (.set setting)
      { puppet with settings := puppet.settings.put setting.option setting.value }
  | .sendUrgent byte => puppet.attempt stage (.sendUrgent byte) puppet
  | .read most =>
    match puppet.permit "read" with
    | .error fault => (.error fault, puppet, stage)
    | .ok () =>
      (.ok (puppet.unread.take most), { puppet with unread := puppet.unread.drop most }, stage)
  | .write bytes =>
    match puppet.permit "write" with
    | .error fault => (.error fault, puppet, stage)
    | .ok () =>
      let taken := match puppet.script.mostWritten with
        | some most => bytes.take most
        | none => bytes
      (.ok taken.length, puppet, stage.tell (.performed puppet.number (.write taken)))
  | .flush => puppet.attempt stage .flush puppet
  | .finish => puppet.attempt stage .finish puppet

/-- Does something with a transport. -/
def perform (action : Action) (puppet : Puppet) (stage : Stage) : action.Reply × Puppet × Stage :=
  match puppet.script.ability, action.optionless? with
  | .full, _ | _, none => puppet.performFull stage action
  | _, some reply => (reply, puppet, stage)

end Puppet

/-- A transport of a rehearsal. -/
inductive Carrier
  | scripted (puppet : Puppet)
  | isolated (tcp : Tcp Empty)

namespace Carrier

/-- A new transport that a script describes. -/
def create (script : TransportScript) (stage : Stage) : Carrier × Stage :=
  let (number, stage) := stage.takeNumber
  if script.ability = .tcp then (.isolated Tcp.create, stage)
  else (.scripted (Puppet.ofScript number script), stage)

/-- The answer of a transport to a question. -/
def observe (query : Query) (carrier : Carrier) (stage : Stage) : query.Reply :=
  match carrier with
  | .scripted puppet => puppet.observe query
  | .isolated tcp => Tcp.observe isolation query tcp stage

/-- Does something with a transport. -/
def perform (action : Action) (carrier : Carrier) (stage : Stage) :
    action.Reply × Carrier × Stage :=
  match carrier with
  | .scripted puppet =>
    let (reply, puppet, stage) := puppet.perform action stage
    (reply, .scripted puppet, stage)
  | .isolated tcp =>
    let (reply, tcp, stage) := Tcp.perform isolation action tcp stage
    (reply, .isolated tcp, stage)

/-- Closes a transport. -/
def close (carrier : Carrier) (stage : Stage) : Except IoFault Unit × Carrier × Stage :=
  match carrier with
  | .scripted puppet =>
    let (reply, puppet, stage) := puppet.close stage
    (reply, .scripted puppet, stage)
  | .isolated tcp =>
    let (reply, tcp, stage) := Tcp.close isolation tcp stage
    (reply, .isolated tcp, stage)

/-- Dials a port at a host. -/
def connect (host : String) (port : UInt16) (carrier : Carrier) (stage : Stage) :
    Ending IoFault Unit × Carrier × Stage :=
  match carrier with
  | .scripted puppet =>
    match puppet.connect host port stage with
    | (.ok (), puppet, stage) => (.done (), .scripted puppet, stage)
    | (.error fault, puppet, stage) => (.failed fault, .scripted puppet, stage)
  | .isolated tcp =>
    let (ending, tcp, stage) := Tcp.connect isolation host port tcp stage
    (ending, .isolated tcp, stage)

end Carrier

end RelayRoute.Scripted
