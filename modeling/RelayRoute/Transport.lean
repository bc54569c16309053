import RelayRoute.Endpoint
import RelayRoute.Fault.Io
import RelayRoute.Settings

/-!
# Transports

What can be asked of a transport, the byte stream a route is built over, and what can be done with
it.  Each question and each action has a type of replies.

* `Ending` — how something that waits for others ends: it is done, it fails, or whoever waits gives
  up;
* `Query`, `Query.Reply` — questions, which change nothing;
* `Action`, `Action.Reply` — actions, dialing and closing apart;
* `Query.optionless?`, `Action.optionless?` — the replies of a transport that has a stream and no
  options of its own;
* `Query.absent`, `Action.absent` — the replies where there is no transport: options are neutral,
  setters do nothing, and there is no stream.
-/

namespace RelayRoute

/-- How something that waits for others ends: with a value or with a fault, unless whoever waits
gives up.  Then what has been done so far stays done, and there is no answer. -/
inductive Ending (ε α : Type)
  | done (value : α)
  | failed (fault : ε)
  | abandoned

/-- The ending with another value. -/
def Ending.map {ε α β : Type} (f : α → β) : Ending ε α → Ending ε β
  | .done value => .done (f value)
  | .failed fault => .failed fault
  | .abandoned => .abandoned

/-- A question to a transport.  An answer changes nothing, neither in the transport nor in the
world. -/
inductive Query
  | isConnected
  | isClosed
  | isBound
  | isInputShutdown
  | isOutputShutdown
  /-- How long a dial may take. -/
  | timeout
  | localAddress
  | peerAddress
  | option (option : SocketOption)
  deriving DecidableEq

/-- What a question is answered with. -/
abbrev Query.Reply : Query → Type
  | isConnected | isClosed | isBound | isInputShutdown | isOutputShutdown => Bool
  | timeout => Option Duration
  | localAddress | peerAddress => Except IoFault SocketAddress
  | option o => Except IoFault o.Value

/-- The answer of a transport that has a stream and no options, where such a transport need not know
anything itself: it is bound when it is connected, and its options are neutral. -/
def Query.optionless? (isConnected : Bool) : (query : Query) → Option query.Reply
  | isBound => some isConnected
  | isInputShutdown | isOutputShutdown => some false
  | localAddress | peerAddress => some (.error .notConnected)
  | option o => some (.ok o.neutral)
  | Query.isConnected | isClosed | timeout => none

/-- The answer where there is no transport: it is closed and shut down on both sides, is not
limited, has no address, and its options are neutral. -/
def Query.absent : (query : Query) → query.Reply
  | isConnected | isBound => false
  | isClosed | isInputShutdown | isOutputShutdown => true
  | timeout => none
  | localAddress | peerAddress => .error .notConnected
  | option o => .ok o.neutral

/-- Something to be done with a transport, dialing and closing it apart. -/
inductive Action
  | setTimeout (limit : Option Duration)
  | bind (address : SocketAddress)
  | shutdownInput
  | shutdownOutput
  | set (setting : Setting)
  | sendUrgent (byte : UInt8)
  /-- Takes up to so many bytes from the stream; none are left at its end. -/
  | read (most : Nat)
  /-- Gives bytes to the stream, which tells how many it took. -/
  | write (bytes : List UInt8)
  | flush
  /-- Ends the stream of bytes to the other side. -/
  | finish
  deriving DecidableEq

/-- What an action is answered with. -/
abbrev Action.Reply : Action → Type
  | setTimeout _ => Unit
  | read _ => Except IoFault (List UInt8)
  | write _ => Except IoFault Nat
  | _ => Except IoFault Unit

/-- The answer of a transport that has a stream and no options, where such a transport need not do
anything itself: nothing but binding fails. -/
def Action.optionless? : (action : Action) → Option action.Reply
  | bind _ => some (.error .cannotBind)
  | shutdownInput | shutdownOutput | set _ | sendUrgent _ => some (.ok ())
  | setTimeout _ | read _ | write _ | flush | finish => none

/-- The answer where there is no transport.  Setters and whatever ends a stream have nothing to do
and succeed; reading, writing and flushing fail. -/
def Action.absent : (action : Action) → action.Reply
  | setTimeout _ => ()
  | bind _ | shutdownInput | shutdownOutput | set _ | sendUrgent _ | finish => .ok ()
  | read _ => .error .noTransport
  | write _ => .error .noTransport
  | flush => .error .noTransport

end RelayRoute
