import RelayRoute.Number.Digits

/-!
# Faults of input and output

What can go wrong with a transport, and the words for it.

* `IoKind` — the kinds by which callers tell faults apart;
* `SystemFault` — faults that the system reports, each with its number and its words;
* `IoFault` — the causes that this library knows, among them the faults of the system.  A cause
  decides its kind (`IoFault.kind`) and its words (`IoFault.text`).
-/

namespace RelayRoute

/-- What callers tell faults apart by. -/
inductive IoKind
  | notFound
  | permissionDenied
  | connectionRefused
  | connectionReset
  | connectionAborted
  | hostUnreachable
  | networkUnreachable
  | networkDown
  | notConnected
  | addressInUse
  | addressNotAvailable
  | brokenPipe
  | alreadyExists
  | wouldBlock
  | invalidInput
  | invalidData
  | timedOut
  | writeZero
  | interrupted
  | unsupported
  | unexpectedEnd
  | outOfMemory
  | other
  deriving DecidableEq

/-- The words for a fault of which the kind alone is known. -/
def IoKind.text : IoKind → String
  | .notFound => "entity not found"
  | .permissionDenied => "permission denied"
  | .connectionRefused => "connection refused"
  | .connectionReset => "connection reset"
  | .connectionAborted => "connection aborted"
  | .hostUnreachable => "host unreachable"
  | .networkUnreachable => "network unreachable"
  | .networkDown => "network down"
  | .notConnected => "not connected"
  | .addressInUse => "address in use"
  | .addressNotAvailable => "address not available"
  | .brokenPipe => "broken pipe"
  | .alreadyExists => "entity already exists"
  | .wouldBlock => "operation would block"
  | .invalidInput => "invalid input parameter"
  | .invalidData => "invalid data"
  | .timedOut => "timed out"
  | .writeZero => "write zero"
  | .interrupted => "operation interrupted"
  | .unsupported => "unsupported"
  | .unexpectedEnd => "unexpected end of file"
  | .outOfMemory => "out of memory"
  | .other => "other error"

/-- A fault that the system reports.  These are the ones that a rehearsal comes across. -/
inductive SystemFault
  | invalidArgument
  | addressNotAvailable
  | networkUnreachable
  deriving DecidableEq

namespace SystemFault

/-- The number of the fault, which the system's words are followed by. -/
def code : SystemFault → Nat
  | .invalidArgument => 22
  | .addressNotAvailable => 99
  | .networkUnreachable => 101

/-- The kind of the fault. -/
def kind : SystemFault → IoKind
  | .invalidArgument => .invalidInput
  | .addressNotAvailable => .addressNotAvailable
  | .networkUnreachable => .networkUnreachable

/-- The system's words for the fault. -/
def description : SystemFault → String
  | .invalidArgument => "Invalid argument"
  | .addressNotAvailable => "Cannot assign requested address"
  | .networkUnreachable => "Network is unreachable"

end SystemFault

/-- Why an operation on a transport failed. -/
inductive IoFault
  /-- A fault of which the kind alone is known. -/
  | bare (kind : IoKind)
  /-- A fault described by whoever raised it. -/
  | described (kind : IoKind) (text : String)
  /-- The system refused. -/
  | system (fault : SystemFault)
  /-- The transport has been closed. -/
  | transportClosed
  /-- The transport has been dialed. -/
  | alreadyConnected
  /-- The transport has been dialed, so it has an address of its own. -/
  | alreadyBound
  /-- The transport has no address of its own. -/
  | cannotBind
  /-- There is no transport. -/
  | noTransport
  /-- No address of the host can be dialed from the address the transport is bound to. -/
  | noUsableAddress (host : String) (port : UInt16)
  /-- The dial took longer than it may. -/
  | dialTimedOut
  deriving DecidableEq

namespace IoFault

/-- The kind of a fault. -/
def kind : IoFault → IoKind
  | .bare kind | .described kind _ => kind
  | .system fault => fault.kind
  | .transportClosed | .noTransport => .notConnected
  | .alreadyConnected | .alreadyBound => .alreadyExists
  | .cannotBind => .unsupported
  | .noUsableAddress _ _ => .notFound
  | .dialTimedOut => .timedOut

/-- A fault in words. -/
def text : IoFault → String
  | .bare kind => kind.text
  | .described _ text => text
  | .system fault => fault.description ++ " (os error " ++ Digits.decimal fault.code ++ ")"
  | .transportClosed => "transport is closed"
  | .alreadyConnected => "transport is already connected"
  | .alreadyBound => "transport is already bound"
  | .cannotBind => "transport can not be bound"
  | .noTransport => "socket has no transport"
  | .noUsableAddress host port =>
    "no usable address for " ++ host ++ ":" ++ Digits.decimal port.toNat
  | .dialTimedOut => "connect timed out"

/-- A transport that is not connected. -/
def notConnected : IoFault :=
  .bare .notConnected

end IoFault

end RelayRoute
