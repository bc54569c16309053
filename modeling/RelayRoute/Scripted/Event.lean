import RelayRoute.Environment

/-!
# Events of a rehearsal

What scripted transports, proxies and resolvers tell about the calls they get, in the order of the
calls, and the names by which a script refers to calls.

* `optionName`, `actionName` — the names of options and actions, by which a script says which calls
  fail;
* `Event` — something that happened;
* `Event.text` — the event in words, with the values that it is about (`timeText`, `valueText`,
  `argumentText?`).
-/

namespace RelayRoute.Scripted

/-- The name of an option. -/
def optionName : SocketOption → String
  | .nodelay => "nodelay"
  | .keepalive => "keepalive"
  | .linger => "linger"
  | .outOfBandInline => "out_of_band_inline"
  | .sendBufferSize => "send_buffer_size"
  | .receiveBufferSize => "recv_buffer_size"
  | .trafficClass => "traffic_class"
  | .reuseAddress => "reuse_address"

/-- The name of an action. -/
def actionName : Action → String
  | .setTimeout _ => "set_timeout"
  | .bind _ => "bind"
  | .shutdownInput => "shutdown_input"
  | .shutdownOutput => "shutdown_output"
  | .set setting => "set_" ++ optionName setting.option
  | .sendUrgent _ => "send_urgent_data"
  | .read _ => "read"
  | .write _ => "write"
  | .flush => "flush"
  | .finish => "shutdown"

/-- Something that happened to a scripted transport, proxy or resolver. -/
inductive Event
  | created (transport : Nat)
  | dialed (transport : Nat) (host : String) (port : UInt16)
  | closed (transport : Nat)
  | performed (transport : Nat) (action : Action)
  | tunneled (proxy : Address)
  | requested (proxy target : Address)
  | lookedUp (host : String)
  deriving DecidableEq

/-- Two digits for each byte. -/
def hexadecimal (bytes : List UInt8) : String :=
  String.ofList <| bytes.flatMap fun byte =>
    [Nat.digitChar (byte.toNat / 16), Nat.digitChar (byte.toNat % 16)]

/-- A span of time, or the lack of a limit. -/
def timeText : Option Duration → String
  | none => "none"
  | some d => Digits.decimal d.seconds ++ "s" ++ Digits.decimal d.subseconds ++ "ns"

/-- The value of an option. -/
def valueText : (o : SocketOption) → o.Value → String
  | .nodelay, on | .keepalive, on | .outOfBandInline, on | .reuseAddress, on => toString on
  | .linger, time => timeText time
  | .sendBufferSize, size | .receiveBufferSize, size => Digits.decimal size.toNat
  | .trafficClass, byte => Digits.decimal byte.toNat

/-- What an action is told to do it with, if anything. -/
def argumentText? : Action → Option String
  | .setTimeout limit => some (timeText limit)
  | .bind address => some address.text
  | .set setting => some (valueText setting.option setting.value)
  | .sendUrgent byte => some (Digits.decimal byte.toNat)
  | .write bytes => some (hexadecimal bytes)
  | _ => none

/-- The name of a transport. -/
def transportName (transport : Nat) : String :=
  "t" ++ Digits.decimal transport

/-- An event in words. -/
def Event.text : Event → String
  | .created t => "create " ++ transportName t
  | .dialed t host port =>
    transportName t ++ " dial " ++ host ++ ":" ++ Digits.decimal port.toNat
  | .closed t => transportName t ++ " close"
  | .performed t action =>
    transportName t ++ " " ++ actionName action ++
      (match argumentText? action with
        | some argument => " " ++ argument
        | none => "")
  | .tunneled proxy => "tunneled " ++ proxy.text
  | .requested proxy target => "request " ++ proxy.text ++ " -> " ++ target.text
  | .lookedUp host => "lookup " ++ host

end RelayRoute.Scripted
