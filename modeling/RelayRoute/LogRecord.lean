import RelayRoute.Fault.Failure

/-!
# Log records

What attempts to connect leave in the log.  A warning is a proxy that was not reached or did not
relay; the rest is detail.

* `LogRecord` — the records, with the addresses and faults that they tell;
* `LogRecord.level` — how much attention a record asks for;
* `LogRecord.text` — the record in words.

Which records an attempt leaves, and in which order, is said by `Tunnel.pursue_accounted`.
-/

namespace RelayRoute

/-- How much attention a record asks for. -/
inductive LogLevel
  | detail
  | warning
  deriving DecidableEq

/-- A record of the log.  It holds what it tells as values, so that what is said about records does
not depend on the words. -/
inductive LogRecord
  /-- A host was looked up without success. -/
  | lookupFailed (host : String) (fault : IoFault)
  /-- An attempt starts over a route of so many proxies. -/
  | routeLength (hops : Nat)
  /-- A proxy is about to be asked to relay. -/
  | asking (proxy target : Address)
  /-- A proxy did not relay. -/
  | notRelayed (proxy target : Address) (fault : RelayFault)
  /-- The head of the route was not reached. -/
  | unreachable (proxy : Address) (fault : IoFault)
  /-- The route is complete. -/
  | connected (destination : Address) (hops : Nat)
  /-- An address of a host was dialed without success. -/
  | dialFailed (address : SocketAddress) (fault : IoFault)
  /-- A host was dialed. -/
  | dialed (host : String) (port : UInt16)

namespace LogRecord

/-- How much attention the record asks for. -/
def level : LogRecord → LogLevel
  | .notRelayed _ _ _ | .unreachable _ _ => .warning
  | _ => .detail

/-- The record in words. -/
def text : LogRecord → String
  | .lookupFailed host fault => "Lookup of " ++ host ++ " failed: " ++ fault.text
  | .routeLength hops => "Proxy chain has " ++ Digits.decimal hops ++ " hop(s)"
  | .asking proxy target => "Asking " ++ proxy.text ++ " to relay to " ++ target.text
  | .notRelayed proxy target fault =>
    "Proxy " ++ proxy.text ++ " did not relay to " ++ target.text ++ ": " ++ fault.text
  | .unreachable proxy fault => "Could not reach proxy " ++ proxy.text ++ ": " ++ fault.text
  | .connected destination hops =>
    "Connected to " ++ destination.text ++ " through " ++ Digits.decimal hops ++ " proxies"
  | .dialFailed address fault => "Dial " ++ address.text ++ " failed: " ++ fault.text
  | .dialed host port => "Transport connected to " ++ host ++ ":" ++ Digits.decimal port.toNat

end LogRecord

end RelayRoute
