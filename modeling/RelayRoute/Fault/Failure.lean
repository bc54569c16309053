import RelayRoute.Address
import RelayRoute.Config.Error
import RelayRoute.Fault.Io

/-!
# Failures

Why a connection through a route was not made, with the words for it.  Only a proxy that says no
rejects an attempt.

* `RelayFault` — the failure of a single proxy: it refused, it answered with nonsense, or the
  exchange with it broke down;
* `InvalidState` — why the state of a connection does not permit an attempt;
* `Failure` — the failure of a whole attempt, which names the proxy where one is to blame;
* `Failure.isRejected`, `Failure.sources` — what callers ask about a failure.
-/

namespace RelayRoute

/-- Why a proxy did not relay.  Only the first of the reasons is an answer that the proxy meant to
give. -/
inductive RelayFault
  /-- The proxy refused. -/
  | rejected (text : String)
  /-- The proxy gave an answer that makes no sense. -/
  | malformed (text : String)
  /-- The exchange with the proxy broke down. -/
  | io (fault : IoFault)
  deriving DecidableEq

/-- The fault of a proxy in words. -/
def RelayFault.text : RelayFault → String
  | .rejected text => "request rejected: " ++ text
  | .malformed text => "malformed reply: " ++ text
  | .io fault => fault.text

/-- Why the state of a connection does not permit an attempt. -/
inductive InvalidState
  /-- The head of a route is dialed over a transport that is connected. -/
  | transportInUse
  /-- A connection is to be made over a transport that is connected. -/
  | transportConnected
  /-- An earlier attempt has left its transport connected. -/
  | unfinishedAttempt
  /-- Any other reason, in words. -/
  | other (text : String)
  deriving DecidableEq

/-- An invalid state in words. -/
def InvalidState.text : InvalidState → String
  | .transportInUse => "transport must be unconnected before dialing the chain head"
  | .transportConnected => "transport should be unconnected"
  | .unfinishedAttempt => "an earlier connect attempt failed, close the socket before retrying"
  | .other text => text

/-- Why a connection was not made.  What went wrong at a proxy after the head was dialed names that
proxy; a dial that failed is a plain fault. -/
inductive Failure
  | hostUnresolvable (host : String)
  | invalidAddress (cause : InvalidAddress)
  | invalidState (cause : InvalidState)
  | unsupportedAddress
  /-- A proxy of the route did not relay. -/
  | relay (proxy : Address) (source : RelayFault)
  | config (error : Config.Error)
  | io (fault : IoFault)

namespace Failure

/-- A failure in words, those of its cause included. -/
def text : Failure → String
  | .hostUnresolvable host => "could not resolve host " ++ host
  | .invalidAddress cause => "invalid address: " ++ cause.text
  | .invalidState cause => "invalid state: " ++ cause.text
  | .unsupportedAddress => "unsupported address type"
  | .relay proxy source => "proxy " ++ proxy.text ++ " failed to relay: " ++ source.text
  | .config error => "invalid configuration: " ++ error.text
  | .io fault => fault.text

/-- Whether a proxy refused, as opposed to an exchange that broke down. -/
def isRejected : Failure → Bool
  | .relay _ (.rejected _) => true
  | _ => false

/-- The failure behind a failure, in words, if there is one. -/
def sources : Failure → List String
  | .relay _ source => [source.text]
  | .config error => [error.text]
  | _ => []

end Failure

end RelayRoute
