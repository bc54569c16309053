import RelayRoute.Scripted.Exchange

/-!
# Proxies of a rehearsal

A scripted proxy answers as its script says and can be asked once.  A line proxy speaks the smallest
protocol there is: it is sent one line that names the target, and answers with one line.

* `DialScript`, `Interlude`, `HopScript` — what a script may say about being dialed, about what
  happens meanwhile, and about the answer;
* `Hop` — a proxy of either kind;
* `Hop.dial`, `Hop.request`, `Hop.markReached`, `Hop.create` — its part of an environment;
* `Hop.requestScripted`, `Hop.requestLine` — how the two kinds are asked.
-/

namespace RelayRoute.Scripted

/-- What a scripted proxy does instead of dialing. -/
inductive DialScript
  /-- It dials itself over the transport, like any other proxy. -/
  | usual
  /-- Nothing, and succeeds. -/
  | skip
  /-- It never comes to an end. -/
  | hang
  | fail (kind : IoKind)

/-- What a scripted proxy does while it is asked. -/
inductive Interlude
  | nothing
  /-- It closes the transport. -/
  | close
  /-- It never comes to an end. -/
  | hang
  /-- It writes the target to the transport. -/
  | write

/-- How a proxy is to behave. -/
structure HopScript where
  dial : DialScript := .usual
  during : Interlude := .nothing
  /-- The answer, if it is not to relay. -/
  refusal : Option RelayFault := none
  /-- The only target that is refused, if it is not all of them. -/
  only : Option String := none

/-- A proxy of a rehearsal. -/
inductive Hop
  /-- A scripted proxy, and whether it was asked before. -/
  | scripted (script : HopScript) (asked : Bool)
  | line

namespace Hop

/-- Dials a proxy. -/
def dial (proxy : Proxy Hop) (carrier : Carrier) (stage : Stage) :
    Ending IoFault Unit × Hop × Carrier × Stage :=
  let usual :=
    let (ending, carrier, stage) :=
      Carrier.connect proxy.address.host.text proxy.address.port carrier stage
    (ending, proxy.state, carrier, stage)
  match proxy.state with
  | .line => usual
  | .scripted script _ =>
    match script.dial with
    | .usual => usual
    | .skip => (.done (), proxy.state, carrier, stage)
    | .hang => (.abandoned, proxy.state, carrier, stage)
    | .fail kind => (.failed (.bare kind), proxy.state, carrier, stage)

/-- The answer of a scripted proxy. -/
def answer (script : HopScript) (target : Address) : Ending RelayFault Unit :=
  match script.refusal with
  | none => .done ()
  | some fault =>
    if script.only.all (· == target.text) then .failed fault else .done ()

/-- Asks a scripted proxy. -/
def requestScripted (script : HopScript) (asked : Bool) (target : Address) (carrier : Carrier)
    (stage : Stage) : Ending RelayFault Unit × Carrier × Stage :=
  if asked then (.failed (.malformed "hop negotiated twice"), carrier, stage)
  else if !carrier.observe .isConnected stage then
    (.failed (.io .notConnected), carrier, stage)
  else
    match script.during with
    | .nothing => (answer script target, carrier, stage)
    | .hang => (.abandoned, carrier, stage)
    | .close =>
      match carrier.close stage with
      | (.error fault, carrier, stage) => (.failed (.io fault), carrier, stage)
      | (.ok (), carrier, stage) => (answer script target, carrier, stage)
    | .write =>
      match writeText target.text carrier stage with
      | (.error fault, carrier, stage) => (.failed (.io fault), carrier, stage)
      | (.ok (), carrier, stage) => (answer script target, carrier, stage)

/-- What a line in answer to a request means. -/
def lineAnswer (reply : List UInt8) (target : Address) : Ending RelayFault Unit :=
  if reply = bytesOf "OK" then .done ()
  else if reply = bytesOf "DENIED" then .failed (.rejected (target.text ++ " denied"))
  else .failed (.malformed ((String.fromUTF8? ⟨reply.toArray⟩).getD ""))

/-- The longest line that is read. -/
def longestLine : Nat := 1000000

/-- Asks a line proxy. -/
def requestLine (target : Address) (carrier : Carrier) (stage : Stage) :
    Ending RelayFault Unit × Carrier × Stage :=
  match writeText ("CONNECT " ++ target.text ++ "\n") carrier stage with
  | (.error fault, carrier, stage) => (.failed (.io fault), carrier, stage)
  | (.ok (), carrier, stage) =>
    match carrier.perform .flush stage with
    | (.error fault, carrier, stage) => (.failed (.io fault), carrier, stage)
    | (.ok (), carrier, stage) =>
      match readLine carrierActor longestLine (carrier, stage) with
      | (.error fault, carrier, stage) => (.failed (.io fault), carrier, stage)
      | (.ok reply, carrier, stage) => (lineAnswer reply target, carrier, stage)

/-- Asks a proxy to relay. -/
def request (proxy : Proxy Hop) (target : Address) (carrier : Carrier) (stage : Stage) :
    Ending RelayFault Unit × Hop × Carrier × Stage :=
  match proxy.state with
  | .line =>
    let (ending, carrier, stage) := requestLine target carrier stage
    (ending, .line, carrier, stage)
  | .scripted script asked =>
    let stage := stage.tell (.requested proxy.address target)
    let (ending, carrier, stage) := requestScripted script asked target carrier stage
    (ending, .scripted script true, carrier, stage)

/-- Tells a proxy that it is reached through another one. -/
def markReached (proxy : Proxy Hop) (stage : Stage) : Hop × Stage :=
  match proxy.state with
  | .line => (.line, stage)
  | .scripted script asked => (.scripted script asked, stage.tell (.tunneled proxy.address))

/-- A new transport to a proxy.  For a line proxy it is a TCP transport of which the stage is not
told. -/
def create (proxy : Proxy Hop) (stage : Stage) : Carrier × Stage :=
  match proxy.state with
  | .line => (.isolated Tcp.create, stage)
  | .scripted _ _ => Carrier.create stage.nextScript stage

end Hop

end RelayRoute.Scripted
