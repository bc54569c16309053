import RelayRoute.Scripted.Event

/-!
# The stage of a rehearsal

The world that scripted transports, proxies and resolvers act in: the scripts for the transports,
the events that were told, and the records of the log.

* `Ability`, `TransportScript` — how much a transport can do, and how it is to behave;
* `Stage` — the world of a rehearsal;
* `Stage.tell`, `Stage.log` — what is added to it;
* `Stage.takeNumber`, `Stage.takeEvents` — what is taken from it.
-/

namespace RelayRoute.Scripted

/-- How much a scripted transport can do. -/
inductive Ability
  /-- It can be dialed, closed and used as a stream. -/
  | plain
  /-- It also has options and addresses. -/
  | full
  /-- It is no script but a TCP transport. -/
  | tcp
  deriving DecidableEq

/-- How a transport is to behave. -/
structure TransportScript where
  ability : Ability := .plain
  connected : Bool := false
  closed : Bool := false
  /-- The calls that fail, by name. -/
  failures : List (String × IoKind) := []
  /-- What can be read from the stream. -/
  input : List UInt8 := []
  /-- The most bytes that one write takes. -/
  mostWritten : Option Nat := none

/-- The world of a rehearsal. -/
structure Stage where
  /-- The scripts of the transports that proxies create, by the number of the transport; the last
  one repeats. -/
  scripts : List TransportScript := []
  /-- How many transports have been created. -/
  created : Nat := 0
  /-- What has happened, latest first. -/
  events : List Event := []
  /-- The log, latest record first. -/
  records : List LogRecord := []

namespace Stage

/-- The world after an event. -/
def tell (stage : Stage) (event : Event) : Stage :=
  { stage with events := event :: stage.events }

/-- The world with one more record in the log. -/
def log (record : LogRecord) (stage : Stage) : Stage :=
  { stage with records := record :: stage.records }

/-- The script for the next transport that a proxy creates. -/
def nextScript (stage : Stage) : TransportScript :=
  (stage.scripts[stage.created]?.or stage.scripts.getLast?).getD {}

/-- A number for a new transport, and the world that has seen it made. -/
def takeNumber (stage : Stage) : Nat × Stage :=
  (stage.created, { stage with created := stage.created + 1 }.tell (.created stage.created))

/-- What has happened since the last time this was asked, and the world that has told it. -/
def takeEvents (stage : Stage) : List Event × Stage :=
  (stage.events.reverse, { stage with events := [] })

end Stage

end RelayRoute.Scripted
