import RelayRoute.Resolution
import RelayRoute.Route
import RelayRoute.Scripted.Proxy

/-!
# The environment of a rehearsal

Scripted transports and proxies, and resolvers that answer from a list or, like that of an isolated
system, know IP literals only.  What is shown for all environments can be tried on this one.

* `Resolver`, `Resolver.lookup` — the resolvers of a rehearsal;
* `environment` — how everything behaves in a rehearsal;
* `throughTwo` — a route through two scripted proxies, the second of which does as it is told.
-/

namespace RelayRoute.Scripted

/-- A resolver of a rehearsal. -/
inductive Resolver
  /-- The resolver of the system. -/
  | system
  /-- Hosts with their records, or with the fault that looking them up ends with. -/
  | listed (hosts : List (String × Except IoKind (List Ip)))

namespace Resolver

/-- The addresses of a host.  Only a listed resolver tells the stage that it was asked. -/
def lookup (resolver : Resolver) (host : String) (stage : Stage) :
    Ending IoFault (List Ip) × Stage :=
  match resolver with
  | .system =>
    match literalAddresses host 0 with
    | .ok addresses => (.done (addresses.map SocketAddress.ip), stage)
    | .error fault => (.failed fault, stage)
  | .listed hosts =>
    let stage := stage.tell (.lookedUp host)
    match hosts.find? (·.1 == host) with
    | some (_, .ok records) => (.done records, stage)
    | some (_, .error kind) => (.failed (.bare kind), stage)
    | none => (.failed (.bare .notFound), stage)

end Resolver

/-- How everything behaves in a rehearsal. -/
def environment : Environment Stage Carrier Hop Resolver where
  observe := Carrier.observe
  perform := Carrier.perform
  close := Carrier.close
  create := Hop.create
  dial := Hop.dial
  markReached := Hop.markReached
  request := Hop.request
  lookup := Resolver.lookup
  systemResolver := .system
  log := Stage.log

/-- A route through two scripted proxies: the first relays, and the second does as it is told. -/
def throughTwo (second : HopScript) : Route Hop where
  head := ⟨⟨.v4 ⟨192, 0, 2, 1⟩, 1080⟩, .scripted {} false⟩
  rest := [⟨⟨.v4 ⟨192, 0, 2, 2⟩, 3128⟩, .scripted second false⟩]

end RelayRoute.Scripted
