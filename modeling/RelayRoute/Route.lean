import RelayRoute.Environment

/-!
# Routes

A route leads through one proxy after another, all over one transport: the head is dialed, each
proxy is asked to relay to the next one, and the last to the target.  The walk stops at the first
failure and leaves the transport as it is.

* `Route.hops`, `Route.length` — the proxies of a route in order, of which there is at least one;
* `Environment.copyRoute` — the copy of a configured route with which one connection is made;
* `Environment.ask`, `Environment.relay` — asking one proxy, and going on from one that is reached;
* `Environment.walk` — building a route to a target over a transport.
-/

namespace RelayRoute

/-- The proxies a connection leads through.  There is at least one, so a route always has a head to
dial. -/
structure Route (π : Type) where
  head : Proxy π
  rest : List (Proxy π)

namespace Route

variable {ω τ π ρ : Type}

/-- The proxies in order. -/
def hops (route : Route π) : List (Proxy π) :=
  route.head :: route.rest

/-- The number of proxies. -/
def length (route : Route π) : Nat :=
  route.hops.length

/-- Follows the links from proxy to proxy, and adds a copy of each to those made before.  Whoever
comes last is the one that is asked for the target. -/
def follow (copied : List (Proxy π)) : (links : List (Proxy π)) → List (Proxy π)
  | [] => copied
  | proxy :: links => follow (copied ++ [proxy]) links

/-- Following the links copies every proxy once, in order. -/
theorem follow_eq (copied links : List (Proxy π)) : follow copied links = copied ++ links := by
  induction links generalizing copied with
  | nil => simp [follow]
  | cons proxy links ih => simp [follow, ih]

end Route

namespace Environment

variable {ω τ π ρ : Type} (env : Environment ω τ π ρ)

/-- A copy of a configured route, with which one connection is made.  What the protocols of the
proxies keep is changed in the copy, and the configured route stays as it was. -/
def copyRoute (route : Route π) (world : ω) : Route π × ω :=
  let copy : Route π := ⟨route.head, Route.follow [] route.rest⟩
  (copy, env.log (.routeLength copy.length) world)

/-- A copy has the proxies of the configured route. -/
theorem copyRoute_eq (route : Route π) (world : ω) :
    env.copyRoute route world = (route, env.log (.routeLength route.length) world) := by
  simp [copyRoute, Route.follow_eq]

/-- Asks a proxy to relay to a target.  The request is announced in the log, and so is a proxy that
does not relay, which the attempt is then put down to.  Whoever gives up while the proxy is asked
leaves nothing more in the log. -/
def ask (hop : Proxy π) (target : Address) (transport : τ) (world : ω) :
    Ending Failure Unit × Proxy π × τ × ω :=
  let world := env.log (.asking hop.address target) world
  match env.request hop target transport world with
  | (.done (), state, transport, world) => (.done (), { hop with state }, transport, world)
  | (.failed fault, state, transport, world) =>
    let world := env.log (.notRelayed hop.address target fault) world
    (.failed (.relay hop.address fault), { hop with state }, transport, world)
  | (.abandoned, state, transport, world) => (.abandoned, { hop with state }, transport, world)

/-- Goes on from a proxy that is reached: has it and the proxies after it relay, each to the next
one and the last to the target.  A proxy is told that it is reached as soon as the one before it
relays. -/
def relay (target : Address) : (reached : Proxy π) → (others : List (Proxy π)) → τ → ω →
    Ending Failure Unit × Route π × τ × ω
  | reached, [], transport, world =>
    let (ending, reached, transport, world) := env.ask reached target transport world
    (ending, ⟨reached, []⟩, transport, world)
  | reached, next :: others, transport, world =>
    match env.ask reached next.address transport world with
    | (.done (), reached, transport, world) =>
      let (state, world) := env.markReached next world
      let (ending, further, transport, world) :=
        relay target { next with state } others transport world
      (ending, ⟨reached, further.hops⟩, transport, world)
    | (ending, reached, transport, world) => (ending, ⟨reached, next :: others⟩, transport, world)

/-- Builds a route to a target over a transport, which must not be connected: the head is dialed,
and the rest of the route goes on from there.  The transport is given back as it is when the walk
stops, connected or not. -/
def walk (route : Route π) (target : Address) (transport : τ) (world : ω) :
    Ending Failure Unit × Route π × τ × ω :=
  if env.observe .isConnected transport world then
    (.failed (.invalidState .transportInUse), route, transport, world)
  else
    match env.dial route.head transport world with
    | (.done (), state, transport, world) =>
      env.relay target { route.head with state } route.rest transport world
    | (.failed fault, state, transport, world) =>
      let world := env.log (.unreachable route.head.address fault) world
      (.failed (.io fault), { route with head := { route.head with state } }, transport, world)
    | (.abandoned, state, transport, world) =>
      (.abandoned, { route with head := { route.head with state } }, transport, world)

end Environment

end RelayRoute
