import RelayRoute.Config
import RelayRoute.Preparation
import RelayRoute.Resolution
import RelayRoute.Route

/-!
# Tunnels

A tunnel is a connection through a route of proxies that is used like a socket.  It holds at most
one transport at a time.  Each attempt to connect walks a fresh copy of the configured route; a
tunnel that is connected closes its transport first, and a transport that an unfinished attempt has
left connected has to be closed by the caller.  Every transport the tunnel creates is configured
before it is used.

* `Tunnel`, `Phase` — a tunnel, and how far it has come;
* `create`, `ofTransport`, `ofConfig`, `toHost`, `toEndpoint` — five ways to make one;
* `ready`, `renew`, `limitDial` — what an attempt does before the walk;
* `attempt`, `connect`, `connectEndpoint` — an attempt at an address, and the two ways to tell one;
* `close` — the transport is closed and let go of;
* `observe`, `perform` — everything else is passed on to the transport.
-/

namespace RelayRoute

/-- How far a tunnel has come.  An attempt that fails leaves the phase as it was, except that a
tunnel that was connected is unbound from the moment its old transport is given up. -/
inductive Phase
  /-- No connection yet. -/
  | unbound
  | connected
  | closed
  deriving DecidableEq

/-- A connection through a route of proxies.  It holds at most one transport; where that transport
has come to is not repeated here, but asked of the transport whenever it matters. -/
structure Tunnel (τ π ρ : Type) where
  /-- The configured proxies, which are copied for each attempt. -/
  route : Route π
  transport : Option τ
  /-- What the latest attempt that got as far as dialing was for. -/
  destination : Option Address
  phase : Phase
  prefersIpv4 : Bool
  resolver : ρ
  /-- How long dials over the transports created for the tunnel may take. -/
  timeout : Option Duration
  /-- The settings of the transports created for the tunnel. -/
  settings : Settings

namespace Tunnel

variable {ω τ π ρ : Type} (env : Environment ω τ π ρ)

/-! ## Making tunnels -/

/-- A tunnel that holds a transport and has not been connected.  Without a configuration there are
no settings, and dials are not limited. -/
def holding (route : Route π) (transport : τ) (prefersIpv4 : Bool) : Tunnel τ π ρ where
  route := route
  transport := some transport
  destination := none
  phase := .unbound
  prefersIpv4 := prefersIpv4
  resolver := env.systemResolver
  timeout := none
  settings := {}

/-- A tunnel over a new transport, which the head of the route provides. -/
def create (route : Route π) (prefersIpv4 : Bool) (world : ω) : Tunnel τ π ρ × ω :=
  let (transport, world) := env.create route.head world
  (holding env route transport prefersIpv4, world)

/-- A tunnel over a given transport, which must not be connected.  The transport is only asked, not
touched; transports that the tunnel creates later get no settings. -/
def ofTransport (route : Route π) (transport : τ) (prefersIpv4 : Bool) (world : ω) :
    Except Failure (Tunnel τ π ρ) :=
  if env.observe .isConnected transport world then
    .error (.invalidState .transportConnected)
  else .ok (holding env route transport prefersIpv4)

/-- A tunnel over a new transport with the settings of a configuration.  They are kept, so that
every transport that the tunnel creates later is set up in the same way.  If a setting fails there
is no tunnel. -/
def ofConfig (route : Route π) (config : Config) (world : ω) : Except Failure (Tunnel τ π ρ) × ω :=
  let (transport, world) := env.create route.head world
  match env.setUp config.timeout config.settings transport world with
  | (.ok (), transport, world) =>
    (.ok { holding env route transport config.prefersIpv4 with
        timeout := config.timeout, settings := config.settings }, world)
  | (.error fault, _, world) => (.error (.io fault), world)

/-! ## Attempts -/

variable (tunnel : Tunnel τ π ρ)

/-- Gives the tunnel a new transport, set up with the limit and the settings of the tunnel.  If a
setting fails the tunnel stays as it is, and the transport that was to be its own is dropped. -/
def renew (world : ω) : Except Failure τ × Tunnel τ π ρ × ω :=
  let (transport, world) := env.create tunnel.route.head world
  match env.setUp tunnel.timeout tunnel.settings transport world with
  | (.ok (), transport, world) =>
    (.ok transport, { tunnel with transport := some transport }, world)
  | (.error fault, _, world) => (.error (.io fault), tunnel, world)

/-- Makes sure that the tunnel holds a transport that can be dialed, and gives it.  A connected
tunnel closes its transport for that and gets another one; it is unbound and holds nothing if
closing fails.  A tunnel that is not connected keeps a transport that is neither connected nor
closed, replaces one that is closed, and refuses to touch one that is connected, which an unfinished
attempt has left behind. -/
def ready (world : ω) : Except Failure τ × Tunnel τ π ρ × ω :=
  match tunnel.phase, tunnel.transport with
  | .connected, none => renew env { tunnel with phase := .unbound } world
  | .connected, some old =>
    let tunnel := { tunnel with phase := .unbound, transport := none }
    match env.close old world with
    | (.ok (), _, world) => renew env tunnel world
    | (.error fault, _, world) => (.error (.io fault), tunnel, world)
  | _, none => renew env tunnel world
  | _, some held =>
    if env.observe .isConnected held world then
      (.error (.invalidState .unfinishedAttempt), tunnel, world)
    else if env.observe .isClosed held world then renew env tunnel world
    else (.ok held, tunnel, world)

/-- Limits the dial of a transport, if there is a limit to set; the limit may be to have none.  What
the transport was told before is overwritten and is not restored after the dial. -/
def limitDial (limit : Option (Option Duration)) (transport : τ) (world : ω) : τ × ω :=
  match limit with
  | none => (transport, world)
  | some limit => (env.perform (.setTimeout limit) transport world).2

/-- Connects to a destination over a copy of the route.  The copy is made before the transport is
readied.  The destination is stored before the walk, also when the walk fails, and the tunnel is
connected after it if the whole route is walked. -/
def attempt (destination : Address) (limit : Option (Option Duration)) (world : ω) :
    Ending Failure Unit × Tunnel τ π ρ × ω :=
  let (copy, world) := env.copyRoute tunnel.route world
  match ready env tunnel world with
  | (.error failure, tunnel, world) => (.failed failure, tunnel, world)
  | (.ok transport, tunnel, world) =>
    let (transport, world) := limitDial env limit transport world
    let (ending, _, transport, world) := env.walk copy destination transport world
    let tunnel := { tunnel with destination := some destination, transport := some transport }
    match ending with
    | .done () =>
      (.done (), { tunnel with phase := .connected },
        env.log (.connected destination copy.length) world)
    | ending => (ending, tunnel, world)

/-- Connects to a port at a host given as text; an IPv6 literal may be bracketed.  Where IPv4 is
preferred the host is looked up first, by its settled text, and the tunnel is not touched until
there is an answer.  The dial keeps the limit that the transport has. -/
def connect (host : String) (port : UInt16) (world : ω) :
    Ending Failure Unit × Tunnel τ π ρ × ω :=
  match Host.ofText host with
  | .error cause => (.failed (.invalidAddress cause), tunnel, world)
  | .ok host =>
    if tunnel.prefersIpv4 then
      match env.resolvePreferred tunnel.resolver host.text world with
      | (.done ip, world) => attempt env tunnel ⟨Host.ofIp ip, port⟩ none world
      | (.failed failure, world) => (.failed failure, tunnel, world)
      | (.abandoned, world) => (.abandoned, tunnel, world)
    else attempt env tunnel ⟨host, port⟩ none world

/-- Connects to an endpoint, whose dial may take as long as given.  The path of a local socket is
refused before anything else.  Where IPv4 is preferred the address is looked up by its text, as a
host would be. -/
def connectEndpoint (endpoint : Endpoint) (limit : Option Duration) (world : ω) :
    Ending Failure Unit × Tunnel τ π ρ × ω :=
  match endpoint with
  | .localPath _ => (.failed .unsupportedAddress, tunnel, world)
  | .inet address =>
    if tunnel.prefersIpv4 then
      match env.resolveIp tunnel.resolver address.ip world with
      | (.done ip, world) => attempt env tunnel ⟨Host.ofIp ip, address.port⟩ (some limit) world
      | (.failed failure, world) => (.failed failure, tunnel, world)
      | (.abandoned, world) => (.abandoned, tunnel, world)
    else attempt env tunnel (Address.ofSocketAddress address) (some limit) world

/-- Closes the transport, which the tunnel then holds no longer; closing twice is fine.  The tunnel
is closed also when closing its transport fails. -/
def close (world : ω) : Except IoFault Unit × Tunnel τ π ρ × ω :=
  let closed := { tunnel with phase := .closed, transport := none }
  match tunnel.transport with
  | none => (.ok (), closed, world)
  | some transport =>
    let (reply, _, world) := env.close transport world
    (reply, closed, world)

/-- A new tunnel that is connected to a port at a host.  If the attempt fails the tunnel is gone
with it. -/
def toHost (route : Route π) (host : String) (port : UInt16) (prefersIpv4 : Bool) (world : ω) :
    Ending Failure (Tunnel τ π ρ) × ω :=
  let (tunnel, world) := create env route prefersIpv4 world
  let (ending, tunnel, world) := connect env tunnel host port world
  (ending.map fun () => tunnel, world)

/-- A new tunnel that is connected to an endpoint; the dial takes as long as it takes.  If the
attempt fails the tunnel is gone with it. -/
def toEndpoint (route : Route π) (endpoint : Endpoint) (prefersIpv4 : Bool) (world : ω) :
    Ending Failure (Tunnel τ π ρ) × ω :=
  let (tunnel, world) := create env route prefersIpv4 world
  let (ending, tunnel, world) := connectEndpoint env tunnel endpoint none world
  (ending.map fun () => tunnel, world)

/-! ## The transport of a tunnel -/

/-- The answer of the transport to a question.  A tunnel without a transport answers like one that
is closed. -/
def observe (query : Query) (world : ω) : query.Reply :=
  match tunnel.transport with
  | none => query.absent
  | some transport => env.observe query transport world

/-- Does something with the transport, and keeps what has become of it.  No other field of the
tunnel changes. -/
def perform (action : Action) (world : ω) : action.Reply × Tunnel τ π ρ × ω :=
  match tunnel.transport with
  | none => (action.absent, tunnel, world)
  | some transport =>
    let (reply, transport, world) := env.perform action transport world
    (reply, { tunnel with transport := some transport }, world)

/-- The address of this side, if it is known. -/
def localAddress (world : ω) : Option SocketAddress :=
  (observe env tunnel .localAddress world).toOption

/-- The port of this side, zero if it is not known. -/
def localPort (world : ω) : UInt16 :=
  match localAddress env tunnel world with
  | none => 0
  | some address => address.port

/-- The address of the head of the route the tunnel is connected to, if it is known.  This is where
the stream ends as the system sees it, and not the destination. -/
def remoteAddress (world : ω) : Option SocketAddress :=
  (observe env tunnel .peerAddress world).toOption

/-- The port of the destination, zero before the first attempt. -/
def port : UInt16 :=
  match tunnel.destination with
  | none => 0
  | some destination => destination.port

/-- The IP address of the destination, looked up if it is a domain; nothing if there is none.  A
domain that cannot be looked up has none, either. -/
def destinationIp (world : ω) : Ending Failure (Option Ip) × ω :=
  match tunnel.destination with
  | none => (.done none, world)
  | some ⟨.v4 ip, _⟩ => (.done (some (.v4 ip)), world)
  | some ⟨.v6 ip, _⟩ => (.done (some (.v6 ip)), world)
  | some ⟨.domain name, _⟩ =>
    match env.resolve tunnel.resolver name world with
    | (.done ip, world) => (.done (some ip), world)
    | (.failed _, world) => (.done none, world)
    | (.abandoned, world) => (.abandoned, world)

end Tunnel

end RelayRoute
