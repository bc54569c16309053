import RelayRoute.Network

/-!
# TCP transports

A transport over a stream of the system's network.  It is dialed at most once: before that its
settings wait to be made on the socket that is dialed, after that they go to the stream, and once it
is closed there is nothing left to do with it.  The addresses of a host are tried in order until one
can be connected.

* `TcpState`, `Tcp` — how far a transport has come, and what waits for its dial;
* `prepareAll`, `bindOrigin`, `dialAddress` — one address is dialed: a socket is opened, gets all
  settings, is bound, and is connected;
* `dialEach`, `dial`, `connect` — the addresses of a host are dialed one after another;
* `observe`, `perform`, `close` — what a transport answers and does, depending on its state.
-/

namespace RelayRoute

/-- How far a transport has come.  It goes on from one state to the next, never back, and may skip
the one in the middle. -/
inductive TcpState (σ : Type)
  | idle
  | connected (stream : σ)
  | closed

/-- A TCP transport.  There is a stream while it is connected and at no other time; the flags of the
two halves of the stream are kept even after that. -/
structure Tcp (σ : Type) where
  state : TcpState σ
  /-- The settings that wait to be made. -/
  settings : Settings
  /-- The address of this side that a dial starts from, if it was chosen. -/
  origin : Option SocketAddress
  /-- How long a dial may take. -/
  timeout : Option Duration
  inputShutdown : Bool
  outputShutdown : Bool

namespace Tcp

/-- A transport whose socket gets the given settings. -/
def ofSettings {σ : Type} (settings : Settings) : Tcp σ :=
  ⟨.idle, settings, none, none, false, false⟩

/-- A transport that sends without delay, which is the one setting that is made unless somebody asks
for others. -/
def create {σ : Type} : Tcp σ :=
  ofSettings { nodelay := some true }

variable {ω κ σ : Type} (network : Network ω κ σ)

/-! ## Dialing -/

/-- Makes settings one after another on a socket, up to the first that fails.  The socket is not
dialed after a failure, and settings after it are not tried. -/
def prepareAll (socket : κ) : List Setting → ω → Except IoFault Unit × ω
  | [], world => (.ok (), world)
  | setting :: settings, world =>
    match network.prepare setting socket world with
    | (.ok (), world) => prepareAll socket settings world
    | (.error fault, world) => (.error fault, world)

/-- Binds a socket, if an address to start from was chosen. -/
def bindOrigin (origin : Option SocketAddress) (socket : κ) (world : ω) : Except IoFault Unit × ω :=
  match origin with
  | none => (.ok (), world)
  | some address => network.bind address socket world

/-- Connects a new socket to an address: it gets all settings first, then where to start from, and
only then it is connected.  Whichever of the steps fails is the last that is taken. -/
def dialAddress (tcp : Tcp σ) (address : SocketAddress) (world : ω) : Ending DialFault σ × ω :=
  match network.openSocket address.family world with
  | (.error fault, world) => (.failed (.io fault), world)
  | (.ok socket, world) =>
    match prepareAll network socket tcp.settings.toList world with
    | (.error fault, world) => (.failed (.io fault), world)
    | (.ok (), world) =>
      match bindOrigin network tcp.origin socket world with
      | (.error fault, world) => (.failed (.io fault), world)
      | (.ok (), world) => network.connect address tcp.timeout socket world

/-- Whether an address can be dialed from the address that was chosen.  Without a choice every
address can; otherwise the family has to be the same. -/
def reaches (tcp : Tcp σ) (address : SocketAddress) : Bool :=
  tcp.origin.all fun origin => origin.family == address.family

/-- Dials addresses in order up to the first that can be connected.  One that cannot be reached from
the chosen address is passed over in silence, and a fault is put into the log before the next
address is tried.  What is reported if there is none is the latest fault, which is `latest` at the
start. -/
def dialEach (tcp : Tcp σ) : (latest : IoFault) → List SocketAddress → ω → Ending DialFault σ × ω
  | latest, [], world => (.failed (.io latest), world)
  | latest, address :: addresses, world =>
    if tcp.reaches address then
      match dialAddress network tcp address world with
      | (.failed (.io fault), world) =>
        dialEach tcp fault addresses (network.log (.dialFailed address fault) world)
      | ending => ending
    else dialEach tcp latest addresses world

/-- Dials a port at a host: the host is looked up, and then its addresses are dialed.  The network
is told the limit with the lookup and with each address; once the time for the whole dial is over no
other address is tried. -/
def dial (tcp : Tcp σ) (host : String) (port : UInt16) (world : ω) : Ending DialFault σ × ω :=
  match network.lookup host port tcp.timeout world with
  | (.done addresses, world) =>
    dialEach network tcp (.noUsableAddress host port) addresses world
  | (.failed fault, world) => (.failed fault, world)
  | (.abandoned, world) => (.abandoned, world)

/-- Connects the transport to a port at a host, which succeeds once at most.  The time for a dial is
over only if it was limited.  After a dial that failed the transport is idle as before and may be
dialed again. -/
def connect (host : String) (port : UInt16) (tcp : Tcp σ) (world : ω) :
    Ending IoFault Unit × Tcp σ × ω :=
  match tcp.state with
  | .connected _ => (.failed .alreadyConnected, tcp, world)
  | .closed => (.failed .transportClosed, tcp, world)
  | .idle =>
    match dial network tcp host port world with
    | (.done stream, world) =>
      (.done (), { tcp with state := .connected stream }, network.log (.dialed host port) world)
    | (.failed (.io fault), world) => (.failed fault, tcp, world)
    | (.failed .expired, world) =>
      if tcp.timeout.isSome then (.failed .dialTimedOut, tcp, world) else (.abandoned, tcp, world)
    | (.abandoned, world) => (.abandoned, tcp, world)

/-- Closes the transport. -/
def close (tcp : Tcp σ) (world : ω) : Except IoFault Unit × Tcp σ × ω :=
  let world := match tcp.state with
    | .connected stream => network.release stream world
    | _ => world
  (.ok (), { tcp with state := .closed }, world)

/-! ## Questions and actions -/

/-- Whether the transport is connected. -/
def isConnected (tcp : Tcp σ) : Bool :=
  match tcp.state with
  | .connected _ => true
  | _ => false

/-- Whether the transport is closed. -/
def isClosed (tcp : Tcp σ) : Bool :=
  match tcp.state with
  | .closed => true
  | _ => false

/-- An answer that only a stream can give.  Where there is none yet the transport is not connected,
and where there is none any more it is closed. -/
def ofStream {α : Type} (tcp : Tcp σ) (answer : σ → Except IoFault α) : Except IoFault α :=
  match tcp.state with
  | .idle => .error .notConnected
  | .connected stream => answer stream
  | .closed => .error .transportClosed

/-- The value of an option: the stream's, or the one that waits to be set.  An option that nobody
has set is neutral as long as there is no stream. -/
def getOption (o : SocketOption) (tcp : Tcp σ) (world : ω) : Except IoFault o.Value :=
  match tcp.state with
  | .idle => .ok (tcp.settings.value o)
  | .connected stream => network.get o stream world
  | .closed => .error .transportClosed

/-- The answer to a question. -/
def observe : (query : Query) → Tcp σ → ω → query.Reply
  | .isConnected, tcp, _ => tcp.isConnected
  | .isClosed, tcp, _ => tcp.isClosed
  | .isBound, tcp, _ => tcp.origin.isSome || tcp.isConnected
  | .isInputShutdown, tcp, _ => tcp.inputShutdown
  | .isOutputShutdown, tcp, _ => tcp.outputShutdown
  | .timeout, tcp, _ => tcp.timeout
  | .localAddress, tcp, world => tcp.ofStream fun stream => network.localAddress stream world
  | .peerAddress, tcp, world => tcp.ofStream fun stream => network.peerAddress stream world
  | .option o, tcp, world => getOption network o tcp world

/-- Does something with the stream, which none but a connected transport has. -/
def onStream {α : Type} (tcp : Tcp σ) (world : ω) (act : σ → ω → Except IoFault α × ω) :
    Except IoFault α × ω :=
  match tcp.state with
  | .idle => (.error .notConnected, world)
  | .connected stream => act stream world
  | .closed => (.error .transportClosed, world)

/-- Does something to the output, which is nothing where there is no stream.  Unlike `onStream` this
never fails for the lack of one. -/
def onOutput (tcp : Tcp σ) (world : ω) (act : σ → ω → Except IoFault Unit × ω) :
    Except IoFault Unit × ω :=
  match tcp.state with
  | .connected stream => act stream world
  | _ => (.ok (), world)

/-- Sets an option: on the stream, or among those that wait.  What waits replaces what waited for
the same option before, and nothing can be set on a closed transport. -/
def setOption (setting : Setting) (tcp : Tcp σ) (world : ω) : Except IoFault Unit × Tcp σ × ω :=
  match tcp.state with
  | .idle => (.ok (), { tcp with settings := tcp.settings.put setting.option setting.value }, world)
  | .connected stream =>
    let (reply, world) := network.set setting stream world
    (reply, tcp, world)
  | .closed => (.error .transportClosed, tcp, world)

/-- Chooses the address that a dial starts from, for as long as the transport has not been dialed.
A later choice replaces an earlier one. -/
def chooseOrigin (address : SocketAddress) (tcp : Tcp σ) : Except IoFault Unit × Tcp σ :=
  match tcp.state with
  | .idle => (.ok (), { tcp with origin := some address })
  | .connected _ => (.error .alreadyBound, tcp)
  | .closed => (.error .transportClosed, tcp)

/-- Shuts the input down, and keeps that in mind if it went well. -/
def shutdownInput (tcp : Tcp σ) (world : ω) : Except IoFault Unit × Tcp σ × ω :=
  match onStream tcp world network.shutdownInput with
  | (.ok (), world) => (.ok (), { tcp with inputShutdown := true }, world)
  | (.error fault, world) => (.error fault, tcp, world)

/-- Shuts the output down, and keeps that in mind if it went well. -/
def shutdownOutput (tcp : Tcp σ) (world : ω) : Except IoFault Unit × Tcp σ × ω :=
  match onStream tcp world network.shutdownOutput with
  | (.ok (), world) => (.ok (), { tcp with outputShutdown := true }, world)
  | (.error fault, world) => (.error fault, tcp, world)

/-- Does something with the transport. -/
def perform : (action : Action) → Tcp σ → ω → action.Reply × Tcp σ × ω
  | .setTimeout limit, tcp, world => ((), { tcp with timeout := limit }, world)
  | .bind address, tcp, world =>
    let (reply, tcp) := tcp.chooseOrigin address
    (reply, tcp, world)
  | .shutdownInput, tcp, world => shutdownInput network tcp world
  | .shutdownOutput, tcp, world => shutdownOutput network tcp world
  | .set setting, tcp, world => setOption network setting tcp world
  | .sendUrgent byte, tcp, world =>
    let (reply, world) := onStream tcp world (network.sendUrgent byte)
    (reply, tcp, world)
  | .read most, tcp, world =>
    let (reply, world) := onStream tcp world (network.read most)
    (reply, tcp, world)
  | .write bytes, tcp, world =>
    let (reply, world) := onStream tcp world (network.write bytes)
    (reply, tcp, world)
  | .flush, tcp, world =>
    let (reply, world) := onOutput tcp world network.flush
    (reply, tcp, world)
  | .finish, tcp, world =>
    let (reply, world) := onOutput tcp world network.finish
    (reply, tcp, world)

end Tcp

end RelayRoute
