import RelayRoute.Scripted.Environment

/-!
# A system with a network

The network of a system that reaches some addresses: it knows a few hosts by name and IP literals by
what they are, refuses to set certain options, and connects to the addresses that it reaches.
Binding a socket is what it is for an isolated system.

* `Reach` — what a network knows, refuses and reaches;
* `Reach.network` — the network, whose sockets are known by their family and whose streams by where
  they lead;
* `Reach.environment` — TCP transports over it, and proxies that relay to anybody.
-/

namespace RelayRoute.Scripted

/-- What a network knows, refuses and reaches. -/
structure Reach where
  /-- Hosts with their addresses. -/
  hosts : List (String × List SocketAddress) := []
  /-- The options that cannot be set. -/
  refused : List SocketOption := []
  /-- The addresses that can be connected to. -/
  reached : List SocketAddress := []

namespace Reach

variable (reach : Reach)

/-- The addresses of a port at a host. -/
def addresses (host : String) (port : UInt16) : Except IoFault (List SocketAddress) :=
  match reach.hosts.find? (·.1 == host) with
  | some (_, found) => .ok found
  | none => literalAddresses host port

/-- The reply to making a setting. -/
def settingReply (setting : Setting) : Except IoFault Unit :=
  if setting.option ∈ reach.refused then .error (.bare .invalidInput) else .ok ()

/-- How a dial of an address ends. -/
def connectEnding (address : SocketAddress) : Ending DialFault SocketAddress :=
  if address ∈ reach.reached then .done address
  else .failed (.io (.system .networkUnreachable))

/-- The network.  A socket is known by its family, and a stream by the address that it leads to;
there is nothing to be read, and everything that is written is taken. -/
def network : Network Stage Family SocketAddress where
  lookup host port _ stage :=
    match reach.addresses host port with
    | .ok found => (.done found, stage)
    | .error fault => (.failed (.io fault), stage)
  openSocket family stage := (.ok family, stage)
  prepare setting _ stage := (reach.settingReply setting, stage)
  bind address _ stage := (bindReply address, stage)
  connect address _ _ stage := (reach.connectEnding address, stage)
  localAddress _ _ := .error (.system .addressNotAvailable)
  peerAddress stream _ := .ok stream
  get option _ _ := .ok option.neutral
  set setting _ stage := (reach.settingReply setting, stage)
  shutdownInput _ stage := (.ok (), stage)
  shutdownOutput _ stage := (.ok (), stage)
  sendUrgent _ _ stage := (.ok (), stage)
  read _ _ stage := (.ok [], stage)
  write bytes _ stage := (.ok bytes.length, stage)
  flush _ stage := (.ok (), stage)
  finish _ stage := (.ok (), stage)
  release _ stage := stage
  log := Stage.log

/-- TCP transports over the network, and proxies that relay to anybody. -/
def environment : Environment Stage (Tcp SocketAddress) Unit Resolver where
  observe := Tcp.observe reach.network
  perform := Tcp.perform reach.network
  close := Tcp.close reach.network
  create _ stage := (Tcp.create, stage)
  dial proxy tcp stage :=
    let (ending, tcp, stage) :=
      Tcp.connect reach.network proxy.address.host.text proxy.address.port tcp stage
    (ending, (), tcp, stage)
  markReached _ stage := ((), stage)
  request _ _ tcp stage := (.done (), (), tcp, stage)
  lookup := Resolver.lookup
  systemResolver := .system
  log := Stage.log

end Reach

end RelayRoute.Scripted
