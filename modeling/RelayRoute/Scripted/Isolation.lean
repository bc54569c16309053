import RelayRoute.Network
import RelayRoute.Scripted.Stage

/-!
# A system without a network

The network of a system whose interfaces are down: IP literals are their own addresses and other
hosts have none, sockets can be opened and take every setting, but no address can be reached.  An
IPv4 socket can be bound to any address; an IPv6 socket only to all of this side's or to one that
stands for an IPv4 address.

* `literalAddresses` — the addresses that the system knows;
* `bindReply` — what binding a socket comes to;
* `isolation` — the network, in which there are no streams.
-/

namespace RelayRoute.Scripted

/-- What the system says about a host that is no IP literal. -/
def lookupFault : IoFault :=
  .described .other "failed to lookup address information: Temporary failure in name resolution"

/-- Whether an IPv6 socket can be bound to an address. -/
def isBindable (ip : Ipv6) : Bool :=
  ip.words.all (· == 0) || ip.unmap?.isSome

/-- Whether an address is for a group of receivers. -/
def isGroup (ip : Ipv6) : Bool :=
  match ip.words with
  | word :: _ => 0xff00 ≤ word
  | [] => false

/-- The reply to binding a socket. -/
def bindReply : SocketAddress → Except IoFault Unit
  | .v4 _ _ => .ok ()
  | .v6 ip _ _ _ =>
    if isBindable ip then .ok ()
    else if isGroup ip then .error (.system .invalidArgument)
    else .error (.system .addressNotAvailable)

/-- The addresses of a port at a host that is an IP literal. -/
def literalAddresses (host : String) (port : UInt16) : Except IoFault (List SocketAddress) :=
  match Ip.ofText? host with
  | some ip => .ok [SocketAddress.ofIp ip port]
  | none => .error lookupFault

/-- The network of an isolated system.  A socket is known by its family; there are no streams. -/
def isolation : Network Stage Family Empty where
  lookup host port _ stage :=
    match literalAddresses host port with
    | .ok addresses => (.done addresses, stage)
    | .error fault => (.failed (.io fault), stage)
  openSocket family stage := (.ok family, stage)
  prepare _ _ stage := (.ok (), stage)
  bind address _ stage := (bindReply address, stage)
  connect _ _ _ stage := (.failed (.io (.system .networkUnreachable)), stage)
  localAddress stream := nomatch stream
  peerAddress stream := nomatch stream
  get _ stream := nomatch stream
  set _ stream := nomatch stream
  shutdownInput stream := nomatch stream
  shutdownOutput stream := nomatch stream
  sendUrgent _ stream := nomatch stream
  read _ stream := nomatch stream
  write _ stream := nomatch stream
  flush stream := nomatch stream
  finish stream := nomatch stream
  release stream := nomatch stream
  log := Stage.log

end RelayRoute.Scripted
