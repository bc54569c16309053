import RelayRoute.LogRecord
import RelayRoute.Transport

/-!
# The network of a system

What a system provides for connections of its own: it looks hosts up, opens sockets, connects them,
and then carries streams.  Sockets and streams are handles, and what happens to them happens in the
world.  A socket that has not been connected is of another type than a stream, so nothing can be
sent over it.  Looking up and connecting wait for others; they may be limited in time, and whoever
waits may give up.

The transports of `Tcp` are made of a network.
-/

namespace RelayRoute

/-- Why a wait for the network came to nothing. -/
inductive DialFault
  | io (fault : IoFault)
  /-- The time for the whole dial was over. -/
  | expired

/-- What a system does in a world `ω` with sockets `κ` that are not connected and streams `σ`.  Each
operation gives its answer and the world after it. -/
structure Network (ω κ σ : Type) where
  /-- The addresses of a port at a host. -/
  lookup : (host : String) → (port : UInt16) → (limit : Option Duration) → ω →
    Ending DialFault (List SocketAddress) × ω
  /-- A new socket. -/
  openSocket : Family → ω → Except IoFault κ × ω
  /-- Makes a setting on a socket. -/
  prepare : Setting → κ → ω → Except IoFault Unit × ω
  /-- Binds a socket to an address of this side. -/
  bind : SocketAddress → κ → ω → Except IoFault Unit × ω
  /-- Connects a socket. -/
  connect : SocketAddress → (limit : Option Duration) → κ → ω → Ending DialFault σ × ω
  localAddress : σ → ω → Except IoFault SocketAddress
  peerAddress : σ → ω → Except IoFault SocketAddress
  /-- The value an option has on a stream. -/
  get : (option : SocketOption) → σ → ω → Except IoFault option.Value
  /-- Makes a setting on a stream. -/
  set : Setting → σ → ω → Except IoFault Unit × ω
  shutdownInput : σ → ω → Except IoFault Unit × ω
  shutdownOutput : σ → ω → Except IoFault Unit × ω
  sendUrgent : UInt8 → σ → ω → Except IoFault Unit × ω
  read : (most : Nat) → σ → ω → Except IoFault (List UInt8) × ω
  write : List UInt8 → σ → ω → Except IoFault Nat × ω
  flush : σ → ω → Except IoFault Unit × ω
  finish : σ → ω → Except IoFault Unit × ω
  /-- Lets go of a stream. -/
  release : σ → ω → ω
  /-- Adds a record to the log. -/
  log : LogRecord → ω → ω

end RelayRoute
