import RelayRoute.Ip.Printer
import RelayRoute.Ip.Reader

/-!
# Endpoints

The address of one end of a connection as the system knows it: an IP address with a port, where IPv6
adds flow information and a scope, or the path of a local socket.

* `SocketAddress` — an IP address with a port, and `SocketAddress.text` how it is written: an IPv6
  address is bracketed, and a scope follows it behind a percent sign;
* `SocketAddress.read?` — the text of a socket address, read from the front by `readV4?` or
  `readV6?`;
* `Endpoint` — one end of a connection.
-/

namespace RelayRoute

/-- An IP address with a port. -/
inductive SocketAddress
  | v4 (ip : Ipv4) (port : UInt16)
  | v6 (ip : Ipv6) (port : UInt16) (flow : UInt32) (scope : UInt32)
  deriving DecidableEq

/-- The address of one end of a connection.  The path of a local socket is known to the system, but
no proxy can be asked for it. -/
inductive Endpoint
  | inet (address : SocketAddress)
  | localPath (path : String)
  deriving DecidableEq

/-- A port: a decimal number of any length, leading zeros included, whose value has sixteen bits. -/
def portFormat : NumeralFormat := ⟨10, none, true, 65536⟩

/-- The number of a scope, which is a decimal number like that of a port and has thirty-two bits. -/
def scopeFormat : NumeralFormat := ⟨10, none, true, 4294967296⟩

namespace SocketAddress

/-- The IP address. -/
def ip : SocketAddress → Ip
  | .v4 ip _ => .v4 ip
  | .v6 ip _ _ _ => .v6 ip

/-- The port. -/
def port : SocketAddress → UInt16
  | .v4 _ port => port
  | .v6 _ port _ _ => port

/-- The family of the address. -/
def family (address : SocketAddress) : Family :=
  address.ip.family

/-- The address of a port at an IP address, without flow information and scope. -/
def ofIp : Ip → UInt16 → SocketAddress
  | .v4 ip, port => .v4 ip port
  | .v6 ip, port => .v6 ip port 0 0

/-- The text of the address.  Flow information is not written, and a scope only if it is not zero.
-/
def text : SocketAddress → String
  | .v4 ip port => (Ip.v4 ip).text ++ ":" ++ Digits.decimal port.toNat
  | .v6 ip port _ scope =>
    let zone := if scope = 0 then "" else "%" ++ Digits.decimal scope.toNat
    "[" ++ (Ip.v6 ip).text ++ zone ++ "]:" ++ Digits.decimal port.toNat

/-- The port behind a colon that a text starts with. -/
def readPort? (cs : List Char) : Option (UInt16 × List Char) := do
  let (n, rest) ← portFormat.read? (← after? ':' cs)
  return (UInt16.ofNat n, rest)

/-- The scope behind a percent sign that a text starts with; zero if there is none.  A percent sign
with no number behind it is left where it is. -/
def readScope (cs : List Char) : UInt32 × List Char :=
  match (after? '%' cs).bind scopeFormat.read? with
  | some (n, rest) => (UInt32.ofNat n, rest)
  | none => (0, cs)

/-- The address with an IPv4 host that a text starts with, and what follows its port. -/
def readV4? (cs : List Char) : Option (SocketAddress × List Char) := do
  let (ip, cs) ← Ipv4.readFront? cs
  let (port, cs) ← readPort? cs
  return (.v4 ip port, cs)

/-- The address with a bracketed IPv6 host that a text starts with, and what follows its port.  A
scope may stand before the closing bracket; flow information is zero. -/
def readV6? (cs : List Char) : Option (SocketAddress × List Char) := do
  let (ip, cs) ← Ipv6.readFront? (← after? '[' cs)
  let (scope, cs) := readScope cs
  let (port, cs) ← readPort? (← after? ']' cs)
  return (.v6 ip port 0 scope, cs)

/-- The address that a whole text is: nothing may be left behind the port.  IPv4 is tried first. -/
def read? (cs : List Char) : Option SocketAddress :=
  match (readV4? cs).or (readV6? cs) with
  | some (address, []) => some address
  | _ => none

/-- The address that a string is. -/
def ofText? (text : String) : Option SocketAddress :=
  read? text.toList

end SocketAddress

end RelayRoute
