/-!
# IP addresses

The two families of addresses, as four octets and as eight words, and the passage from an IPv6
address that stands for an IPv4 one to that address.

* `Ipv4.words`, `Ipv4.ofWords` — an IPv4 address as the last two words of an IPv6 address;
* `Ipv6.unmap?` — the IPv4 address that an address of the form `::ffff:a.b.c.d` stands for;
* `Ip.canonical` — an address of either family with that form turned into IPv4;
* `Ip.isV4`, `Ip.family` — what callers ask about an address.
-/

namespace RelayRoute

/-- An IPv4 address: four octets. -/
structure Ipv4 where
  a : UInt8
  b : UInt8
  c : UInt8
  d : UInt8
  deriving DecidableEq

/-- An IPv6 address: eight words.  That there are eight is part of the address, so nobody has to
check it again. -/
structure Ipv6 where
  words : List UInt16
  length_words : words.length = 8
  deriving DecidableEq

/-- An address of either family. -/
inductive Ip
  | v4 (address : Ipv4)
  | v6 (address : Ipv6)
  deriving DecidableEq

/-- The family of an address. -/
inductive Family
  | v4
  | v6
  deriving DecidableEq

namespace Ipv4

/-- The word that two octets make. -/
def word (high low : UInt8) : UInt16 :=
  UInt16.ofNat (high.toNat * 256 + low.toNat)

/-- The address as the last two words of an IPv6 address. -/
def words (ip : Ipv4) : List UInt16 :=
  [word ip.a ip.b, word ip.c ip.d]

/-- The address that two words hold. -/
def ofWords (high low : UInt16) : Ipv4 :=
  ⟨UInt8.ofNat (high.toNat / 256), UInt8.ofNat (high.toNat % 256),
    UInt8.ofNat (low.toNat / 256), UInt8.ofNat (low.toNat % 256)⟩

end Ipv4

namespace Ipv6

/-- The address with the given words, if there are eight. -/
def ofWords? (words : List UInt16) : Option Ipv6 :=
  if h : words.length = 8 then some ⟨words, h⟩ else none

/-- The IPv4 address that an address of the form `::ffff:a.b.c.d` stands for. -/
def unmap? (ip : Ipv6) : Option Ipv4 :=
  match ip.words with
  | [0, 0, 0, 0, 0, 0xffff, high, low] => some (Ipv4.ofWords high low)
  | _ => none

end Ipv6

namespace Ip

/-- The address with an IPv4 address in IPv6 form turned into IPv4.  Doing so a second time changes
nothing. -/
def canonical : Ip → Ip
  | .v4 ip => .v4 ip
  | .v6 ip =>
    match ip.unmap? with
    | some inner => .v4 inner
    | none => .v6 ip

/-- Whether the address is an IPv4 one. -/
def isV4 : Ip → Bool
  | .v4 _ => true
  | .v6 _ => false

/-- The family of the address. -/
def family : Ip → Family
  | .v4 _ => .v4
  | .v6 _ => .v6

end Ip

end RelayRoute
