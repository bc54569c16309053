import RelayRoute.Ip
import RelayRoute.Number.Digits
import RelayRoute.Text.Split

/-!
# Printing IP addresses

An IPv4 address is printed as four decimal numbers with dots between them.  An IPv6 address is
printed as words in base sixteen with colons between them; the longest run of zero words, the first
of several and only if it is longer than one word, becomes `::`; an address that stands for an IPv4
one ends in that.

* `Ipv4.print`, `Ipv6.print`, `Ip.print` — the texts of addresses as lists of characters;
* `Ipv6.longestZeroRun`, `Ipv6.printCompressed` — the run of zeros that is left out, and the words
  around it;
* `Ip.text` — the text of an address as a string, which is read as the same address again
  (`Ip.ofText?_text`).
-/

namespace RelayRoute

/-- The text of an IPv4 address: its octets in base ten, with dots between them. -/
def Ipv4.print (ip : Ipv4) : List Char :=
  Text.join '.' ([ip.a, ip.b, ip.c, ip.d].map fun octet => Digits.write 10 octet.toNat)

namespace Ipv6

/-- The start and the length of the longest run of zeros, the first of several. -/
def longestZeroRun : List UInt16 → Nat × Nat
  | [] => (0, 0)
  | w :: ws =>
    let here := ((w :: ws).takeWhile (· == 0)).length
    let (start, length) := longestZeroRun ws
    if length ≤ here then (0, here) else (start + 1, length)

/-- Words with colons between them. -/
def printWords (words : List UInt16) : List Char :=
  Text.join ':' (words.map fun word => Digits.write 16 word.toNat)

/-- The text of words, the longest run of zeros left out.  A single zero is written, as a run of one
would not become shorter. -/
def printCompressed (words : List UInt16) : List Char :=
  let (start, length) := longestZeroRun words
  if 1 < length then
    printWords (words.take start) ++ [':', ':'] ++ printWords (words.drop (start + length))
  else printWords words

/-- The text of an IPv6 address.  One that stands for an IPv4 address ends in that address; all
others are words. -/
def print (ip : Ipv6) : List Char :=
  match ip.unmap? with
  | some inner => "::ffff:".toList ++ inner.print
  | none => printCompressed ip.words

end Ipv6

/-- The text of an address. -/
def Ip.print : Ip → List Char
  | .v4 ip => ip.print
  | .v6 ip => ip.print

/-- The text of an address as a string. -/
def Ip.text (ip : Ip) : String :=
  String.ofList ip.print

end RelayRoute
