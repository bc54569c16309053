import RelayRoute.Ip
import RelayRoute.Number.Numeral

/-!
# Reading IP addresses

Each reader takes an address from the front of a text and gives the text after it.  An IPv6 address
is up to eight words with colons between them; the last two words may be written as an IPv4 address,
and `::` stands once for one or more zero words.

* `octetFormat`, `wordFormat` — what octets and words look like;
* `Ipv4.readFront?`, `Ipv6.readFront?`, `Ip.readFront?` — the address that a text starts with;
* `Ipv6.readWords` — the words on one side of `::`, or all of them;
* `Ip.read?`, `Ip.ofText?` — the address that a whole text is.
-/

namespace RelayRoute

/-- An octet: up to three decimal digits with a value below two hundred and fifty-six, and no zero
in front of another digit. -/
def octetFormat : NumeralFormat := ⟨10, some 3, false, 256⟩

/-- A word: up to four digits in base sixteen. -/
def wordFormat : NumeralFormat := ⟨16, some 4, true, 65536⟩

/-- What follows a separator, if the text starts with it. -/
def after? (sep : Char) : List Char → Option (List Char)
  | [] => none
  | c :: cs => if c = sep then some cs else none

namespace Ipv4

/-- The octet a text starts with. -/
def readOctet? (cs : List Char) : Option (UInt8 × List Char) :=
  (octetFormat.read? cs).map fun (n, rest) => (UInt8.ofNat n, rest)

/-- The address a text starts with. -/
def readFront? (cs : List Char) : Option (Ipv4 × List Char) := do
  let (a, cs) ← readOctet? cs
  let (b, cs) ← readOctet? (← after? '.' cs)
  let (c, cs) ← readOctet? (← after? '.' cs)
  let (d, cs) ← readOctet? (← after? '.' cs)
  return (⟨a, b, c, d⟩, cs)

end Ipv4

namespace Ipv6

/-- The word a text starts with. -/
def readWord? (cs : List Char) : Option (UInt16 × List Char) :=
  (wordFormat.read? cs).map fun (n, rest) => (UInt16.ofNat n, rest)

/-- The words a text starts with, whether an IPv4 address stands for the last two of them, and what
follows. -/
structure Words where
  words : List UInt16
  /-- Whether the last two words were written as an IPv4 address. -/
  endsInIpv4 : Bool
  rest : List Char

/-- The words a text starts with, at most `room` of them.  A colon stands in front of each, unless
it is the first.  An IPv4 address may stand for the last two, if there is room for two. -/
def readWords : (room : Nat) → (first : Bool) → List Char → Words
  | 0, _, cs => ⟨[], false, cs⟩
  | room + 1, first, cs =>
    let start? := if first then some cs else after? ':' cs
    match if room = 0 then none else start?.bind Ipv4.readFront? with
    | some (ip, rest) => ⟨ip.words, true, rest⟩
    | none =>
      match start?.bind readWord? with
      | some (word, rest) =>
        let following := readWords room false rest
        ⟨word :: following.words, following.endsInIpv4, following.rest⟩
      | none => ⟨[], false, cs⟩

/-- The address a text starts with. -/
def readFront? (cs : List Char) : Option (Ipv6 × List Char) :=
  let front := readWords 8 true cs
  if front.words.length = 8 then (ofWords? front.words).map (·, front.rest)
  else if front.endsInIpv4 then none
  else do
    let rest ← after? ':' (← after? ':' front.rest)
    let back := readWords (7 - front.words.length) true rest
    let zeros := List.replicate (8 - front.words.length - back.words.length) 0
    (ofWords? (front.words ++ zeros ++ back.words)).map (·, back.rest)

end Ipv6

namespace Ip

/-- The address a text starts with. -/
def readFront? (cs : List Char) : Option (Ip × List Char) :=
  match Ipv4.readFront? cs with
  | some (ip, rest) => some (.v4 ip, rest)
  | none => (Ipv6.readFront? cs).map fun (ip, rest) => (.v6 ip, rest)

/-- The address that a whole text is.  Nothing may be left behind it, neither a blank nor a scope.
-/
def read? (cs : List Char) : Option Ip :=
  match readFront? cs with
  | some (ip, []) => some ip
  | _ => none

/-- The address that a string is. -/
def ofText? (text : String) : Option Ip :=
  read? text.toList

end Ip

end RelayRoute
