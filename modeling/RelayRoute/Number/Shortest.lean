import RelayRoute.Number.Binary64
import RelayRoute.Number.Digits

/-!
# Shortest decimal texts

The decimal text of a binary floating-point value: the fewest digits that are read back as the
value, of these the nearest to it, of two equally near the larger.  The digits stand at their
places, without an exponent, and a whole number is written with one zero behind the point.

* `Interval`, `interval` — the numbers that are read as a value;
* `Interval.multiple?`, `Interval.search` — decimal numbers in the interval, with one digit more at
  each step;
* `shortest` — the first that is found;
* `text` — the decimal text of a value.
-/

namespace RelayRoute.Binary64

/-- A decimal number: `digits * 10 ^ exponent`. -/
structure Decimal where
  digits : Nat
  exponent : Int

/-- A positive value and the ends of the interval of numbers that are read as it, in units of
`1 / unit`. -/
structure Interval where
  low : Nat
  value : Nat
  high : Nat
  unit : Nat
  /-- Whether the ends belong to the interval. -/
  closed : Bool

/-- The interval of a positive value.  Below a power of two the neighbour is half as far away. -/
def interval (mantissa : Nat) (exponent : Int) : Interval :=
  let below := if mantissa = power 2 52 ∧ -1074 < exponent then 1 else 2
  let e := exponent - 2
  let scale := power 2 e
  ⟨(4 * mantissa - below) * scale, 4 * mantissa * scale, (4 * mantissa + 2) * scale,
    power 2 (-e), mantissa % 2 = 0⟩

namespace Interval

/-- The least `p` with the value below `10 ^ p`. -/
def magnitude (i : Interval) : Int :=
  if i.unit ≤ i.value then (Digits.write 10 (i.value / i.unit)).length
  else 1 - ((Digits.write 10 ((i.unit - 1) / i.value)).length : Int)

/-- Whether a decimal number is in the interval. -/
def holds (i : Interval) (d : Decimal) : Bool :=
  let num := d.digits * i.unit * power 10 d.exponent
  let den := power 10 (-d.exponent)
  if i.closed then i.low * den ≤ num && num ≤ i.high * den
  else i.low * den < num && num < i.high * den

/-- The multiple of a power of ten that is nearest to the value among those in the interval; of two
equally near the larger. -/
def multiple? (i : Interval) (exponent : Int) : Option Decimal :=
  let num := i.value * power 10 (-exponent)
  let den := i.unit * power 10 exponent
  let below : Decimal := ⟨num / den, exponent⟩
  let above : Decimal := ⟨num / den + 1, exponent⟩
  let first := if 2 * (num % den) < den then below else above
  let second := if 2 * (num % den) < den then above else below
  if i.holds first then some first else if i.holds second then some second else none

/-- The first decimal number in the interval on the grids from `size` digits on, with one digit more
at each step. -/
def search (i : Interval) (magnitude : Int) (size : Nat) : Nat → Option Decimal
  | 0 => none
  | steps + 1 =>
    match i.multiple? (magnitude - size) with
    | some d => some d
    | none => search i magnitude (size + 1) steps

end Interval

/-- The shortest decimal number that is read as a positive value.  The search starts with the power
of ten above the value; seventeen digits are always enough. -/
def shortest (mantissa : Nat) (exponent : Int) : Decimal :=
  let i := interval mantissa exponent
  (i.search i.magnitude 0 18).getD ⟨0, 0⟩

/-- The digits of a decimal number at their places, with a point. -/
def Decimal.positional (d : Decimal) : List Char :=
  let digits := Digits.write 10 d.digits
  let behind := (-d.exponent).toNat
  if 0 ≤ d.exponent then digits ++ List.replicate d.exponent.toNat '0' ++ ['.', '0']
  else if behind < digits.length then
    digits.take (digits.length - behind) ++ '.' :: digits.drop (digits.length - behind)
  else ['0', '.'] ++ List.replicate (behind - digits.length) '0' ++ digits

/-- The decimal text of a value.  A zero keeps its sign. -/
def text : Binary64 → String
  | .finite negative mantissa exponent =>
    let digits := if mantissa = 0 then ['0', '.', '0'] else (shortest mantissa exponent).positional
    String.ofList (if negative then '-' :: digits else digits)
  | .infinite negative => if negative then "-inf" else "inf"
  | .undefined => "NaN"

end RelayRoute.Binary64
