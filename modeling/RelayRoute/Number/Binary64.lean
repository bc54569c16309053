/-!
# Binary floating point

The values of the 64-bit binary floating-point format, exactly.

* `divideEven` — a quotient rounded to a natural number, a half to the even neighbour;
* `exponentFor`, `nearest` — a quotient of natural numbers rounded to the format;
* `ofDecimal` — the value nearest to a decimal number;
* `truncate` — a value cut to a natural number below a bound.

That `nearest` gives the nearest of all values of the format is shown for natural numbers by
`isNearest_roundWhole`.
-/

namespace RelayRoute

/-- A value of the format.  A finite one is `mantissa * 2 ^ exponent` with its sign. -/
inductive Binary64
  | finite (negative : Bool) (mantissa : Nat) (exponent : Int)
  | infinite (negative : Bool)
  | undefined
  deriving DecidableEq

namespace Binary64

/-- A power, whose exponent counts as zero if it is below. -/
def power (base : Nat) (exponent : Int) : Nat :=
  Nat.pow base exponent.toNat

/-- A quotient rounded to the nearest natural number, a half to the even neighbour. -/
def divideEven (num den : Nat) : Nat :=
  let q := num / den
  let r := num % den
  if 2 * r < den then q else if den < 2 * r then q + 1 else q + q % 2

/-- A quotient in units of a power of two, rounded. -/
def roundAt (num den : Nat) (exponent : Int) : Nat :=
  if 0 ≤ exponent then divideEven num (den * power 2 exponent)
  else divideEven (num * power 2 (-exponent)) den

/-- The exponent at which a positive quotient has fifty-three binary digits, or the least exponent
of the format if that is larger. -/
def exponentFor (num den : Nat) : Int :=
  let guess : Int := (num.log2 : Int) - den.log2 - 53
  let small := if 0 ≤ guess then num < den * power 2 (guess + 53)
    else num * power 2 (-guess) < den * power 2 53
  max (-1074) (if small then guess else guess + 1)

/-- The value of the format nearest to a quotient with its sign.  A quotient that is rounded up to
the next power of two moves on to the next exponent, and one that is too large is infinite. -/
def nearest (negative : Bool) (num den : Nat) : Binary64 :=
  if num = 0 then .finite negative 0 0
  else
    let exponent := exponentFor num den
    let rounded := roundAt num den exponent
    let (mantissa, exponent) :=
      if rounded = power 2 53 then (power 2 52, exponent + 1) else (rounded, exponent)
    if 971 < exponent then .infinite negative else .finite negative mantissa exponent

/-- The value nearest to `digits * 10 ^ exponent`; `size` is a number of decimal digits that
`digits` does not exceed, by which far too large and far too small numbers are told without
computing them. -/
def ofDecimal (negative : Bool) (digits size : Nat) (exponent : Int) : Binary64 :=
  if digits = 0 then .finite negative 0 0
  else if 400 < exponent then .infinite negative
  else if exponent + size < -400 then .finite negative 0 0
  else if 0 ≤ exponent then nearest negative (digits * power 10 exponent) 1
  else nearest negative digits (power 10 (-exponent))

/-- The value as a natural number: the fraction is cut off, what is below zero becomes zero, what is
not below the bound becomes its predecessor, and an undefined value is zero. -/
def truncate (bound : Nat) : Binary64 → Nat
  | .finite true _ _ => 0
  | .finite false mantissa exponent =>
    min (bound - 1)
      (if 0 ≤ exponent then mantissa * power 2 exponent else mantissa / power 2 (-exponent))
  | .infinite negative => if negative then 0 else bound - 1
  | .undefined => 0

/-- Whether the value is finite. -/
def isFinite : Binary64 → Bool
  | .finite .. => true
  | _ => false

end Binary64

end RelayRoute
