import RelayRoute.Config.Error

/-!
# Reading numbers and strings

What the numbers and strings of a configuration text stand for.  A number in a place for numbers is
a binary floating-point value; anywhere else a number without a point and an exponent is an integer
of 64 bits.  A character beyond the basic plane may be written as two halves of four digits.

* `readParts`, `readString` — strings, from the parts that the parser has told apart;
* `readHexadecimal`, `decimalValue`, `readFloat` — numbers in a place for numbers;
* `readInteger`, `classifyNumber` — numbers in any other place, where they are only told apart.
-/

namespace RelayRoute.Config

open Json5

/-- The character that two halves make. -/
def joinHalves (lead trail : Nat) : Char :=
  Char.ofNat (((lead - 0xd800) <<< 10) ||| ((trail - 0xdc00) + 0x10000))

/-- The character that a backslash before a character stands for. -/
def unescape (c : Char) : Char :=
  if c = 'b' then '\x08'
  else if c = 'f' then '\x0c'
  else if c = 'n' then '\n'
  else if c = 'r' then '\r'
  else if c = 't' then '\t'
  else if c = 'v' then '\x0b'
  else if c = '0' then '\x00'
  else c

/-- The number that the characters of a part make in base sixteen. -/
def partNumber? : Part → Option Nat
  | .plain c | .escaped c => Digits.value? 16 c
  | .byte n | .unit n => some n

/-- The text that parts stand for.  After the first half of a character the next part has to be the
second half, in whatever way it is written. -/
def readParts : List Part → Except Complaint (List Char)
  | [] => .ok []
  | .plain c :: rest => (readParts rest).map (c :: ·)
  | .escaped c :: rest => (readParts rest).map (unescape c :: ·)
  | .byte n :: rest => (readParts rest).map (Char.ofNat n :: ·)
  | .unit n :: rest =>
    if 0xdc00 ≤ n ∧ n ≤ 0xdfff then .error .unexpectedTrail
    else if 0xd800 ≤ n ∧ n < 0xdc00 then
      match rest with
      | [] => .error .missingTrail
      | part :: rest =>
        match partNumber? part with
        | none => .error .hexadecimal
        | some trail =>
          if 0xdc00 ≤ trail ∧ trail ≤ 0xdfff then (readParts rest).map (joinHalves n trail :: ·)
          else .error .expectingTrail
    else (readParts rest).map (Char.ofNat n :: ·)

/-- The string that parts stand for. -/
def readString (parts : List Part) : Except Complaint String :=
  (readParts parts).map String.ofList

/-- The number that digits in base sixteen stand for; it has at most 32 bits, and there is a
complaint about any that has more. -/
def readHexadecimal (digits : List Nat) : Except Complaint Nat :=
  let n := Digits.ofDigits 16 digits
  if n < 4294967296 then .ok n else .error .hexadecimal

/-- The value nearest to a decimal number.  The point moves the exponent by as many places as there
are digits behind it. -/
def decimalValue (sign : Sign) (whole : List Nat) (fraction : Option (List Nat))
    (exponent : Option Int) : Binary64 :=
  let behind := fraction.getD []
  let digits := whole ++ behind
  Binary64.ofDecimal (sign == .minus) (Digits.ofDigits 10 digits) digits.length
    (exponent.getD 0 - behind.length)

/-- A number as a floating-point value.  A word may have a minus sign and no plus sign, digits in
base sixteen no sign at all. -/
def readFloat (number : Number) : Except Complaint Binary64 :=
  match number.body with
  | .infinity =>
    if number.sign = .plus then .error .numberTooLarge else .ok (.infinite (number.sign == .minus))
  | .notNumber => if number.sign = .plus then .error .numberTooLarge else .ok .undefined
  | .hexadecimal digits =>
    if number.sign = .none then
      (readHexadecimal digits).map fun n => Binary64.ofDecimal false n (Digits.write 10 n).length 0
    else .error .number
  | .decimal whole fraction exponent =>
    let value := decimalValue number.sign whole fraction exponent
    if value.isFinite then .ok value else .error .numberTooLarge

/-- Digits as an integer of 64 bits.  One that has more of them is refused, also where nobody wants
it. -/
def readInteger (sign : Sign) (digits : List Nat) : Except Complaint Int :=
  let n := Digits.ofDigits 10 digits
  if sign = .minus then
    if 2 * n ≤ UInt64.size then .ok (-(n : Int)) else .error .integer
  else if 2 * n < UInt64.size then .ok n else .error .integer

/-- What a number is in a place that is not for numbers.  Here digits without point or exponent are
an integer, and one that is too long is a complaint of its own. -/
def classifyNumber (number : Number) : Except Complaint Found :=
  match number.body with
  | .infinity | .notNumber =>
    if number.sign = .plus then .error .integer else (readFloat number).map .float
  | .hexadecimal digits =>
    if number.sign = .none then (readHexadecimal digits).map fun n => .integer n
    else if digits.contains 14 then .error .number
    else .error .integer
  | .decimal whole none none => (readInteger number.sign whole).map .integer
  | .decimal _ _ _ => (readFloat number).map .float

end RelayRoute.Config
