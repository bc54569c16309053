/-!
# JSON5 values as written

The tree of a JSON5 text before anything is made of it: numbers keep the way they are written and
strings the parts they consist of, since both are judged only where the value is used.  Each value
and each key carries its place, counted in characters from there to the end of the text.

* `Number`, `NumberBody`, `Sign` — numbers as written;
* `Part` — what strings and identifiers consist of;
* `Value`, `Key` — values and the keys of objects;
* `Position`, `Position.ofPlace` — the line and column of a place.
-/

namespace RelayRoute.Json5

/-- The sign in front of a number. -/
inductive Sign
  | none
  | plus
  | minus
  deriving DecidableEq

/-- What follows the sign of a number. -/
inductive NumberBody
  /-- Digits in base sixteen. -/
  | hexadecimal (digits : List Nat)
  /-- Digits before and after the point, and the exponent; point and exponent may be missing. -/
  | decimal (whole : List Nat) (fraction : Option (List Nat)) (exponent : Option Int)
  | infinity
  | notNumber
  deriving DecidableEq

/-- A number as written, before it is given a value. -/
structure Number where
  sign : Sign
  body : NumberBody
  deriving DecidableEq

/-- A part of a string or of an identifier. -/
inductive Part
  /-- A character that stands for itself. -/
  | plain (c : Char)
  /-- A backslash before a character. -/
  | escaped (c : Char)
  /-- Two digits in base sixteen. -/
  | byte (value : Nat)
  /-- Four digits in base sixteen. -/
  | unit (value : Nat)
  deriving DecidableEq

/-- A key of an object as written, with the place where it starts. -/
structure Key where
  place : Nat
  parts : List Part
  deriving DecidableEq

/-- A value as written.  Strings are kept in parts and numbers as digits, since what they stand for,
and whether it is anything, depends on who reads them. -/
inductive Value
  | null (place : Nat)
  | boolean (place : Nat) (value : Bool)
  | number (place : Nat) (value : Number)
  | string (place : Nat) (parts : List Part)
  | array (place : Nat) (items : List Value)
  | object (place : Nat) (entries : List (Key × Value))

/-- Where a value starts. -/
def Value.place : Value → Nat
  | null place | boolean place _ | number place _ | string place _ | array place _
  | object place _ => place

/-- A line and a column, both counted from one; a column is a character. -/
structure Position where
  line : Nat
  column : Nat
  deriving DecidableEq

/-- The position after a text.  A line ends with a line feed, with or without a carriage return. -/
def Position.after (p : Position) : List Char → Position
  | [] => p
  | '\r' :: '\n' :: cs => Position.after ⟨p.line + 1, 1⟩ cs
  | '\n' :: cs => Position.after ⟨p.line + 1, 1⟩ cs
  | _ :: cs => Position.after ⟨p.line, p.column + 1⟩ cs

/-- The position of a place in a text. -/
def Position.ofPlace (text : List Char) (place : Nat) : Position :=
  Position.after ⟨1, 1⟩ (text.take (text.length - place))

end RelayRoute.Json5
