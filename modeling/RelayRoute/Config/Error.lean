import RelayRoute.Json5.Syntax
import RelayRoute.Number.Shortest
import RelayRoute.Text.Quoted

/-!
# Errors in configuration texts

What can be wrong with a configuration text, and the words for it.  A text that is no JSON5 is told
apart from one that is, but stands for no configuration; of the latter the complaint says what was
found and what was wanted in its place.

* `Found`, `Wanted` — the two sides of a value of the wrong type, or of an array of the wrong
  length;
* `Complaint` — what is wrong with a value or a key;
* `Error`, `Error.text`, `Error.position?` — an error, its words, and where it was found.
-/

namespace RelayRoute.Config

/-- A value of the wrong type, told by what a reader that accepts everything would make of it. -/
inductive Found
  | null
  | boolean (value : Bool)
  | integer (value : Int)
  | float (value : Binary64)
  | string (value : String)
  | array
  | object

/-- What was expected instead. -/
inductive Wanted
  | boolean
  | config
  | settings

/-- What is wrong with a value or a key. -/
inductive Complaint
  /-- Digits in base sixteen that are none, or too many. -/
  | hexadecimal
  /-- The first half of a character without the second. -/
  | missingTrail
  /-- The first half of a character before something that is no second half. -/
  | expectingTrail
  /-- The second half of a character without the first. -/
  | unexpectedTrail
  | integer
  | number
  | numberTooLarge
  | wrongType (found : Found) (wanted : Wanted)
  /-- An array that ends before its record is complete. -/
  | incomplete (length : Nat) (wanted : Wanted)
  | duplicate (field : String)

/-- Why a configuration text was refused. -/
inductive Error
  /-- The text is not JSON5. -/
  | notJson5
  /-- A value or a key is wrong. -/
  | refused (complaint : Complaint) (position : Json5.Position)
  /-- Any other reason, in words. -/
  | other (text : String)

/-- A value in words, with the value itself where it is short: numbers, strings and truth values are
quoted, arrays and objects are not. -/
def Found.text : Found → String
  | .null => "unit value"
  | .boolean value => "boolean `" ++ toString value ++ "`"
  | .integer value => "integer `" ++ toString value ++ "`"
  | .float value => "floating point `" ++ value.text ++ "`"
  | .string value => "string " ++ Text.quote value
  | .array => "sequence"
  | .object => "map"

/-- An expectation in words, as it stands behind the word for what was found. -/
def Wanted.text : Wanted → String
  | .boolean => "a boolean"
  | .config => "struct ConnectConfig"
  | .settings => "struct SocketOptions"

/-- How many elements an array needs to be read as a record. -/
def Wanted.size : Wanted → Nat
  | .boolean => 0
  | .config => 3
  | .settings => 8

/-- A complaint in words.  Only a wrong type and a field that is there twice quote the text that was
read. -/
def Complaint.text : Complaint → String
  | .hexadecimal => "error parsing hex"
  | .missingTrail => "missing unicode trail surrogate"
  | .expectingTrail => "expecting unicode trail surrogate"
  | .unexpectedTrail => "unexpected unicode trail surrogate"
  | .integer => "error parsing integer"
  | .number => "error parsing number"
  | .numberTooLarge => "error parsing number: too large"
  | .wrongType found wanted => "invalid type: " ++ found.text ++ ", expected " ++ wanted.text
  | .incomplete length wanted =>
    "invalid length " ++ toString length ++ ", expected " ++ wanted.text ++ " with " ++
      toString wanted.size ++ " elements"
  | .duplicate field => "duplicate field `" ++ field ++ "`"

/-- An error in words, without the place where it was found. -/
def Error.text : Error → String
  | .notJson5 => "the text is not JSON5"
  | .refused complaint _ => complaint.text
  | .other text => text

/-- Where an error was found, if it has a place. -/
def Error.position? : Error → Option Json5.Position
  | .refused _ position => some position
  | .notJson5 | .other _ => none

end RelayRoute.Config
