import RelayRoute.Unicode.Mark
import RelayRoute.Unicode.Direction
import RelayRoute.Unicode.NormalForm
import RelayRoute.Name.Mapping
import RelayRoute.Name.Punycode

/-!
# Labels of host names

A label is a stretch of a host name between dots.  Behind the mark `xn--` it is written in Punycode.
A label is well formed when it is in normal form C, does not start with a combining mark and holds
only characters that the mapping keeps.  If any label of a name is written from right to left, all
of them keep to the rule for directions.

* `read?`, `write` — the label that a text stands for, and its ASCII form;
* `isWellFormed` — whether a label may stand in a host name;
* `isBidirectional`, `keepsDirection` — the rule for directions, with `keepsLeft` and `keepsRight`
  for the two ways in which a label may start.
-/

namespace RelayRoute.Name.Label

open Unicode

/-- The mark of a label written in Punycode. -/
def encodedMark : List Char := ['x', 'n', '-', '-']

/-- The label that a mapped text stands for: the text itself, or what its Punycode says. -/
def read? : List Char → Option (List Char)
  | 'x' :: 'n' :: '-' :: '-' :: rest => Punycode.decode? rest
  | text => some text

/-- The label in ASCII: as it is if it has no other characters, and in Punycode behind the mark if
it has. -/
def write (label : List Char) : List Char :=
  if label.all Punycode.isBasic then label else encodedMark ++ Punycode.encode label

/-- Whether a text starts with a combining mark. -/
def startsWithMark : List Char → Bool
  | [] => false
  | c :: _ => isMark c

/-- Whether a label may stand in a host name. -/
def isWellFormed (label : List Char) : Bool :=
  isNormal label && !startsWithMark label && label.all isMapped

/-- Whether a character belongs to a script written from right to left. -/
def isRightward : Direction → Bool
  | .rightToLeft | .arabicLetter | .arabicNumber => true
  | _ => false

/-- Whether a label holds text written from right to left. -/
def isBidirectional (label : List Char) : Bool :=
  label.any fun c => isRightward (direction c)

/-- The classes that may stand in every label of a bidirectional name. -/
def isShared : Direction → Bool
  | .europeanNumber | .europeanSeparator | .commonSeparator | .europeanTerminator
  | .neutral | .boundaryNeutral | .nonspacingMark => true
  | _ => false

/-- The class of the last character that is not a nonspacing mark. -/
def lastClass? (classes : List Direction) : Option Direction :=
  (classes.filter (· != .nonspacingMark)).getLast?

/-- A label that starts from the left holds no character of the other direction and ends with a
letter or a number. -/
def keepsLeft (classes : List Direction) : Bool :=
  classes.all (fun d => d == .leftToRight || isShared d) &&
    match lastClass? classes with
    | none | some .leftToRight | some .europeanNumber => true
    | some _ => false

/-- A label that starts from the right holds no character of the other direction, ends with a letter
or a number, and does not mix European with Arabic numbers. -/
def keepsRight (classes : List Direction) : Bool :=
  classes.all (fun d => isRightward d || isShared d) &&
    (match lastClass? classes with
      | some .rightToLeft | some .arabicLetter | some .europeanNumber | some .arabicNumber => true
      | _ => false) &&
    !(classes.contains .europeanNumber && classes.contains .arabicNumber)

/-- The rule for the labels of a bidirectional name. -/
def keepsDirection (label : List Char) : Bool :=
  match label.map direction with
  | [] => true
  | .leftToRight :: rest => keepsLeft (.leftToRight :: rest)
  | .rightToLeft :: rest => keepsRight (.rightToLeft :: rest)
  | .arabicLetter :: rest => keepsRight (.arabicLetter :: rest)
  | _ => false

end RelayRoute.Name.Label
