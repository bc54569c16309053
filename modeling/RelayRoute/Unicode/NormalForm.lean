import RelayRoute.Unicode.Composition

/-!
# Normal form C

A text is brought to normal form C by decomposing each character, ordering the marks that follow one
another by their combining class, and composing each starting character with the marks that nothing
blocks from it.  An ASCII text is its own normal form.

* `orderMarks` — the marks in the order of their classes;
* `compose` — a decomposed and ordered text composed again;
* `normalize`, `isNormal` — the normal form of a text, and whether it is in it.
-/

namespace RelayRoute.Unicode

/-- Puts a character in front of an ordered text, behind the marks of lower class. -/
def place (c : Char) : List Char → List Char
  | [] => [c]
  | d :: ds =>
    if combiningClass d ≠ 0 ∧ combiningClass d < combiningClass c then d :: place c ds
    else c :: d :: ds

/-- The marks that follow one another in the order of their classes, those of one class as they
were. -/
def orderMarks : List Char → List Char
  | [] => []
  | c :: cs => place c (orderMarks cs)

/-- Composes a starting character with what follows it.  `between` holds the marks that stay, latest
first; `last` is the class of the latest. -/
def composeAfter (start : Char) (between : List Char) (last : Nat) : List Char → List Char
  | [] => start :: between.reverse
  | c :: cs =>
    let whole? := if between.isEmpty ∨ last < combiningClass c then composePair? start c else none
    match whole? with
    | some whole => composeAfter whole between last cs
    | none =>
      if combiningClass c = 0 then start :: (between.reverse ++ composeAfter c [] 0 cs)
      else composeAfter start (c :: between) (combiningClass c) cs

/-- Composes a decomposed and ordered text. -/
def compose : List Char → List Char
  | [] => []
  | c :: cs => if combiningClass c = 0 then composeAfter c [] 0 cs else c :: compose cs

/-- The normal form C of a text. -/
def normalize (text : List Char) : List Char :=
  compose (orderMarks (text.flatMap decompose))

/-- Whether a text is in normal form C. -/
def isNormal (text : List Char) : Bool :=
  normalize text == text

end RelayRoute.Unicode
