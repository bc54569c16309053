import RelayRoute.Number.Digits
import RelayRoute.Text.Split

/-!
# Segments of code points

A property of characters that is constant on blocks of consecutive code points is held as a
`SegmentMap`: its blocks in ascending order, found by bisection.  The blocks are written as text,
one `first-last:value` after another with blanks or line ends between them, the code points in base
sixteen; `-last` is left out when the block is a single code point and `:value` when there is
nothing to say.
-/

namespace RelayRoute.Unicode

/-- A block of consecutive code points that share a value. -/
structure Segment (α : Type) where
  first : Nat
  last : Nat
  value : α

/-- Blocks in ascending order that do not overlap. -/
structure SegmentMap (α : Type) where
  segments : Array (Segment α)

namespace SegmentMap

variable {α : Type}

/-- The block that holds a code point, among those numbered from `lo` up to `hi`. -/
def bisect (m : SegmentMap α) (point lo hi : Nat) : Option (Segment α) :=
  if _h : lo < hi then
    let mid := (lo + hi) / 2
    match m.segments[mid]? with
    | none => none
    | some s =>
      if point < s.first then bisect m point lo mid
      else if s.last < point then bisect m point (mid + 1) hi
      else some s
  else none
termination_by hi - lo

/-- The block that holds a character. -/
def find? (m : SegmentMap α) (c : Char) : Option (Segment α) :=
  m.bisect c.toNat 0 m.segments.size

/-- Whether a character is in one of the blocks. -/
def contains (m : SegmentMap α) (c : Char) : Bool :=
  (m.find? c).isSome

/-- One written block: a code point or the two ends of several, and the value behind a colon, if
there is one. -/
def readSegment? (value? : List Char → Option α) (item : List Char) : Option (Segment α) :=
  let (first, rest) := Digits.span 16 item
  let (last, rest) := match rest with
    | '-' :: rest => Digits.span 16 rest
    | rest => (first, rest)
  let value := match rest with
    | ':' :: rest => value? rest
    | rest => value? rest
  value.map (⟨Digits.ofDigits 16 first, Digits.ofDigits 16 last, ·⟩)

/-- The items of a written table: what stands between blanks and line ends. -/
def items (text : List Char) : List (List Char) :=
  (Text.split ' ' (text.map fun c => if c = '\n' then ' ' else c)).filter (!·.isEmpty)

/-- The blocks of a written table; an item whose value cannot be read is left out. -/
def ofText (value? : List Char → Option α) (text : String) : SegmentMap α :=
  ⟨((items text.toList).filterMap (readSegment? value?)).toArray⟩

end SegmentMap

/-- A set of characters, as blocks without values. -/
abbrev CharTable := SegmentMap Unit

/-- The set of characters of a table written without values. -/
def CharTable.ofText (text : String) : CharTable :=
  SegmentMap.ofText (fun _ => some ()) text

/-- Code points written one after another with points between them, in base sixteen. -/
def readCharacters? (text : List Char) : Option (List Char) :=
  (Text.split '.' text).mapM fun item =>
    (Digits.read? 16 item).bind fun n => if n.isValidChar then some (Char.ofNat n) else none

end RelayRoute.Unicode
