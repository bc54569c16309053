import RelayRoute.Json5.Syntax
import RelayRoute.Number.Digits
import RelayRoute.Unicode.Identifier

/-!
# The grammar of JSON5

Readers that take a construct from the front of a text and give the text after it, or nothing where
the construct does not stand.  Where several constructs may stand they are tried in order, and the
first that is found is taken.  What the texts are that the readers accept is said without readers by
`SpellsText`.

* `skip` — blanks and comments;
* `readNumber?` — numbers: a sign, and then digits in base sixteen, digits with a point and an
  exponent, or a word;
* `readString?`, `readIdentifier?`, `readKey?` — strings and keys;
* `readAtom?`, `readValue?`, `readItems?`, `readEntries?` — values;
* `parse?` — a whole text as one value.

Readers that call each other take steps, one for each character or value.
-/

namespace RelayRoute.Json5

/-- Whether a character ends a line. -/
def isLineTerminator (c : Char) : Bool :=
  c == '\n' || c == '\r' || c.toNat == 0x2028 || c.toNat == 0x2029

/-- Whether a character is a blank.  Line ends are, and so are the spaces of Unicode and the byte
order mark. -/
def isBlank (c : Char) : Bool :=
  c == ' ' || c == '\t' || c.toNat == 0xb || c.toNat == 0xc || isLineTerminator c ||
    c.toNat == 0xa0 || c.toNat == 0x1680 || (0x2000 ≤ c.toNat && c.toNat ≤ 0x200a) ||
    c.toNat == 0x202f || c.toNat == 0x205f || c.toNat == 0x3000 || c.toNat == 0xfeff

/-- Where a text stands with respect to comments. -/
inductive Gap
  | outside
  | inLine
  | inBlock

/-- What follows the blanks and comments a text starts with.  A block comment that is not closed is
no comment: the text from it on, `opening`, is left as it is. -/
def skipFrom (opening : List Char) : Gap → List Char → List Char
  | .outside, [] => []
  | .outside, '/' :: '/' :: cs => skipFrom [] .inLine cs
  | .outside, '/' :: '*' :: cs => skipFrom ('/' :: '*' :: cs) .inBlock cs
  | .outside, c :: cs => if isBlank c then skipFrom [] .outside cs else c :: cs
  | .inLine, [] => []
  | .inLine, c :: cs =>
    if isLineTerminator c then skipFrom [] .outside cs else skipFrom [] .inLine cs
  | .inBlock, [] => opening
  | .inBlock, '*' :: '/' :: cs => skipFrom [] .outside cs
  | .inBlock, _ :: cs => skipFrom opening .inBlock cs

/-- What follows the blanks and comments a text starts with. -/
def skip (cs : List Char) : List Char :=
  skipFrom [] .outside cs

/-- What follows a word.  That a letter may follow is for the caller to mind. -/
def afterWord? : (word : List Char) → List Char → Option (List Char)
  | [], cs => some cs
  | w :: ws, c :: cs => if c = w then afterWord? ws cs else none
  | _ :: _, [] => none

/-! ## Numbers -/

/-- The sign a text starts with. -/
def readSign : List Char → Sign × List Char
  | '+' :: cs => (.plus, cs)
  | '-' :: cs => (.minus, cs)
  | cs => (.none, cs)

/-- The digits a text starts with, at least one. -/
def readDigits? (base : Nat) (cs : List Char) : Option (List Nat × List Char) :=
  match Digits.span base cs with
  | ([], _) => none
  | (ds, rest) => some (ds, rest)

/-- The digits before the point: a zero alone, or digits that start with another one. -/
def readWhole? : List Char → Option (List Nat × List Char)
  | '0' :: cs => some ([0], cs)
  | cs => readDigits? 10 cs

/-- The exponent a text starts with; a letter without digits after it is left. -/
def readExponent (cs : List Char) : Option Int × List Char :=
  match cs with
  | 'e' :: rest | 'E' :: rest =>
    let (sign, rest) := readSign rest
    match readDigits? 10 rest with
    | some (ds, rest) =>
      let n : Int := Digits.ofDigits 10 ds
      (some (if sign = .minus then -n else n), rest)
    | none => (none, cs)
  | cs => (none, cs)

/-- The decimal number a text starts with.  Digits may be missing on one side of the point, but not
on both. -/
def readDecimal? (cs : List Char) : Option (NumberBody × List Char) :=
  match readWhole? cs with
  | some (whole, '.' :: rest) =>
    let (fraction, rest) := Digits.span 10 rest
    let (exponent, rest) := readExponent rest
    some (.decimal whole (some fraction) exponent, rest)
  | some (whole, rest) =>
    let (exponent, rest) := readExponent rest
    some (.decimal whole none exponent, rest)
  | none =>
    match cs with
    | '.' :: rest => do
      let (fraction, rest) ← readDigits? 10 rest
      let (exponent, rest) := readExponent rest
      return (.decimal [] (some fraction) exponent, rest)
    | _ => none

/-- The number in base sixteen that a text starts with: a zero, the mark of the base, and digits. -/
def readHexadecimal? : List Char → Option (NumberBody × List Char)
  | '0' :: 'x' :: cs | '0' :: 'X' :: cs =>
    (readDigits? 16 cs).map fun (ds, rest) => (.hexadecimal ds, rest)
  | _ => none

/-- The number a text starts with: a sign, if there is one, and digits or one of the two words.
Base sixteen is tried first, as its mark starts with a digit. -/
def readNumber? (cs : List Char) : Option (Number × List Char) :=
  let (sign, cs) := readSign cs
  let body? :=
    (readHexadecimal? cs).or <| (readDecimal? cs).or <|
      ((afterWord? "Infinity".toList cs).map (NumberBody.infinity, ·)).or <|
        (afterWord? "NaN".toList cs).map (NumberBody.notNumber, ·)
  body?.map fun (body, rest) => (⟨sign, body⟩, rest)

/-! ## Strings and keys -/

/-- The number that so many digits in base sixteen make, if a text starts with them. -/
def readHexUnits? (count : Nat) (cs : List Char) : Option (Nat × List Char) :=
  match (cs.take count).mapM (Digits.value? 16) with
  | some ds => if ds.length = count then some (Digits.ofDigits 16 ds, cs.drop count) else none
  | none => none

/-- What a backslash and the text after it stand for; an escaped line end stands for nothing. -/
def readEscape? : List Char → Option (Option Part × List Char)
  | [] => none
  | '\r' :: '\n' :: cs => some (none, cs)
  | 'x' :: cs => (readHexUnits? 2 cs).map fun (n, rest) => (some (.byte n), rest)
  | 'u' :: cs => (readHexUnits? 4 cs).map fun (n, rest) => (some (.unit n), rest)
  | c :: cs =>
    if isLineTerminator c then some (none, cs)
    else if c.isDigit && c != '0' then none
    else some (some (.escaped c), cs)

/-- The parts of a string up to the quote that ends it, with as many steps as the text is long.  A
line end that is not escaped ends the string too early, and there is none then. -/
def readParts? (quote : Char) : (steps : Nat) → List Char → Option (List Part × List Char)
  | 0, _ => none
  | _, [] => none
  | steps + 1, '\\' :: cs => do
    let (part?, rest) ← readEscape? cs
    let (parts, rest) ← readParts? quote steps rest
    return (part?.toList ++ parts, rest)
  | steps + 1, c :: cs =>
    if c = quote then some ([], cs)
    else if isLineTerminator c then none
    else (readParts? quote steps cs).map fun (parts, rest) => (.plain c :: parts, rest)

/-- The string a text starts with. -/
def readString? : List Char → Option (List Part × List Char)
  | '"' :: cs => readParts? '"' (cs.length + 1) cs
  | '\'' :: cs => readParts? '\'' (cs.length + 1) cs
  | _ => none

/-- The parts of an identifier a text goes on with, with as many steps as the text is long. -/
def readIdentifierParts : (steps : Nat) → List Char → List Part × List Char
  | 0, cs => ([], cs)
  | _, [] => ([], [])
  | steps + 1, '\\' :: 'u' :: cs =>
    match readHexUnits? 4 cs with
    | some (n, rest) =>
      let (parts, rest) := readIdentifierParts steps rest
      (.unit n :: parts, rest)
    | none => ([], '\\' :: 'u' :: cs)
  | steps + 1, c :: cs =>
    if Unicode.isIdentifierPart c then
      let (parts, rest) := readIdentifierParts steps cs
      (.plain c :: parts, rest)
    else ([], c :: cs)

/-- The identifier a text starts with.  Its first character may be no digit, unless it is escaped.
-/
def readIdentifier? : List Char → Option (List Part × List Char)
  | [] => none
  | '\\' :: cs =>
    match readIdentifierParts (cs.length + 1) ('\\' :: cs) with
    | ([], _) => none
    | found => some found
  | c :: cs =>
    if Unicode.isIdentifierStart c then some (readIdentifierParts (cs.length + 1) (c :: cs))
    else none

/-- The key a text starts with: an identifier or a string. -/
def readKey? (cs : List Char) : Option (Key × List Char) :=
  ((readIdentifier? cs).or (readString? cs)).map fun (parts, rest) => (⟨cs.length, parts⟩, rest)

/-! ## Values -/

/-- A value that holds no other one.  The words are tried first, then a string, then a number. -/
def readAtom? (cs : List Char) : Option (Value × List Char) :=
  let place := cs.length
  ((afterWord? "null".toList cs).map (Value.null place, ·)).or <|
    ((afterWord? "true".toList cs).map (Value.boolean place true, ·)).or <|
      ((afterWord? "false".toList cs).map (Value.boolean place false, ·)).or <|
        ((readString? cs).map fun (parts, rest) => (Value.string place parts, rest)).or <|
          (readNumber? cs).map fun (number, rest) => (Value.number place number, rest)

mutual

/-- The value a text starts with: an array, an object, or one that holds no other one. -/
def readValue? : (steps : Nat) → List Char → Option (Value × List Char)
  | 0, _ => none
  | steps + 1, '[' :: cs =>
    (readItems? steps (skip cs)).map fun (items, rest) => (.array (cs.length + 1) items, rest)
  | steps + 1, '\x7b' :: cs =>
    (readEntries? steps (skip cs)).map fun (entries, rest) =>
      (.object (cs.length + 1) entries, rest)
  | _, cs => readAtom? cs

/-- The items of an array up to its closing bracket; one comma may follow the last of them. -/
def readItems? : (steps : Nat) → List Char → Option (List Value × List Char)
  | 0, _ => none
  | _, ']' :: cs => some ([], cs)
  | steps + 1, cs => do
    let (item, rest) ← readValue? steps cs
    match skip rest with
    | ',' :: rest =>
      let (items, rest) ← readItems? steps (skip rest)
      return (item :: items, rest)
    | ']' :: rest => return ([item], rest)
    | _ => none

/-- The entries of an object up to its closing brace; one comma may follow the last of them. -/
def readEntries? : (steps : Nat) → List Char → Option (List (Key × Value) × List Char)
  | 0, _ => none
  | _, '\x7d' :: cs => some ([], cs)
  | steps + 1, cs => do
    let (key, rest) ← readKey? cs
    match skip rest with
    | ':' :: rest =>
      let (value, rest) ← readValue? steps (skip rest)
      match skip rest with
      | ',' :: rest =>
        let (entries, rest) ← readEntries? steps (skip rest)
        return ((key, value) :: entries, rest)
      | '\x7d' :: rest => return ([(key, value)], rest)
      | _ => none
    | _ => none

end

/-- The value that a whole text is.  Each step takes a character or enters a value, so twice as many
steps as there are characters are enough. -/
def parse? (text : List Char) : Option Value :=
  match readValue? (2 * text.length + 2) (skip text) with
  | some (value, rest) => if (skip rest).isEmpty then some value else none
  | none => none

end RelayRoute.Json5
