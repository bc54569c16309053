import RelayRoute.Proofs.SpelledKey

/-!
# JSON5 texts

`SpellsText` says what a JSON5 text is and which value it stands for: values with blanks and
comments between what they consist of, a comma between items and between entries, and perhaps one
more behind the last of them.  A text is parsed as a value exactly if it spells it.  So no text is
refused for want of steps or because a construct is tried before another one, and no text stands for
two values.

* `SpellsAtom`, `readAtom?_of_spells` — values that hold no other one;
* `Phrase`, `Spells` — a text starts with a value, or with what stands in an array or an object up
  to where it closes;
* `length_le_of_spells` — how much text a phrase takes, which bounds the steps;
* `reads_of_spells` — what is spelled is read, by induction on the spelling;
* `stepsSpell` — what is read is spelled, by induction on the steps;
* `parse?_eq_some_iff` — the main result.
-/

namespace RelayRoute.Json5

/-! ## Values that hold no other one -/

/-- A word, a number or a string, and the value that it is at a place. -/
inductive SpellsAtom : List Char → (ℕ → Value) → Prop
  | nullWord : SpellsAtom ['n', 'u', 'l', 'l'] .null
  | trueWord : SpellsAtom ['t', 'r', 'u', 'e'] fun place => .boolean place true
  | falseWord : SpellsAtom ['f', 'a', 'l', 's', 'e'] fun place => .boolean place false
  | number {word : List Char} {number : Number} (h : SpellsNumber word number) :
      SpellsAtom word fun place => .number place number
  | string {word : List Char} {parts : List Part} (h : SpellsString word parts) :
      SpellsAtom word fun place => .string place parts

/-- A value that holds no other one is read as it is written, if what stands behind it may follow a
value.  Words, numbers and strings are told apart by the characters that they start with. -/
theorem readAtom?_of_spells {word rest : List Char} {value : ℕ → Value} (h : SpellsAtom word value)
    (hrest : Follows rest) :
    readAtom? (word ++ rest) = some (value (word ++ rest).length, rest) := by
  cases h with
  | nullWord | trueWord | falseWord => simp [readAtom?, afterWord?]
  | number hnumber =>
      obtain ⟨c, cs, rfl, hc⟩ := hnumber.exists_cons
      have hn : c ≠ 'n' := startsNumber_ne hc (by decide)
      have ht : c ≠ 't' := startsNumber_ne hc (by decide)
      have hf : c ≠ 'f' := startsNumber_ne hc (by decide)
      have hdouble : c ≠ '"' := startsNumber_ne hc (by decide)
      have hsingle : c ≠ '\'' := startsNumber_ne hc (by decide)
      have hstring : readString? (c :: cs ++ rest) = none := by
        unfold readString?
        split
        · next heq => exact absurd (List.cons.inj heq).1 hdouble
        · next heq => exact absurd (List.cons.inj heq).1 hsingle
        · rfl
      rw [readAtom?, hstring, readNumber?_of_spells hnumber hrest]
      simp [afterWord?, hn, ht, hf]
  | string hstring =>
      have hread := readString?_of_spells hstring rest
      cases hstring with
      | quoted hquote _ =>
          rw [readAtom?, hread]
          rcases hquote with rfl | rfl <;> rfl

/-- A value that holds no other one is written if it is read. -/
theorem spellsAtom_of_readAtom? {cs rest : List Char} {value : Value}
    (h : readAtom? cs = some (value, rest)) :
    ∃ word make, cs = word ++ rest ∧ value = make cs.length ∧ SpellsAtom word make := by
  unfold readAtom? at h
  rcases Option.or_eq_some_iff.mp h with h | ⟨-, h⟩
  · obtain ⟨after, hword, hvalue⟩ := Option.map_eq_some_iff.mp h
    cases hvalue
    exact ⟨_, _, afterWord?_eq_some_iff.mp hword, rfl, .nullWord⟩
  rcases Option.or_eq_some_iff.mp h with h | ⟨-, h⟩
  · obtain ⟨after, hword, hvalue⟩ := Option.map_eq_some_iff.mp h
    cases hvalue
    exact ⟨_, _, afterWord?_eq_some_iff.mp hword, rfl, .trueWord⟩
  rcases Option.or_eq_some_iff.mp h with h | ⟨-, h⟩
  · obtain ⟨after, hword, hvalue⟩ := Option.map_eq_some_iff.mp h
    cases hvalue
    exact ⟨_, _, afterWord?_eq_some_iff.mp hword, rfl, .falseWord⟩
  rcases Option.or_eq_some_iff.mp h with h | ⟨-, h⟩
  · obtain ⟨⟨parts, after⟩, hstring, hvalue⟩ := Option.map_eq_some_iff.mp h
    cases hvalue
    obtain ⟨word, hcs, hword⟩ := spellsString_of_readString? hstring
    exact ⟨word, _, hcs, rfl, .string hword⟩
  · obtain ⟨⟨number, after⟩, hnumber, hvalue⟩ := Option.map_eq_some_iff.mp h
    cases hvalue
    obtain ⟨word, hcs, hword⟩ := spellsNumber_of_readNumber? hnumber
    exact ⟨word, _, hcs, rfl, .number hword⟩

/-- A value that holds no other one starts with no blank, and with nothing that opens, closes or
comments. -/
theorem SpellsAtom.exists_cons {word : List Char} {value : ℕ → Value} (h : SpellsAtom word value) :
    ∃ c cs, word = c :: cs ∧ isBlank c = false ∧ c ∉ ['/', '[', ']', '\x7b'] := by
  cases h with
  | nullWord | trueWord | falseWord => exact ⟨_, _, rfl, by decide⟩
  | number hnumber =>
      obtain ⟨c, cs, rfl, hc⟩ := hnumber.exists_cons
      refine ⟨c, cs, rfl, isBlank_of_startsNumber hc, fun hmem => ?_⟩
      have hothers : ∀ d ∈ ['/', '[', ']', '\x7b'], startsNumber d = false := by
        simp [startsNumber, Digits.isDigit, Digits.value?]
      exact startsNumber_ne hc (hothers c hmem) rfl
  | string hstring =>
      cases hstring with
      | quoted hquote _ =>
          refine ⟨_, _, rfl, ?_⟩
          rcases hquote with rfl | rfl <;> decide

/-! ## Arrays and objects -/

/-- What is spelled: a value, or what stands in an array or in an object up to where it closes. -/
inductive Phrase
  | value (value : Value)
  | items (items : List Value)
  | entries (entries : List (Key × Value))

/-- A comma, with blanks and comments around it. -/
inductive Parted : List Char → List Char → Prop
  | comma {cs behind start : List Char} (hcomma : Spaced cs (',' :: behind))
      (hspace : Spaced behind start) : Parted cs start

/-- A key and a colon, with blanks and comments around it. -/
inductive SpellsName : List Char → List Part → List Char → Prop
  | colon {cs named behind start : List Char} {parts : List Part} (hkey : SpellsKey cs parts named)
      (hcolon : Spaced named (':' :: behind)) (hspace : Spaced behind start) :
      SpellsName cs parts start

/-- A text starts with a phrase and goes on with a rest. -/
inductive Spells : List Char → Phrase → List Char → Prop
  | atom {word rest : List Char} {value : ℕ → Value} (h : SpellsAtom word value) :
      Spells (word ++ rest) (.value (value (word ++ rest).length)) rest
  | array {cs start rest : List Char} {items : List Value} (hspace : Spaced cs start)
      (h : Spells start (.items items) rest) :
      Spells ('[' :: cs) (.value (.array (cs.length + 1) items)) rest
  | object {cs start rest : List Char} {entries : List (Key × Value)} (hspace : Spaced cs start)
      (h : Spells start (.entries entries) rest) :
      Spells ('\x7b' :: cs) (.value (.object (cs.length + 1) entries)) rest
  | noItem (rest : List Char) : Spells (']' :: rest) (.items []) rest
  | lastItem {cs after rest : List Char} {item : Value} (h : Spells cs (.value item) after)
      (hclose : Spaced after (']' :: rest)) : Spells cs (.items [item]) rest
  | item {cs after start rest : List Char} {item : Value} {items : List Value}
      (h : Spells cs (.value item) after) (hcomma : Parted after start)
      (hitems : Spells start (.items items) rest) : Spells cs (.items (item :: items)) rest
  | noEntry (rest : List Char) : Spells ('\x7d' :: rest) (.entries []) rest
  | lastEntry {cs start after rest : List Char} {parts : List Part} {value : Value}
      (hname : SpellsName cs parts start) (h : Spells start (.value value) after)
      (hclose : Spaced after ('\x7d' :: rest)) :
      Spells cs (.entries [(⟨cs.length, parts⟩, value)]) rest
  | entry {cs start after next rest : List Char} {parts : List Part} {value : Value}
      {entries : List (Key × Value)} (hname : SpellsName cs parts start)
      (h : Spells start (.value value) after) (hcomma : Parted after next)
      (hentries : Spells next (.entries entries) rest) :
      Spells cs (.entries ((⟨cs.length, parts⟩, value) :: entries)) rest

/-- A whole text is a value with blanks and comments around it. -/
def SpellsText (text : List Char) (value : Value) : Prop :=
  ∃ start rest, Spaced text start ∧ Spells start (.value value) rest ∧ Spaced rest []

/-! ## Where phrases start -/

/-- A value starts with nothing that closes an array. -/
theorem head?_ne_of_spells_value {cs rest : List Char} {value : Value}
    (h : Spells cs (.value value) rest) : cs.head? ≠ some ']' := by
  cases h with
  | atom hatom =>
      obtain ⟨c, word, rfl, -, hc⟩ := hatom.exists_cons
      rintro ⟨⟩
      exact hc (by simp)
  | array _ _ | object _ _ => simp

/-- There may be nothing in front of a value. -/
theorem spaced_of_spells_value {cs rest : List Char} {value : Value}
    (h : Spells cs (.value value) rest) : Spaced cs cs := by
  cases h with
  | atom hatom =>
      obtain ⟨c, word, rfl, hblank, -⟩ := hatom.exists_cons
      exact .of_cons hblank
  | array _ _ | object _ _ => exact .of_cons (by decide)

/-- A key starts with nothing that comments or closes an object. -/
theorem head?_ne_of_spellsName {cs start : List Char} {parts : List Part}
    (h : SpellsName cs parts start) : cs.head? ≠ some '/' ∧ cs.head? ≠ some '\x7d' := by
  obtain ⟨hkey, -, -⟩ := h
  obtain ⟨c, hhead, hc⟩ := hkey.head?
  have hne {d : Char} (hd : startsKey d = false) : cs.head? ≠ some d := by
    intro heq
    rw [Option.some.inj (hhead.symm.trans heq), hd] at hc
    cases hc
  exact ⟨hne (by decide), hne (by decide)⟩

/-- A phrase starts with no comment. -/
theorem head?_ne_of_spells {cs rest : List Char} {phrase : Phrase} (h : Spells cs phrase rest) :
    cs.head? ≠ some '/' := by
  induction h with
  | atom hatom =>
      obtain ⟨c, word, rfl, -, hc⟩ := hatom.exists_cons
      rintro ⟨⟩
      exact hc (by simp)
  | array _ _ _ | object _ _ _ | noItem _ | noEntry _ => simp
  | lastItem _ _ ih | item _ _ _ ih _ => exact ih
  | lastEntry hname _ _ _ | entry hname _ _ _ _ _ => exact (head?_ne_of_spellsName hname).1

/-! ## How much phrases take -/

/-- Blanks and comments take no text away from the rest. -/
theorem length_le_of_spaced {cs rest : List Char} (h : Spaced cs rest) :
    rest.length ≤ cs.length := by
  induction h with
  | nothing _ => exact le_rfl
  | blank _ _ ih => exact Nat.le_succ_of_le ih
  | lineComment _ _ _ ih | blockComment _ _ ih =>
      simp only [List.length_cons, List.length_append]
      omega

theorem length_lt_of_parted {cs start : List Char} (h : Parted cs start) :
    start.length < cs.length := by
  obtain ⟨hcomma, hspace⟩ := h
  have hbehind := length_le_of_spaced hcomma
  rw [List.length_cons] at hbehind
  exact Nat.lt_of_le_of_lt (length_le_of_spaced hspace) hbehind

/-- A key and a colon take a character at least. -/
theorem length_lt_of_spellsName {cs start : List Char} {parts : List Part}
    (h : SpellsName cs parts start) : start.length < cs.length := by
  obtain ⟨hkey, hcolon, hspace⟩ := h
  have hnamed := length_le_of_spellsKey hkey
  have hbehind := length_le_of_spaced hcolon
  rw [List.length_cons] at hbehind
  exact Nat.lt_of_le_of_lt (length_le_of_spaced hspace) (Nat.le_trans hbehind hnamed)

/-- A phrase takes no text away from the rest. -/
theorem length_le_of_spells {cs rest : List Char} {phrase : Phrase} (h : Spells cs phrase rest) :
    rest.length ≤ cs.length := by
  induction h with
  | atom _ =>
      rw [List.length_append]
      omega
  | array hspace _ ih | object hspace _ ih =>
      exact Nat.le_succ_of_le (ih.trans (length_le_of_spaced hspace))
  | noItem rest | noEntry rest => exact Nat.le_succ _
  | lastItem _ hclose ih =>
      have hafter := length_le_of_spaced hclose
      rw [List.length_cons] at hafter
      omega
  | item _ hcomma _ ih ihItems =>
      have hstart := length_lt_of_parted hcomma
      omega
  | lastEntry hname _ hclose ih =>
      have hstart := length_lt_of_spellsName hname
      have hafter := length_le_of_spaced hclose
      rw [List.length_cons] at hafter
      omega
  | entry hname _ hcomma _ ih ihEntries =>
      have hstart := length_lt_of_spellsName hname
      have hnext := length_lt_of_parted hcomma
      omega

/-! ## What is spelled is read -/

/-- A character that may follow a value follows it behind blanks and comments as well. -/
theorem follows_of_spaced_cons {c : Char} (h : c ∈ ['/', ',', ':', ']', '\x7d'])
    {cs rest : List Char} (hspace : Spaced cs (c :: rest)) : Follows cs := by
  refine follows_of_spaced hspace ?_
  rintro d ⟨⟩
  exact .inr h

theorem follows_of_parted {cs start : List Char} (h : Parted cs start) : Follows cs := by
  obtain ⟨hcomma, -⟩ := h
  exact follows_of_spaced_cons (by decide) hcomma

/-- What stands around a comma is skipped. -/
theorem skip_of_parted {cs start : List Char} (h : Parted cs start)
    (hslash : start.head? ≠ some '/') :
    ∃ behind, skip cs = ',' :: behind ∧ skip behind = start := by
  obtain ⟨hcomma, hspace⟩ := h
  exact ⟨_, skip_of_spaced hcomma (by simp), skip_of_spaced hspace hslash⟩

/-- A value that starts with no bracket and no brace holds no other one. -/
theorem readValue?_of_atom {c : Char} (hbracket : c ≠ '[') (hbrace : c ≠ '\x7b') {steps : Nat}
    (hsteps : 0 < steps) (cs : List Char) : readValue? steps (c :: cs) = readAtom? (c :: cs) := by
  rw [readValue?.eq_def]
  split <;> simp_all

theorem readValue?_array (steps : ℕ) (cs : List Char) :
    readValue? (steps + 1) ('[' :: cs) =
      (readItems? steps (skip cs)).map fun (items, rest) =>
        (.array (cs.length + 1) items, rest) := by
  rw [readValue?.eq_def]
  rfl

/-- An object is read entry by entry. -/
theorem readValue?_object (steps : Nat) (cs : List Char) :
    readValue? (steps + 1) ('\x7b' :: cs) =
      (readEntries? steps (skip cs)).map fun (entries, rest) =>
        (.object (cs.length + 1) entries, rest) := by
  rw [readValue?.eq_def]
  rfl

theorem readItems?_close (steps : ℕ) (rest : List Char) :
    readItems? (steps + 1) (']' :: rest) = some ([], rest) := by
  rw [readItems?.eq_def]
  rfl

theorem readEntries?_close (steps : ℕ) (rest : List Char) :
    readEntries? (steps + 1) ('\x7d' :: rest) = some ([], rest) := by
  rw [readEntries?.eq_def]
  rfl

/-- A value in an array is read, and then what follows it. -/
theorem readItems?_of_value {steps : ℕ} {cs after : List Char} {item : Value}
    (hclose : cs.head? ≠ some ']') (hitem : readValue? steps cs = some (item, after)) :
    readItems? (steps + 1) cs = match skip after with
      | ',' :: rest => do
        let (items, rest) ← readItems? steps (skip rest)
        return (item :: items, rest)
      | ']' :: rest => some ([item], rest)
      | _ => none := by
  rw [readItems?.eq_def]
  split
  · next heq => cases heq
  · exact absurd rfl hclose
  · next heq _ =>
      cases heq
      rw [hitem]
      rfl

/-- A value in an object is read behind its key, and then what follows it. -/
theorem readEntries?_of_value {steps : ℕ} {cs start after : List Char} {parts : List Part}
    {value : Value} (hname : SpellsName cs parts start) (hslash : start.head? ≠ some '/')
    (hvalue : readValue? steps start = some (value, after)) :
    readEntries? (steps + 1) cs = match skip after with
      | ',' :: rest => do
        let (entries, rest) ← readEntries? steps (skip rest)
        return ((⟨cs.length, parts⟩, value) :: entries, rest)
      | '\x7d' :: rest => some ([(⟨cs.length, parts⟩, value)], rest)
      | _ => none := by
  have hclose := (head?_ne_of_spellsName hname).2
  obtain ⟨hkey, hcolon, hspace⟩ := hname
  have hend : Follows _ := follows_of_spaced_cons (by decide) hcolon
  have hread := readKey?_of_spells hkey (hend.head?_ne (by decide))
  rw [readEntries?.eq_def]
  split
  · next heq => cases heq
  · exact absurd rfl hclose
  · next heq _ =>
      cases heq
      simp only [hread, Option.bind_eq_bind, Option.bind_some, skip_of_spaced hcolon (by simp),
        skip_of_spaced hspace hslash, hvalue]
      rfl

/-- What so many steps read of a phrase, a value if what stands behind it may follow it. -/
def Reads (steps : ℕ) (cs : List Char) : Phrase → List Char → Prop
  | .value value, rest => Follows rest → readValue? steps cs = some (value, rest)
  | .items items, rest => readItems? steps cs = some (items, rest)
  | .entries entries, rest => readEntries? steps cs = some (entries, rest)

/-- The steps that a phrase takes for itself: items and entries enter a value at the same place. -/
def Phrase.steps : Phrase → ℕ
  | .value _ => 1
  | .items _ | .entries _ => 2

/-- Where a step is left it can be taken. -/
theorem Phrase.exists_steps {phrase : Phrase} {size steps : ℕ} (h : size + phrase.steps ≤ steps) :
    ∃ left, steps = left + 1 := by
  have hpos : 0 < phrase.steps := by cases phrase <;> simp [Phrase.steps]
  exact Nat.exists_eq_add_one_of_ne_zero (by omega)

/-- **What is spelled is read**, with twice as many steps as there are characters.  The induction is
on the spelling: every part of a phrase is shorter than the phrase, or takes one step less. -/
theorem reads_of_spells {cs rest : List Char} {phrase : Phrase} (h : Spells cs phrase rest)
    (steps : ℕ) (hsteps : 2 * cs.length + phrase.steps ≤ steps) : Reads steps cs phrase rest := by
  induction h generalizing steps with
  | atom hatom =>
      obtain ⟨left, rfl⟩ := Phrase.exists_steps hsteps
      intro hrest
      have hread := readAtom?_of_spells hatom hrest
      obtain ⟨c, cs, rfl, -, hc⟩ := hatom.exists_cons
      have hbracket : c ≠ '[' := fun heq => hc (by simp [heq])
      have hbrace : c ≠ '\x7b' := fun heq => hc (by simp [heq])
      exact (readValue?_of_atom hbracket hbrace (Nat.succ_pos left) _).trans hread
  | array hspace hitems ih =>
      obtain ⟨left, rfl⟩ := Phrase.exists_steps hsteps
      have hstart := length_le_of_spaced hspace
      simp only [Phrase.steps, List.length_cons] at hsteps ih
      have hread : readItems? left _ = some (_, _) := ih left (by omega)
      intro _
      rw [readValue?_array, skip_of_spaced hspace (head?_ne_of_spells hitems), hread]
      rfl
  | object hspace hentries ih =>
      obtain ⟨left, rfl⟩ := Phrase.exists_steps hsteps
      have hstart := length_le_of_spaced hspace
      simp only [Phrase.steps, List.length_cons] at hsteps ih
      have hread : readEntries? left _ = some (_, _) := ih left (by omega)
      intro _
      rw [readValue?_object, skip_of_spaced hspace (head?_ne_of_spells hentries), hread]
      rfl
  | noItem rest =>
      obtain ⟨left, rfl⟩ := Phrase.exists_steps hsteps
      exact readItems?_close left rest
  | lastItem hitem hclose ih =>
      obtain ⟨left, rfl⟩ := Phrase.exists_steps hsteps
      simp only [Phrase.steps] at hsteps ih
      have hread := ih left (by omega) (follows_of_spaced_cons (by decide) hclose)
      rw [Reads, readItems?_of_value (head?_ne_of_spells_value hitem) hread,
        skip_of_spaced hclose (by simp)]
      rfl
  | item hitem hcomma hitems ih ihItems =>
      obtain ⟨left, rfl⟩ := Phrase.exists_steps hsteps
      have hafter := length_le_of_spells hitem
      have hstart := length_lt_of_parted hcomma
      simp only [Phrase.steps] at hsteps ih ihItems
      have hread := ih left (by omega) (follows_of_parted hcomma)
      have hothers : readItems? left _ = some (_, _) := ihItems left (by omega)
      obtain ⟨behind, hskip, rfl⟩ := skip_of_parted hcomma (head?_ne_of_spells hitems)
      rw [Reads, readItems?_of_value (head?_ne_of_spells_value hitem) hread, hskip]
      simp only [hothers]
      rfl
  | noEntry rest =>
      obtain ⟨left, rfl⟩ := Phrase.exists_steps hsteps
      exact readEntries?_close left rest
  | lastEntry hname hvalue hclose ih =>
      obtain ⟨left, rfl⟩ := Phrase.exists_steps hsteps
      have hstart := length_lt_of_spellsName hname
      simp only [Phrase.steps] at hsteps ih
      have hread := ih left (by omega) (follows_of_spaced_cons (by decide) hclose)
      rw [Reads, readEntries?_of_value hname (head?_ne_of_spells hvalue) hread,
        skip_of_spaced hclose (by simp)]
      rfl
  | entry hname hvalue hcomma hentries ih ihEntries =>
      obtain ⟨left, rfl⟩ := Phrase.exists_steps hsteps
      have hstart := length_lt_of_spellsName hname
      have hafter := length_le_of_spells hvalue
      have hnext := length_lt_of_parted hcomma
      simp only [Phrase.steps] at hsteps ih ihEntries
      have hread := ih left (by omega) (follows_of_parted hcomma)
      have hothers : readEntries? left _ = some (_, _) := ihEntries left (by omega)
      obtain ⟨behind, hskip, rfl⟩ := skip_of_parted hcomma (head?_ne_of_spells hentries)
      rw [Reads, readEntries?_of_value hname (head?_ne_of_spells hvalue) hread, hskip]
      simp only [hothers]
      rfl

/-! ## What is read is spelled -/

/-- What so many steps read is spelled: a value, the items of an array, the entries of an object. -/
structure StepsSpell (steps : ℕ) : Prop where
  value : ∀ {cs value rest}, readValue? steps cs = some (value, rest) →
    Spells cs (.value value) rest
  items : ∀ {cs items rest}, readItems? steps cs = some (items, rest) →
    Spells cs (.items items) rest
  entries : ∀ {cs entries rest}, readEntries? steps cs = some (entries, rest) →
    Spells cs (.entries entries) rest

/-- A text that goes on with a character behind blanks and comments. -/
theorem spaced_of_skip_eq {cs rest : List Char} (h : skip cs = rest) : Spaced cs rest :=
  h ▸ spaced_skip cs

/-- A text that goes on with a comma behind blanks and comments. -/
theorem parted_of_skip_eq {cs behind : List Char} (h : skip cs = ',' :: behind) :
    Parted cs (skip behind) :=
  .comma (spaced_of_skip_eq h) (spaced_skip behind)

/-- What so many steps read is spelled.  The readers of values, items and entries call each other
with one step less, so that the three go by one induction. -/
theorem stepsSpell (steps : ℕ) : StepsSpell steps := by
  induction steps with
  | zero =>
      refine ⟨fun h => ?_, fun h => ?_, fun h => ?_⟩
      · rw [readValue?.eq_def] at h
        cases h
      · rw [readItems?.eq_def] at h
        cases h
      · rw [readEntries?.eq_def] at h
        cases h
  | succ steps ih =>
      refine ⟨?value, ?items, ?entries⟩
      case value =>
        intro cs value rest h
        rw [readValue?.eq_def] at h
        split at h
        · next heq => cases heq
        · next heq =>
            cases heq
            obtain ⟨⟨items, rest⟩, hitems, hvalue⟩ := Option.map_eq_some_iff.mp h
            cases hvalue
            exact .array (spaced_skip _) (ih.items hitems)
        · next heq =>
            cases heq
            obtain ⟨⟨entries, rest⟩, hentries, hvalue⟩ := Option.map_eq_some_iff.mp h
            cases hvalue
            exact .object (spaced_skip _) (ih.entries hentries)
        · obtain ⟨word, make, rfl, rfl, hword⟩ := spellsAtom_of_readAtom? h
          exact .atom hword
      case items =>
        intro cs items rest h
        rw [readItems?.eq_def] at h
        split at h
        · next heq => cases heq
        · cases h
          exact .noItem _
        · next hsteps _ =>
            cases hsteps
            obtain ⟨⟨item, after⟩, hitem, h⟩ := Option.bind_eq_some_iff.mp h
            dsimp only at h
            split at h
            · next hcomma =>
                obtain ⟨⟨others, rest⟩, hothers, hitems⟩ := Option.bind_eq_some_iff.mp h
                cases hitems
                exact .item (ih.value hitem) (parted_of_skip_eq hcomma) (ih.items hothers)
            · next hclose =>
                cases h
                exact .lastItem (ih.value hitem) (spaced_of_skip_eq hclose)
            · cases h
      case entries =>
        intro cs entries rest h
        rw [readEntries?.eq_def] at h
        split at h
        · next heq => cases heq
        · cases h
          exact .noEntry _
        · next hsteps _ =>
            cases hsteps
            obtain ⟨⟨key, named⟩, hkey, h⟩ := Option.bind_eq_some_iff.mp h
            obtain ⟨place, parts⟩ := key
            obtain ⟨hplace, hkey⟩ := spellsKey_of_readKey? hkey
            obtain rfl : place = _ := hplace
            dsimp only at h
            split at h
            · next hcolon =>
                obtain ⟨⟨value, after⟩, hvalue, h⟩ := Option.bind_eq_some_iff.mp h
                dsimp only at h
                split at h
                · next hcomma =>
                    obtain ⟨⟨others, rest⟩, hothers, hentries⟩ := Option.bind_eq_some_iff.mp h
                    cases hentries
                    exact .entry (.colon hkey (spaced_of_skip_eq hcolon) (spaced_skip _))
                      (ih.value hvalue) (parted_of_skip_eq hcomma) (ih.entries hothers)
                · next hclose =>
                    cases h
                    exact .lastEntry (.colon hkey (spaced_of_skip_eq hcolon) (spaced_skip _))
                      (ih.value hvalue) (spaced_of_skip_eq hclose)
                · cases h
            · cases h

/-! ## Whole texts -/

/-- **A text is parsed as a value exactly if it spells it.**  What is spelled is read with the steps
that there are, and what stands behind the value is skipped; and what is read is spelled. -/
theorem parse?_eq_some_iff {text : List Char} {value : Value} :
    parse? text = some value ↔ SpellsText text value := by
  constructor
  · intro h
    unfold parse? at h
    split at h
    · next rest hread =>
        obtain ⟨hempty, hvalue⟩ := Option.ite_none_right_eq_some.mp h
        cases hvalue
        exact ⟨skip text, rest, spaced_skip text, (stepsSpell _).value hread,
          spaced_of_skip_eq (List.isEmpty_iff.mp hempty)⟩
    · cases h
  · rintro ⟨start, rest, hstart, hvalue, hrest⟩
    have hfollows : Follows rest := follows_of_spaced hrest fun _ hc => by cases hc
    have hsteps : 2 * start.length + (Phrase.value value).steps ≤ 2 * text.length + 2 := by
      have hlength := length_le_of_spaced hstart
      rw [Phrase.steps]
      omega
    have hread : readValue? (2 * text.length + 2) start = some (value, rest) :=
      reads_of_spells hvalue _ hsteps hfollows
    rw [parse?, skip_of_spaced hstart (head?_ne_of_spells hvalue), hread]
    dsimp only
    rw [skip_of_spaced hrest (by simp)]
    rfl

end RelayRoute.Json5
