import RelayRoute.Proofs.SpelledText

/-!
# Values that are read and forgotten

What holds of all numbers and all strings in a value holds of the value (`Value.Each`).  Two such
properties matter to configurations.  The numbers of a text have digits that are digits, whatever
the text is.  And a value that nobody wants is read and forgotten, without an error exactly if its
numbers and strings are readable.

* `Value.HasDigits`, `hasDigits_of_spellsText` — the first property, by induction on the spelling of
  the text;
* `Number.IsReadable`, `IsText`, `Value.IsReadable` — what it takes for numbers, strings and values
  to be readable;
* `readInteger_ok_iff`, `readFloat_decimal_ok_iff`, `readHexadecimal_ok_iff`,
  `classifyNumber_ok_iff` — the readers of numbers, one by one;
* `ignore_ok_iff` — the second property, by induction on the value.
-/

namespace RelayRoute

namespace Json5

/-- A value of which all numbers have one property, and all strings and keys another one. -/
inductive Value.Each (number : Number → Prop) (string : List Part → Prop) : Value → Prop
  | null (place : ℕ) : Each number string (.null place)
  | boolean (place : ℕ) (value : Bool) : Each number string (.boolean place value)
  | number {value : Number} (place : ℕ) (h : number value) :
      Each number string (.number place value)
  | string {parts : List Part} (place : ℕ) (h : string parts) :
      Each number string (.string place parts)
  | array {items : List Value} (place : ℕ) (h : ∀ item ∈ items, Each number string item) :
      Each number string (.array place items)
  | object {entries : List (Key × Value)} (place : ℕ)
      (hkey : ∀ entry ∈ entries, string entry.1.parts)
      (hvalue : ∀ entry ∈ entries, Each number string entry.2) :
      Each number string (.object place entries)

/-- A value whose numbers are written in digits of their bases. -/
def Value.HasDigits : Value → Prop :=
  Value.Each Number.HasDigits fun _ => True

/-! ## Spelled values -/

/-- Written digits are digits of the base. -/
theorem SpellsDigits.lt {base : ℕ} {word : List Char} {digits : List ℕ}
    (h : SpellsDigits base word digits) : ∀ d ∈ digits, d < base := by
  intro d hd
  have hmem : some d ∈ word.map (Digits.value? base) := by
    rw [h]
    exact List.mem_map_of_mem hd
  obtain ⟨c, -, hc⟩ := List.mem_map.mp hmem
  exact Digits.lt_of_value? hc

/-- Every number is written in digits of its base. -/
theorem hasDigits_of_spellsNumber {word : List Char} {number : Number}
    (h : SpellsNumber word number) : number.HasDigits := by
  obtain ⟨sign, body⟩ := number
  obtain ⟨text, -, hbody⟩ := h
  cases hbody with
  | hexadecimal _ hword _ => exact hword.lt
  | whole hwhole _ =>
      intro d hd
      rw [Option.getD_none, List.append_nil] at hd
      exact hwhole.spells.lt d hd
  | point hwhole hbehind _ =>
      intro d hd
      exact (List.mem_append.mp hd).elim (hwhole.spells.lt d) (hbehind.lt d)
  | fraction hbehind _ _ => exact hbehind.lt
  | infinity | notNumber => trivial

/-- A value, or all of the items or entries of one, have digits. -/
def Phrase.HasDigits : Phrase → Prop
  | .value v => v.HasDigits
  | .items vs => ∀ v ∈ vs, v.HasDigits
  | .entries es => ∀ e ∈ es, e.2.HasDigits

/-- What is spelled is spelled in digits.  The induction is on the spelling, and says the same of
values, items and entries. -/
theorem hasDigits_of_spells {cs rest : List Char} {phrase : Phrase} (h : Spells cs phrase rest) :
    phrase.HasDigits := by
  induction h with
  | atom hatom =>
      cases hatom with
      | nullWord => exact Value.Each.null _
      | trueWord | falseWord => exact Value.Each.boolean _ _
      | number hnumber => exact Value.Each.number _ (hasDigits_of_spellsNumber hnumber)
      | string _ => exact Value.Each.string _ trivial
  | array _ _ ih => exact Value.Each.array _ ih
  | object _ _ ih => exact Value.Each.object _ (fun _ _ => trivial) ih
  | noItem _ | noEntry _ => exact fun _ hmem => absurd hmem List.not_mem_nil
  | lastItem _ _ ih => exact List.forall_mem_singleton.mpr ih
  | item _ _ _ ih ihItems => exact List.forall_mem_cons.mpr ⟨ih, ihItems⟩
  | lastEntry _ _ _ ih => exact List.forall_mem_singleton.mpr ih
  | entry _ _ _ _ ih ihEntries => exact List.forall_mem_cons.mpr ⟨ih, ihEntries⟩

/-- **The numbers of a text are written in digits.** -/
theorem hasDigits_of_spellsText {text : List Char} {value : Value} (h : SpellsText text value) :
    value.HasDigits := by
  obtain ⟨start, rest, -, hvalue, -⟩ := h
  exact hasDigits_of_spells hvalue

/-! ## Readable values -/

/-- A number that can be read where no number is wanted: an integer of 64 bits, an unsigned one of
32 bits in base sixteen, a finite value, or a word without a plus sign. -/
def Number.IsReadable (number : Number) : Prop :=
  match number.body with
  | .infinity | .notNumber => number.sign ≠ .plus
  | .hexadecimal digits => number.sign = .none ∧ Digits.ofDigits 16 digits < 2 ^ 32
  | .decimal whole none none =>
    -2 ^ 63 ≤ number.sign.factor * Digits.ofDigits 10 whole ∧
      number.sign.factor * Digits.ofDigits 10 whole < 2 ^ 63
  | .decimal whole fraction exponent =>
    (Config.decimalValue number.sign whole fraction exponent).isFinite

/-- Parts of a string that stand for a text: the halves of each character are together. -/
def IsText (parts : List Part) : Prop :=
  ∃ text, Config.readString parts = .ok text

/-- A value that can be read where nothing is wanted. -/
def Value.IsReadable : Value → Prop :=
  Value.Each Number.IsReadable IsText

end Json5

namespace Config

open Json5

theorem not_ok_of_error {ε α : Type} (e : ε) : ¬ ∃ a : α, (.error e : Except ε α) = .ok a := by
  intro h
  obtain ⟨a, h⟩ := h
  cases h

/-- A result that is changed is there if it was there before. -/
theorem exists_map_ok {ε α β : Type} (read : Except ε α) (f : α → β) :
    (∃ b, read.map f = .ok b) ↔ ∃ a, read = .ok a := by
  cases read with
  | ok a => exact iff_of_true ⟨f a, rfl⟩ ⟨a, rfl⟩
  | error e => exact iff_of_false (not_ok_of_error e) (not_ok_of_error e)

/-- What is read at a place and not used is an error only if it could not be read. -/
theorem locate_map_unit {α : Type} (place : ℕ) (read : Except Complaint α) :
    locate place (read.map fun _ => ()) = .ok () ↔ ∃ a, read = .ok a := by
  cases read with
  | ok a => exact iff_of_true rfl ⟨a, rfl⟩
  | error complaint => exact iff_of_false (fun h => by cases h) (not_ok_of_error complaint)

/-- Steps that succeed as a whole succeed one by one. -/
theorem exists_of_bind_ok {ε α β : Type} {first : Except ε α} {second : α → Except ε β} {b : β}
    (h : (do second (← first)) = .ok b) : ∃ a, first = .ok a ∧ second a = .ok b := by
  cases first with
  | ok a => exact ⟨a, rfl, h⟩
  | error e => cases h

/-- Two steps of which the first gives nothing succeed if both do. -/
theorem bind_unit_ok {ε : Type} (first second : Except ε Unit) :
    (do first; second) = .ok () ↔ first = .ok () ∧ second = .ok () := by
  cases first with
  | ok a => exact ⟨fun h => ⟨rfl, h⟩, fun h => h.2⟩
  | error e => exact iff_of_false (fun h => by cases h) (fun h => by cases h.1)

/-- What is read if a condition holds is read exactly if it does. -/
theorem exists_ite_ok {ε α : Type} (p : Prop) [Decidable p] (a : α) (e : ε) :
    (∃ b, (if p then .ok a else .error e : Except ε α) = .ok b) ↔ p := by
  split
  · next hp => exact iff_of_true ⟨a, rfl⟩ hp
  · next hp => exact iff_of_false (not_ok_of_error e) hp

/-- Digits are read as an integer if it has 64 bits. -/
theorem readInteger_ok_iff (sign : Sign) (digits : List ℕ) :
    (∃ n, readInteger sign digits = .ok n) ↔
      -2 ^ 63 ≤ sign.factor * Digits.ofDigits 10 digits ∧
        sign.factor * Digits.ofDigits 10 digits < 2 ^ 63 := by
  have hsize : UInt64.size = 2 ^ 64 := rfl
  unfold readInteger
  rw [hsize]
  cases sign with
  | minus =>
      simp only [Sign.factor, if_true, exists_ite_ok]
      omega
  | none | plus =>
      simp only [Sign.factor, reduceCtorEq, if_false, exists_ite_ok]
      omega

/-- A finite value is read, and nothing else. -/
theorem readFloat_decimal_ok_iff {sign : Sign} {whole : List ℕ} {fraction : Option (List ℕ)}
    {exponent : Option ℤ} :
    (∃ x, readFloat ⟨sign, .decimal whole fraction exponent⟩ = .ok x) ↔
      (decimalValue sign whole fraction exponent).isFinite := by
  dsimp only [readFloat]
  exact exists_ite_ok _ _ _

/-- A number in base sixteen is read if it has 32 bits. -/
theorem readHexadecimal_ok_iff (digits : List ℕ) :
    (∃ n, readHexadecimal digits = .ok n) ↔ Digits.ofDigits 16 digits < 2 ^ 32 := by
  unfold readHexadecimal
  exact exists_ite_ok _ _ _

/-- A number is told apart exactly if it is readable.  The cases are the ways of writing one: with a
point or an exponent, as an integer, in base sixteen, and as a word. -/
theorem classifyNumber_ok_iff (number : Number) :
    (∃ found, classifyNumber number = .ok found) ↔ number.IsReadable := by
  obtain ⟨sign, body⟩ := number
  cases body with
  | infinity | notNumber =>
      cases sign with
      | plus => exact iff_of_false (not_ok_of_error _) (not_not.mpr rfl)
      | none | minus => exact iff_of_true ⟨_, rfl⟩ (fun h => by cases h)
  | hexadecimal digits =>
      cases sign with
      | none =>
          have hbits := readHexadecimal_ok_iff digits
          simp only [classifyNumber, if_true]
          cases hread : readHexadecimal digits with
          | ok n => exact iff_of_true ⟨_, rfl⟩ ⟨rfl, hbits.mp ⟨n, hread⟩⟩
          | error complaint =>
              rw [hread] at hbits
              exact iff_of_false (not_ok_of_error complaint)
                fun h => not_ok_of_error complaint (hbits.mpr h.2)
      | plus | minus =>
          refine iff_of_false ?_ (fun h => by cases h.1)
          simp only [classifyNumber, reduceCtorEq, if_false]
          split <;> exact not_ok_of_error _
  | decimal whole fraction exponent =>
      cases fraction with
      | some behind => exact (exists_map_ok _ _).trans readFloat_decimal_ok_iff
      | none =>
          cases exponent with
          | some shift => exact (exists_map_ok _ _).trans readFloat_decimal_ok_iff
          | none => exact (exists_map_ok _ _).trans (readInteger_ok_iff sign whole)

/-- A key is read if it stands for a text. -/
theorem readKey_ok_iff (key : Key) : (∃ name, readKey key = .ok name) ↔ IsText key.parts := by
  unfold readKey IsText
  cases readString key.parts with
  | ok text => exact iff_of_true ⟨_, rfl⟩ ⟨_, rfl⟩
  | error complaint => exact iff_of_false (not_ok_of_error _) (not_ok_of_error _)

mutual

/-- **A value is forgotten without an error exactly if it is readable.**  The induction is on the
value, together with its items and entries. -/
theorem ignore_ok_iff : ∀ value, ignore value = .ok () ↔ value.IsReadable
  | .null place => ⟨fun _ => .null place, fun _ => by rw [ignore]⟩
  | .boolean place b => ⟨fun _ => .boolean place b, fun _ => by rw [ignore]⟩
  | .number place number => by
      rw [ignore, locate_map_unit, classifyNumber_ok_iff]
      exact ⟨.number place, fun | .number _ h => h⟩
  | .string place parts => by
      rw [ignore, locate_map_unit]
      exact ⟨fun h : IsText parts => .string place h, fun | .string _ h => h⟩
  | .array place items => by
      rw [ignore, ignoreItems_ok_iff]
      exact ⟨.array place, fun | .array _ h => h⟩
  | .object place entries => by
      rw [ignore, ignoreEntries_ok_iff]
      exact ⟨fun h => .object place (fun entry hentry => (h entry hentry).1)
          fun entry hentry => (h entry hentry).2,
        fun | .object _ hkey hvalue => fun entry hentry => ⟨hkey entry hentry, hvalue entry hentry⟩⟩

/-- The items of an array are forgotten without an error exactly if all of them are readable. -/
theorem ignoreItems_ok_iff :
    ∀ items, ignoreItems items = .ok () ↔ ∀ item ∈ items, item.IsReadable
  | [] => ⟨fun _ _ hmem => absurd hmem List.not_mem_nil, fun _ => by rw [ignoreItems]⟩
  | item :: items => by
      rw [ignoreItems, bind_unit_ok, ignore_ok_iff item, ignoreItems_ok_iff items,
        List.forall_mem_cons]

/-- So are the entries of an object, their keys included. -/
theorem ignoreEntries_ok_iff : ∀ entries, ignoreEntries entries = .ok () ↔
    ∀ entry ∈ entries, IsText entry.1.parts ∧ entry.2.IsReadable
  | [] => ⟨fun _ _ hmem => absurd hmem List.not_mem_nil, fun _ => by rw [ignoreEntries]⟩
  | (key, value) :: entries => by
      rw [ignoreEntries, List.forall_mem_cons, ← ignoreEntries_ok_iff entries,
        ← ignore_ok_iff value, ← readKey_ok_iff key]
      cases readKey key with
      | error fault =>
          exact iff_of_false (fun h => by cases h) fun h => not_ok_of_error fault h.1.1
      | ok name =>
          refine (bind_unit_ok (ignore value) (ignoreEntries entries)).trans ?_
          exact ⟨fun h => ⟨⟨⟨name, rfl⟩, h.1⟩, h.2⟩, fun h => ⟨h.1.2, h.2⟩⟩

end

end Config

end RelayRoute
