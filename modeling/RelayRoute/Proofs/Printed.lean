import Mathlib.Data.List.Forall2
import RelayRoute.Config.Printer
import RelayRoute.Proofs.SpelledText

/-!
# Printed values are spelled

The values in the text of a configuration are truth values, numbers, `null` and objects of these,
without blanks.  A text that prints a value is shown to spell that value, in the sense in which
`Spells` describes the grammar, so that the reader finds it.

* `Prints` — a text spells one value, whatever stands behind it, and what can be said of that value;
  by `Prints.parse` it is then what the whole text is parsed into;
* `prints_null`, `prints_boolean`, `prints_natural` — values that hold no other one;
* `IsEntry`, `spells_printEntries` — entries with commas between them;
* `prints_object` — an object of texts that print something prints an object of what they print.
-/

namespace RelayRoute.Json5

open Config

/-- A text that spells a value with a property. -/
def Prints (text : List Char) (P : Value → Prop) : Prop :=
  ∀ rest, ∃ value, Spells (text ++ rest) (.value value) rest ∧ P value

namespace Prints

variable {text : List Char} {P Q : Value → Prop}

/-- What follows from what is known of a value is known of it. -/
theorem imp (h : Prints text P) (himp : ∀ value, P value → Q value) : Prints text Q := by
  intro rest
  obtain ⟨value, hspells, hvalue⟩ := h rest
  exact ⟨value, hspells, himp value hvalue⟩

/-- A printed value that is a whole text. -/
theorem parse (h : Prints text P) : ∃ value, parse? text = some value ∧ P value := by
  obtain ⟨value, hspells, hvalue⟩ := h []
  rw [List.append_nil] at hspells
  have hspace : Spaced [] [] := .nothing (by simp)
  exact ⟨value, parse?_eq_some_iff.mpr ⟨text, [], spaced_of_spells_value hspells, hspells, hspace⟩,
    hvalue⟩

end Prints

/-! ## Values that hold no other one -/

/-- What is missing is printed as `null`. -/
theorem prints_null : Prints ['n', 'u', 'l', 'l'] fun value => ∃ place, value = .null place :=
  fun _ => ⟨_, .atom .nullWord, _, rfl⟩

/-- A truth value is printed as its word. -/
theorem prints_boolean (b : Bool) :
    Prints (printBoolean b) fun value => ∃ place, value = .boolean place b := by
  intro rest
  cases b with
  | true => exact ⟨_, .atom .trueWord, _, rfl⟩
  | false => exact ⟨_, .atom .falseWord, _, rfl⟩

/-- A number starts with a digit, and with zero only if it is zero. -/
theorem write_eq_cons (n : Nat) :
    ∃ (d : Fin 10) (cs : List Char), Digits.write 10 n = Nat.digitChar d :: cs ∧
      (Nat.digitChar d = '0' → n = 0) := by
  by_cases hn : n = 0
  · subst hn
    exact ⟨0, [], rfl, fun _ => rfl⟩
  · obtain ⟨d, hd, hlt, hhead⟩ := Digits.head?_write (by decide : 1 < 10) hn
    obtain ⟨cs, hcs⟩ := List.head?_eq_some_iff.mp hhead
    have hzero : ∀ d : Fin 10, d.val ≠ 0 → Nat.digitChar d ≠ '0' := by decide
    exact ⟨⟨d, hlt⟩, cs, hcs, fun h => absurd h (hzero ⟨d, hlt⟩ hd)⟩

/-- A number is printed without sign, point and exponent. -/
theorem prints_natural (n : Nat) :
    Prints (printNatural n) fun value => ∃ place ds,
      value = .number place ⟨.none, .decimal ds none none⟩ ∧ Digits.ofDigits 10 ds = n := by
  intro rest
  obtain ⟨ds, hds, hvalue, hne⟩ := Digits.exists_digits_write (by decide : 1 < 10) (by decide) n
  have hwhole : SpellsWhole (Digits.write 10 n) ds := by
    refine ⟨hds, hne, fun hhead => ?_⟩
    obtain ⟨d, cs, hwrite, hzero⟩ := write_eq_cons n
    rw [hwrite, List.head?_cons, Option.some.injEq] at hhead
    obtain rfl : n = 0 := hzero hhead
    rfl
  have hnumber : SpellsNumber (Digits.write 10 n ++ []) ⟨.none, .decimal ds none none⟩ :=
    ⟨_, rfl, .whole hwhole .missing⟩
  rw [List.append_nil] at hnumber
  exact ⟨_, .atom (.number hnumber), _, ds, rfl, hvalue⟩

/-! ## Objects -/

/-- Characters that stand for themselves between double quotes. -/
def isLiteral (c : Char) : Bool :=
  c != '\\' && c != '"' && !isLineTerminator c

/-- Characters that stand for themselves are parts of their own. -/
theorem spellsParts_literal {text : List Char} (h : ∀ c ∈ text, isLiteral c) :
    SpellsParts '"' text (text.map .plain) := by
  induction text with
  | nil => exact .nil
  | cons c cs ih =>
      obtain ⟨hc, hcs⟩ := List.forall_mem_cons.mp h
      simp only [isLiteral, Bool.and_eq_true, bne_iff_ne, Bool.not_eq_true'] at hc
      exact .plain hc.2 ⟨hc.1.2, hc.1.1⟩ (ih hcs)

/-- Parts that stand for themselves are the text they were. -/
theorem readParts_plain (text : List Char) : Config.readParts (text.map .plain) = .ok text := by
  induction text with
  | nil => rfl
  | cons c cs ih =>
      rw [List.map_cons, Config.readParts, ih]
      rfl

/-- A key is read as it was printed. -/
theorem readKey_literal (place : ℕ) (name : String) :
    Config.readKey ⟨place, name.toList.map .plain⟩ = .ok name := by
  rw [Config.readKey, Config.readString, readParts_plain]
  simp [Except.map, Config.locate]

/-- The text of an entry of an object. -/
def printEntry (name : String) (text : List Char) : List Char :=
  '"' :: name.toList ++ '"' :: ':' :: text

/-- A printed entry is a key, a colon and what is printed. -/
theorem printEntry_append (name : String) (text rest : List Char) :
    printEntry name text ++ rest =
      '"' :: (name.toList ++ ['"']) ++ ':' :: (text ++ rest) := by
  simp [printEntry]

/-- What an entry of a printed object is: a name and a value with a property. -/
def IsEntry {ι : Type} (name : ι → String) (P : ι → Value → Prop) (field : ι)
    (entry : Key × Value) : Prop :=
  Config.readKey entry.1 = .ok (name field) ∧ P field entry.2

section

variable {ι : Type} {name : ι → String} {print : ι → List Char} {P : ι → Value → Prop}

/-- The text of entries with commas between them. -/
def printEntries (name : ι → String) (print : ι → List Char) (fields : List ι) : List Char :=
  Text.join ',' (fields.map fun field => printEntry (name field) (print field))

/-- There may be nothing in front of an entry. -/
theorem spaced_printEntries (field : ι) (fields : List ι) (rest : List Char) :
    Spaced (printEntries name print (field :: fields) ++ rest)
      (printEntries name print (field :: fields) ++ rest) := by
  rw [printEntries, List.map_cons, Text.join_cons, printEntry]
  exact .of_cons (by decide)

/-- Entries with commas between them are spelled one after another, up to the brace behind them.
The induction is on the entries, of which there is at least one. -/
theorem spells_printEntries {fields : List ι} (hne : fields ≠ [])
    (hname : ∀ field ∈ fields, ∀ c ∈ (name field).toList, isLiteral c)
    (hprints : ∀ field ∈ fields, Prints (print field) (P field)) (rest : List Char) :
    ∃ entries, Spells (printEntries name print fields ++ '\x7d' :: rest) (.entries entries) rest ∧
      List.Forall₂ (IsEntry name P) fields entries := by
  induction fields with
  | nil => exact absurd rfl hne
  | cons field fields ih =>
      obtain ⟨hfield, hfields⟩ := List.forall_mem_cons.mp hname
      obtain ⟨hvalue, hvalues⟩ := List.forall_mem_cons.mp hprints
      have hkey (behind : List Char) : SpellsKey
          ('"' :: ((name field).toList ++ ['"']) ++ ':' :: behind)
          ((name field).toList.map .plain) (':' :: behind) :=
        .string (.quoted (.inl rfl) (spellsParts_literal hfield))
      cases fields with
      | nil =>
          obtain ⟨value, hspells, hP⟩ := hvalue ('\x7d' :: rest)
          have hsingle : printEntries name print [field] = printEntry (name field) (print field) :=
            rfl
          rw [hsingle, printEntry_append]
          have hname := SpellsName.colon (hkey _) (.of_cons (by decide))
            (spaced_of_spells_value hspells)
          exact ⟨_, .lastEntry hname hspells (.of_cons (by decide)),
            .cons ⟨readKey_literal _ _, hP⟩ .nil⟩
      | cons next fields =>
          let further := printEntries name print (next :: fields) ++ '\x7d' :: rest
          have hjoin : printEntries name print (field :: next :: fields) ++ '\x7d' :: rest =
              printEntry (name field) (print field) ++ ',' :: further := by
            simp [printEntries, Text.join, further]
          have hcomma : Parted (',' :: further) further :=
            .comma (.of_cons (by decide)) (spaced_printEntries next fields _)
          obtain ⟨value, hspells, hP⟩ := hvalue (',' :: further)
          obtain ⟨entries, hothers, hall⟩ := ih (by simp) hfields hvalues
          have hname := SpellsName.colon (hkey _) (.of_cons (by decide))
            (spaced_of_spells_value hspells)
          rw [hjoin, printEntry_append]
          exact ⟨_, .entry hname hspells hcomma hothers, .cons ⟨readKey_literal _ _, hP⟩ hall⟩

/-- **Texts that print values print an object of these**, if the names need no escaping: each entry
is its name, a colon and what is printed, in the order of the fields. -/
theorem prints_object {fields : List ι} (hne : fields ≠ [])
    (hname : ∀ field ∈ fields, ∀ c ∈ (name field).toList, isLiteral c)
    (hprints : ∀ field ∈ fields, Prints (print field) (P field)) :
    Prints (printObject (fields.map fun field => (name field, print field))) fun value =>
      ∃ place entries, value = .object place entries ∧
        List.Forall₂ (IsEntry name P) fields entries := by
  intro rest
  have htext : printObject (fields.map fun field => (name field, print field)) ++ rest =
      '\x7b' :: (printEntries name print fields ++ '\x7d' :: rest) := by
    simp [printObject, printEntries, printEntry, Function.comp_def]
  obtain ⟨entries, hentries, hall⟩ := spells_printEntries hne hname hprints rest
  have hspace : Spaced (printEntries name print fields ++ '\x7d' :: rest)
      (printEntries name print fields ++ '\x7d' :: rest) := by
    cases fields with
    | nil => exact absurd rfl hne
    | cons field fields => exact spaced_printEntries field fields _
  rw [htext]
  exact ⟨_, .object hspace hentries, _, entries, rfl, hall⟩

end

end RelayRoute.Json5
