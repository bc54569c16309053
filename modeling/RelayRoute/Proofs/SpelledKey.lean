import RelayRoute.Proofs.SpelledNumber

/-!
# How strings and keys are spelled

The second half of the lexical grammar of JSON5.  A string ends with the quote it starts with, and a
key is a string or an identifier as long as it can be; both are read as they are spelled and spelled
as they are read.

* `SpellsEscape`, `SpellsParts`, `SpellsString` — what stands behind a backslash, between quotes,
  and with them;
* `readEscape?_of_spells`, `readParts?_of_spells`, `readString?_of_spells`, each with its converse —
  strings;
* `SpellsIdentifierParts`, `SpellsIdentifier`, `SpellsKey` — identifiers and keys;
* `readIdentifierParts_of_spells`, `readIdentifier?_of_spells`, `readKey?_of_spells`, each with its
  converse — keys.

The readers take steps, of which there are enough for every text.
-/

namespace RelayRoute.Json5

/-! ## Strings -/

/-- What stands behind a backslash.  A line end there stands for nothing, and a digit is none but
zero. -/
inductive SpellsEscape : List Char → Option Part → Prop
  | byte {word : List Char} {digits : List ℕ} (hword : SpellsDigits 16 word digits)
      (hlength : word.length = 2) :
      SpellsEscape ('x' :: word) (some (.byte (Digits.ofDigits 16 digits)))
  | unit {word : List Char} {digits : List ℕ} (hword : SpellsDigits 16 word digits)
      (hlength : word.length = 4) :
      SpellsEscape ('u' :: word) (some (.unit (Digits.ofDigits 16 digits)))
  | escaped {c : Char} (hline : isLineTerminator c = false) (hother : c ≠ 'x' ∧ c ≠ 'u')
      (hdigit : c.isDigit → c = '0') : SpellsEscape [c] (some (.escaped c))
  | lineEnd {c : Char} (hline : isLineTerminator c) : SpellsEscape [c] none
  | lineEnds : SpellsEscape ['\r', '\n'] none

/-- What stands between two quotes. -/
inductive SpellsParts (quote : Char) : List Char → List Part → Prop
  | nil : SpellsParts quote [] []
  | plain {c : Char} {cs : List Char} {parts : List Part} (hline : isLineTerminator c = false)
      (hother : c ≠ quote ∧ c ≠ '\\') (h : SpellsParts quote cs parts) :
      SpellsParts quote (c :: cs) (.plain c :: parts)
  | escape {word cs : List Char} {part? : Option Part} {parts : List Part}
      (hescape : SpellsEscape word part?) (h : SpellsParts quote cs parts) :
      SpellsParts quote ('\\' :: (word ++ cs)) (part?.toList ++ parts)

/-- A string with its quotes, which are double or single. -/
inductive SpellsString : List Char → List Part → Prop
  | quoted {quote : Char} {body : List Char} {parts : List Part}
      (hquote : quote = '"' ∨ quote = '\'') (h : SpellsParts quote body parts) :
      SpellsString (quote :: (body ++ [quote])) parts

theorem mapM_eq_some_iff {base : ℕ} {word : List Char} {digits : List ℕ} :
    word.mapM (Digits.value? base) = some digits ↔ SpellsDigits base word digits := by
  induction word generalizing digits with
  | nil => cases digits <;> simp [SpellsDigits]
  | cons c cs ih =>
      cases digits with
      | nil => simp [SpellsDigits, List.mapM_cons, Option.bind_eq_some_iff]
      | cons d digits =>
          have hcons : SpellsDigits base (c :: cs) (d :: digits) ↔
              Digits.value? base c = some d ∧ SpellsDigits base cs digits := by
            simp [SpellsDigits]
          rw [hcons, ← ih]
          simp [List.mapM_cons, Option.bind_eq_some_iff]

/-- So many digits in base sixteen are read as they are written. -/
theorem readHexUnits?_of_spells {word : List Char} {digits : List ℕ}
    (h : SpellsDigits 16 word digits) (rest : List Char) :
    readHexUnits? word.length (word ++ rest) = some (Digits.ofDigits 16 digits, rest) := by
  have hlength : digits.length = word.length := h.length_eq.symm
  rw [readHexUnits?, List.take_left, mapM_eq_some_iff.mpr h]
  dsimp only
  rw [if_pos hlength, List.drop_left]

/-- So many digits in base sixteen that are read are written. -/
theorem spellsDigits_of_readHexUnits? {count n : ℕ} {cs rest : List Char}
    (h : readHexUnits? count cs = some (n, rest)) :
    ∃ word digits, cs = word ++ rest ∧ word.length = count ∧ SpellsDigits 16 word digits ∧
      n = Digits.ofDigits 16 digits := by
  unfold readHexUnits? at h
  split at h
  · next digits hdigits =>
      obtain ⟨hlength, hread⟩ := Option.ite_none_right_eq_some.mp h
      cases hread
      have hword := mapM_eq_some_iff.mp hdigits
      have hlength : (cs.take count).length = count := hword.length_eq.trans hlength
      exact ⟨cs.take count, digits, (List.take_append_drop count cs).symm, hlength, hword, rfl⟩
  · cases h

/-- Behind a backslash a character other than the marks of numbers is a line end, or stands for
itself. -/
theorem readEscape?_cons {c : Char} {cs : List Char} (hother : c ≠ 'x' ∧ c ≠ 'u')
    (hfeed : c = '\r' → cs.head? ≠ some '\n') :
    readEscape? (c :: cs) =
      if isLineTerminator c then some (none, cs)
      else if c.isDigit && c != '0' then none
      else some (some (.escaped c), cs) := by
  rw [readEscape?.eq_def]
  split <;> simp_all

/-- What stands behind a backslash is read as it is written, unless a carriage return goes on with a
line feed.  The marks of numbers are tried first, and are no line ends. -/
theorem readEscape?_of_spells {word rest : List Char} {part? : Option Part}
    (h : SpellsEscape word part?) (hfeed : rest.head? ≠ some '\n') :
    readEscape? (word ++ rest) = some (part?, rest) := by
  cases h with
  | byte hword hlength | unit hword hlength =>
      have hread := readHexUnits?_of_spells hword rest
      rw [hlength] at hread
      rw [List.cons_append, readEscape?, hread]
      rfl
  | escaped hline hother hdigit =>
      rename_i c
      have hdigit : (c.isDigit && c != '0') = false := by
        cases hc : c.isDigit with
        | false => rfl
        | true => simp [hdigit hc]
      rw [List.singleton_append, readEscape?_cons hother fun _ => hfeed, hline, hdigit]
      rfl
  | lineEnd hline =>
      rename_i c
      have hother : c ≠ 'x' ∧ c ≠ 'u' := by
        constructor <;> rintro rfl <;> exact absurd hline (by decide)
      rw [List.singleton_append, readEscape?_cons hother fun _ => hfeed, if_pos hline]
  | lineEnds => rfl

/-- What is read behind a backslash is written. -/
theorem spellsEscape_of_readEscape? {cs rest : List Char} {part? : Option Part}
    (h : readEscape? cs = some (part?, rest)) :
    ∃ word, cs = word ++ rest ∧ SpellsEscape word part? := by
  rw [readEscape?.eq_def] at h
  split at h
  · cases h
  · cases h
    exact ⟨['\r', '\n'], rfl, .lineEnds⟩
  · obtain ⟨⟨n, rest⟩, hread, hpart⟩ := Option.map_eq_some_iff.mp h
    cases hpart
    obtain ⟨word, digits, rfl, hlength, hword, rfl⟩ := spellsDigits_of_readHexUnits? hread
    exact ⟨'x' :: word, rfl, .byte hword hlength⟩
  · obtain ⟨⟨n, rest⟩, hread, hpart⟩ := Option.map_eq_some_iff.mp h
    cases hpart
    obtain ⟨word, digits, rfl, hlength, hword, rfl⟩ := spellsDigits_of_readHexUnits? hread
    exact ⟨'u' :: word, rfl, .unit hword hlength⟩
  · next c cs _ hx hu =>
      split at h
      · next hline =>
          cases h
          exact ⟨[c], rfl, .lineEnd hline⟩
      · next hline =>
          split at h
          · cases h
          · next hdigit =>
              cases h
              refine ⟨[c], rfl, .escaped (by simpa using hline) ⟨hx, hu⟩ fun hc => ?_⟩
              simpa [hc] using hdigit

/-- What stands in quotes starts with no line end. -/
theorem SpellsParts.head?_ne {quote : Char} (hquote : quote = '"' ∨ quote = '\'')
    {body : List Char} {parts : List Part} (h : SpellsParts quote body parts) (rest : List Char) :
    (body ++ quote :: rest).head? ≠ some '\n' := by
  cases h with
  | nil =>
      rcases hquote with rfl | rfl <;> simp
  | plain hline _ _ =>
      rintro ⟨⟩
      exact absurd hline (by decide)
  | escape _ _ => simp

/-- What stands in quotes is read as it is written, with more steps than characters.  A carriage
return that stands for nothing is not taken for half of a longer line end, since no line feed may
stand behind it. -/
theorem readParts?_of_spells {quote : Char} (hquote : quote = '"' ∨ quote = '\'')
    {body : List Char} {parts : List Part} (h : SpellsParts quote body parts) (rest : List Char)
    {steps : ℕ} (hsteps : body.length < steps) :
    readParts? quote steps (body ++ quote :: rest) = some (parts, rest) := by
  have hbackslash : quote ≠ '\\' := by rcases hquote with rfl | rfl <;> decide
  induction h generalizing steps with
  | nil =>
      obtain ⟨left, rfl⟩ := Nat.exists_eq_add_one_of_ne_zero (Nat.ne_of_gt hsteps)
      rw [List.nil_append, readParts?.eq_def]
      split <;> simp_all
  | plain hline hother _ ih =>
      obtain ⟨left, rfl⟩ :=
        Nat.exists_eq_add_one_of_ne_zero (Nat.ne_of_gt (Nat.zero_lt_of_lt hsteps))
      rw [List.cons_append, readParts?.eq_def]
      split <;> simp_all
  | escape hescape hparts ih =>
      obtain ⟨left, rfl⟩ :=
        Nat.exists_eq_add_one_of_ne_zero (Nat.ne_of_gt (Nat.zero_lt_of_lt hsteps))
      have hfits := hsteps
      rw [List.length_cons, List.length_append] at hfits
      have hread := readEscape?_of_spells hescape (hparts.head?_ne hquote rest)
      rw [List.cons_append, List.append_assoc, readParts?, hread]
      simp only [Option.bind_eq_bind, Option.bind_some]
      rw [ih (by omega)]
      rfl

/-- What is read up to a quote is written.  The induction is that of the reader, one character or
one escape at a time. -/
theorem spellsParts_of_readParts? {quote : Char} {steps : ℕ} {cs rest : List Char}
    {parts : List Part} (h : readParts? quote steps cs = some (parts, rest)) :
    ∃ body, cs = body ++ quote :: rest ∧ SpellsParts quote body parts := by
  induction steps generalizing cs parts with
  | zero =>
      rw [readParts?.eq_def] at h
      cases h
  | succ steps ih =>
      rw [readParts?.eq_def] at h
      split at h
      · cases h
      · cases h
      · next hsteps =>
          cases hsteps
          obtain ⟨⟨part?, after⟩, hescape, h⟩ := Option.bind_eq_some_iff.mp h
          obtain ⟨⟨others, rest⟩, hothers, hparts⟩ := Option.bind_eq_some_iff.mp h
          cases hparts
          obtain ⟨word, rfl, hword⟩ := spellsEscape_of_readEscape? hescape
          obtain ⟨body, rfl, hbody⟩ := ih hothers
          refine ⟨'\\' :: (word ++ body), ?_, .escape hword hbody⟩
          rw [List.cons_append, List.append_assoc]
      · next c cs hbackslash hsteps =>
          cases hsteps
          split at h
          · next hquote =>
              cases h
              exact ⟨[], by rw [hquote]; rfl, .nil⟩
          · next hquote =>
              obtain ⟨hline, h⟩ := Option.ite_none_left_eq_some.mp h
              obtain ⟨⟨others, rest⟩, hothers, hparts⟩ := Option.map_eq_some_iff.mp h
              cases hparts
              obtain ⟨body, rfl, hbody⟩ := ih hothers
              exact ⟨c :: body, rfl,
                .plain (by simpa using hline) ⟨hquote, hbackslash⟩ hbody⟩

/-- **A string is read as it is written.** -/
theorem readString?_of_spells {word : List Char} {parts : List Part} (h : SpellsString word parts)
    (rest : List Char) : readString? (word ++ rest) = some (parts, rest) := by
  cases h with
  | quoted hquote hparts =>
      rename_i quote body
      have hsteps : body.length < (body ++ quote :: rest).length + 1 := by
        rw [List.length_append]
        omega
      have hread := readParts?_of_spells hquote hparts rest hsteps
      have htext : quote :: (body ++ [quote]) ++ rest = quote :: (body ++ quote :: rest) := by simp
      rw [htext]
      rcases hquote with rfl | rfl <;> rw [readString?, hread]

/-- **A string that is read is written.** -/
theorem spellsString_of_readString? {cs rest : List Char} {parts : List Part}
    (h : readString? cs = some (parts, rest)) :
    ∃ word, cs = word ++ rest ∧ SpellsString word parts := by
  unfold readString? at h
  split at h
  · obtain ⟨body, rfl, hbody⟩ := spellsParts_of_readParts? h
    exact ⟨_, by simp, .quoted (.inl rfl) hbody⟩
  · obtain ⟨body, rfl, hbody⟩ := spellsParts_of_readParts? h
    exact ⟨_, by simp, .quoted (.inr rfl) hbody⟩
  · cases h

/-! ## Keys -/

/-- What an identifier consists of. -/
inductive SpellsIdentifierParts : List Char → List Part → Prop
  | nil : SpellsIdentifierParts [] []
  | plain {c : Char} {cs : List Char} {parts : List Part} (hc : Unicode.isIdentifierPart c)
      (h : SpellsIdentifierParts cs parts) : SpellsIdentifierParts (c :: cs) (.plain c :: parts)
  | unit {word cs : List Char} {digits : List ℕ} {parts : List Part}
      (hword : SpellsDigits 16 word digits) (hlength : word.length = 4)
      (h : SpellsIdentifierParts cs parts) :
      SpellsIdentifierParts ('\\' :: 'u' :: (word ++ cs))
        (.unit (Digits.ofDigits 16 digits) :: parts)

/-- An identifier starts with a character of its own or with four digits. -/
structure SpellsIdentifier (word : List Char) (parts : List Part) : Prop where
  spells : SpellsIdentifierParts word parts
  starts : ∃ c ∈ word.head?, Unicode.isIdentifierStart c ∨ c = '\\'

/-- A key is a string, or an identifier as long as it can be. -/
inductive SpellsKey : List Char → List Part → List Char → Prop
  | identifier {word rest : List Char} {parts : List Part} (h : SpellsIdentifier word parts)
      (hend : ∀ c ∈ rest.head?, Unicode.isIdentifierPart c = false) :
      SpellsKey (word ++ rest) parts rest
  | string {word rest : List Char} {parts : List Part} (h : SpellsString word parts) :
      SpellsKey (word ++ rest) parts rest

/-- A character that an identifier starts with may stand in it. -/
theorem isIdentifierPart_of_isIdentifierStart {c : Char} (h : Unicode.isIdentifierStart c) :
    Unicode.isIdentifierPart c := by
  unfold Unicode.isIdentifierPart
  by_cases hascii : c.toNat < 128
  · simp [hascii, h]
  · rw [Unicode.isIdentifierStart, if_neg hascii] at h
    simp [hascii, h]

/-- A character of an identifier is read. -/
theorem readIdentifierParts_cons {c : Char} (h : Unicode.isIdentifierPart c) (steps : ℕ)
    (cs : List Char) :
    readIdentifierParts (steps + 1) (c :: cs) =
      (.plain c :: (readIdentifierParts steps cs).1, (readIdentifierParts steps cs).2) := by
  have hbackslash : c ≠ '\\' := by
    rintro rfl
    exact absurd h (by decide)
  rw [readIdentifierParts.eq_def]
  split <;> simp_all

/-- Nothing of an identifier is read from anything else. -/
theorem readIdentifierParts_end {rest : List Char}
    (h : ∀ c ∈ rest.head?, Unicode.isIdentifierPart c = false ∧ c ≠ '\\') (steps : ℕ) :
    readIdentifierParts steps rest = ([], rest) := by
  rw [readIdentifierParts.eq_def]
  split <;> simp_all

/-- An identifier is read as it is written, with no fewer steps than characters, up to something
that is no part of it. -/
theorem readIdentifierParts_of_spells {word rest : List Char} {parts : List Part}
    (h : SpellsIdentifierParts word parts)
    (hend : ∀ c ∈ rest.head?, Unicode.isIdentifierPart c = false ∧ c ≠ '\\') {steps : ℕ}
    (hsteps : word.length ≤ steps) :
    readIdentifierParts steps (word ++ rest) = (parts, rest) := by
  induction h generalizing steps with
  | nil => exact readIdentifierParts_end hend steps
  | plain hc _ ih =>
      obtain ⟨left, rfl⟩ :=
        Nat.exists_eq_add_one_of_ne_zero (Nat.ne_of_gt (Nat.zero_lt_of_lt hsteps))
      rw [List.cons_append, readIdentifierParts_cons hc, ih (Nat.le_of_succ_le_succ hsteps)]
  | unit hword hlength _ ih =>
      obtain ⟨left, rfl⟩ :=
        Nat.exists_eq_add_one_of_ne_zero (Nat.ne_of_gt (Nat.zero_lt_of_lt hsteps))
      rename_i word cs digits parts _
      have hread := readHexUnits?_of_spells hword (cs ++ rest)
      rw [hlength] at hread
      rw [List.length_cons, List.length_cons, List.length_append] at hsteps
      rw [List.cons_append, List.cons_append, List.append_assoc, readIdentifierParts, hread]
      dsimp only
      rw [ih (by omega)]

/-- What is read of an identifier is written, and with enough steps nothing of it is left. -/
theorem spells_readIdentifierParts {steps : ℕ} {cs : List Char} (hsteps : cs.length ≤ steps) :
    ∃ word, cs = word ++ (readIdentifierParts steps cs).2 ∧
      SpellsIdentifierParts word (readIdentifierParts steps cs).1 ∧
      ∀ c ∈ (readIdentifierParts steps cs).2.head?, Unicode.isIdentifierPart c = false := by
  induction steps generalizing cs with
  | zero =>
      obtain rfl := List.length_eq_zero_iff.mp (Nat.le_zero.mp hsteps)
      exact ⟨[], rfl, .nil, by simp [readIdentifierParts]⟩
  | succ steps ih =>
      rw [readIdentifierParts.eq_def]
      split
      · next heq => cases heq
      · exact ⟨[], rfl, .nil, by simp⟩
      · next heq =>
          cases heq
          rw [List.length_cons, List.length_cons] at hsteps
          split
          · next n after hunits =>
              obtain ⟨digits, ds, rfl, hlength, hdigits, rfl⟩ :=
                spellsDigits_of_readHexUnits? hunits
              rw [List.length_append] at hsteps
              have hfits : after.length ≤ steps := by omega
              obtain ⟨word, hafter, hword, hend⟩ := ih hfits
              refine ⟨'\\' :: 'u' :: (digits ++ word), ?_, .unit hdigits hlength hword, hend⟩
              rw [List.cons_append, List.cons_append, List.append_assoc, ← hafter]
          · refine ⟨[], rfl, .nil, ?_⟩
            rintro c ⟨⟩
            decide
      · next c cs _ heq =>
          cases heq
          split
          · next hc =>
              obtain ⟨word, hcs, hword, hend⟩ := ih (Nat.le_of_succ_le_succ hsteps)
              exact ⟨c :: word, congrArg (c :: ·) hcs, .plain hc hword, hend⟩
          · next hc =>
              refine ⟨[], rfl, .nil, ?_⟩
              rintro d ⟨⟩
              simpa using hc

/-- An identifier that starts with a character of its own is read from there on. -/
theorem readIdentifier?_cons {c : Char} (h : Unicode.isIdentifierStart c) (cs : List Char) :
    readIdentifier? (c :: cs) = some (readIdentifierParts (cs.length + 1) (c :: cs)) := by
  have hbackslash : c ≠ '\\' := by
    rintro rfl
    exact absurd h (by decide)
  rw [readIdentifier?.eq_def]
  split <;> simp_all

/-- An identifier is read as it is written, up to something that is no part of it. -/
theorem readIdentifier?_of_spells {word rest : List Char} {parts : List Part}
    (h : SpellsIdentifier word parts)
    (hend : ∀ c ∈ rest.head?, Unicode.isIdentifierPart c = false ∧ c ≠ '\\') :
    readIdentifier? (word ++ rest) = some (parts, rest) := by
  obtain ⟨hspells, c, hhead, hc⟩ := h
  obtain ⟨cs, rfl⟩ := List.head?_eq_some_iff.mp hhead
  have hsteps : (c :: cs).length ≤ (cs ++ rest).length + 1 := by
    rw [List.length_cons, List.length_append]
    omega
  have hread := readIdentifierParts_of_spells hspells hend hsteps
  rw [List.cons_append] at hread ⊢
  rcases hc with hstart | rfl
  · rw [readIdentifier?_cons hstart, hread]
  · rw [readIdentifier?, hread]
    cases hspells with
    | plain _ _ | unit _ _ _ => rfl

/-- An identifier that is read is written, and nothing of it is left. -/
theorem spellsIdentifier_of_readIdentifier? {cs rest : List Char} {parts : List Part}
    (h : readIdentifier? cs = some (parts, rest)) :
    ∃ word, cs = word ++ rest ∧ SpellsIdentifier word parts ∧
      ∀ c ∈ rest.head?, Unicode.isIdentifierPart c = false := by
  rw [readIdentifier?.eq_def] at h
  split at h
  · cases h
  · next cs =>
      obtain ⟨word, hcs, hword, hend⟩ :=
        spells_readIdentifierParts (le_refl ('\\' :: cs).length)
      rw [List.length_cons] at hcs hword hend
      split at h
      · cases h
      · next hne =>
          rw [Option.some.inj h] at hcs hword hend hne
          cases word with
          | nil =>
              cases hword
              exact absurd rfl (hne _)
          | cons c word =>
              obtain ⟨rfl, -⟩ := List.cons.inj hcs
              exact ⟨_, hcs, ⟨hword, _, rfl, .inr rfl⟩, hend⟩
  · next c cs _ =>
      obtain ⟨hstart, h⟩ := Option.ite_none_right_eq_some.mp h
      have hpart := isIdentifierPart_of_isIdentifierStart hstart
      rw [readIdentifierParts_cons hpart] at h
      cases h
      obtain ⟨word, hcs, hword, hend⟩ := spells_readIdentifierParts (le_refl cs.length)
      exact ⟨c :: word, congrArg (c :: ·) hcs, ⟨.plain hpart hword, c, rfl, .inl hstart⟩, hend⟩

/-- A character that a key starts with. -/
def startsKey (c : Char) : Bool :=
  Unicode.isIdentifierStart c || c ∈ ['\\', '"', '\'']

/-- A key starts with an identifier or with a quote. -/
theorem SpellsKey.head? {cs rest : List Char} {parts : List Part} (h : SpellsKey cs parts rest) :
    ∃ c ∈ cs.head?, startsKey c := by
  cases h with
  | identifier hspells _ =>
      obtain ⟨c, hhead, hc⟩ := hspells.starts
      refine ⟨c, by rw [List.head?_append, hhead]; rfl, ?_⟩
      rcases hc with hstart | rfl
      · simp [startsKey, hstart]
      · decide
  | string hspells =>
      cases hspells with
      | quoted hquote _ =>
          refine ⟨_, rfl, ?_⟩
          rcases hquote with rfl | rfl <;> decide

/-- A key takes no text away from the rest. -/
theorem length_le_of_spellsKey {cs rest : List Char} {parts : List Part}
    (h : SpellsKey cs parts rest) : rest.length ≤ cs.length := by
  cases h with
  | identifier _ _ | string _ =>
      rw [List.length_append]
      omega

/-- **A key is read as it is written.** -/
theorem readKey?_of_spells {cs rest : List Char} {parts : List Part} (h : SpellsKey cs parts rest)
    (hbackslash : rest.head? ≠ some '\\') :
    readKey? cs = some (⟨cs.length, parts⟩, rest) := by
  cases h with
  | identifier hspells hend =>
      have hread := readIdentifier?_of_spells hspells fun c hc =>
        ⟨hend c hc, fun heq => hbackslash (heq ▸ hc)⟩
      rw [readKey?, hread]
      rfl
  | string hspells =>
      rename_i word
      have hidentifier : readIdentifier? (word ++ rest) = none := by
        cases hspells with
        | quoted hquote _ => rcases hquote with rfl | rfl <;> rfl
      rw [readKey?, hidentifier, readString?_of_spells hspells]
      rfl

/-- **A key that is read is written.** -/
theorem spellsKey_of_readKey? {cs rest : List Char} {key : Key}
    (h : readKey? cs = some (key, rest)) :
    key.place = cs.length ∧ SpellsKey cs key.parts rest := by
  obtain ⟨⟨parts, rest⟩, hread, hkey⟩ := Option.map_eq_some_iff.mp h
  cases hkey
  refine ⟨rfl, ?_⟩
  rcases Option.or_eq_some_iff.mp hread with hidentifier | ⟨-, hstring⟩
  · obtain ⟨word, rfl, hword, hend⟩ := spellsIdentifier_of_readIdentifier? hidentifier
    exact .identifier hword hend
  · obtain ⟨word, rfl, hword⟩ := spellsString_of_readString? hstring
    exact .string hword

end RelayRoute.Json5
