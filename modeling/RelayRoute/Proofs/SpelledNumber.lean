import RelayRoute.Proofs.WrittenNumber

/-!
# How blanks, comments and numbers are spelled

The first half of the lexical grammar of JSON5, said by relations between a text and what it spells
that know nothing of readers.  What is spelled is read, if the text behind it cannot go on with it,
and what is read is spelled.

* `Spaced`, `skip_of_spaced`, `spaced_skip` — blanks and comments;
* `Follows` — what may stand behind a value or a key, so that neither goes on;
* `SpellsDigits`, `SpellsExponent`, `SpellsWhole`, `SpellsBody`, `SpellsNumber` — the parts of a
  number, and a number with its sign;
* `readDigits?_of_spells`, `readWhole?_of_spells`, `readExponent_of_spells`, `readBody_of_spells` —
  each of them is read as it is written, with its converse beside it;
* `readNumber?_of_spells`, `spellsNumber_of_readNumber?` — so is a number.
-/

namespace RelayRoute.Json5

/-! ## Blanks and comments -/

/-- Blanks and comments stand between a text and its rest, which starts with no blank.  A comment is
closed at the first place where it can be. -/
inductive Spaced : List Char → List Char → Prop
  | nothing {rest : List Char} (h : ∀ c ∈ rest.head?, isBlank c = false) : Spaced rest rest
  | blank {c : Char} {cs rest : List Char} (hblank : isBlank c) (h : Spaced cs rest) :
      Spaced (c :: cs) rest
  | lineComment {comment cs rest : List Char} (hcomment : ∀ c ∈ comment, isLineTerminator c = false)
      (hend : ∀ c ∈ cs.head?, isLineTerminator c) (h : Spaced cs rest) :
      Spaced ('/' :: '/' :: (comment ++ cs)) rest
  | blockComment {comment cs rest : List Char} (hcomment : ¬ ['*', '/'] <:+: comment)
      (h : Spaced cs rest) : Spaced ('/' :: '*' :: (comment ++ '*' :: '/' :: cs)) rest

/-- There may be nothing in front of what is no blank. -/
theorem Spaced.of_cons {c : Char} {cs : List Char} (h : isBlank c = false) :
    Spaced (c :: cs) (c :: cs) := by
  refine .nothing ?_
  rintro d ⟨⟩
  exact h

theorem isBlank_of_isLineTerminator {c : Char} (h : isLineTerminator c) : isBlank c := by
  simp [isBlank, h]

/-- There is nothing to skip in front of a character that is no blank and starts no comment. -/
theorem skip_cons {c : Char} {cs : List Char} (hblank : isBlank c = false) (hslash : c ≠ '/') :
    skip (c :: cs) = c :: cs := by
  rw [skip, skipFrom.eq_def]
  split <;> simp_all

theorem skip_blank {c : Char} (h : isBlank c) (cs : List Char) : skip (c :: cs) = skip cs := by
  have hslash : c ≠ '/' := by
    rintro rfl
    exact absurd h (by decide)
  rw [skip, skipFrom.eq_def]
  split <;> simp_all [skip]

/-- A line end closes a line comment. -/
theorem skipFrom_inLine_cons (opening : List Char) (c : Char) (cs : List Char) :
    skipFrom opening .inLine (c :: cs) =
      if isLineTerminator c then skip cs else skipFrom [] .inLine cs := by
  rw [skipFrom.eq_def]
  rfl

/-- A line comment ends where a line ends. -/
theorem skipFrom_inLine {comment cs : List Char}
    (hcomment : ∀ c ∈ comment, isLineTerminator c = false)
    (hend : ∀ c ∈ cs.head?, isLineTerminator c) (opening : List Char) :
    skipFrom opening .inLine (comment ++ cs) = skip cs := by
  induction comment generalizing opening with
  | nil =>
      cases cs with
      | nil => rfl
      | cons c cs =>
          have hline : isLineTerminator c := hend c rfl
          rw [skip_blank (isBlank_of_isLineTerminator hline), List.nil_append,
            skipFrom_inLine_cons, if_pos hline]
  | cons c comment ih =>
      obtain ⟨hc, hcomment⟩ := List.forall_mem_cons.mp hcomment
      rw [List.cons_append, skipFrom_inLine_cons, hc]
      exact ih hcomment []

/-- A text goes on in a line comment up to a line end or its own end. -/
theorem exists_of_skipFrom_inLine (opening cs : List Char) :
    ∃ comment rest, cs = comment ++ rest ∧ (∀ c ∈ comment, isLineTerminator c = false) ∧
      (∀ c ∈ rest.head?, isLineTerminator c) ∧ skipFrom opening .inLine cs = skip rest := by
  induction cs generalizing opening with
  | nil => exact ⟨[], [], rfl, by simp, by simp, rfl⟩
  | cons c cs ih =>
      cases hline : isLineTerminator c with
      | true =>
          have hend : ∀ d ∈ (c :: cs).head?, isLineTerminator d := by
            rintro d ⟨⟩
            exact hline
          have hnone : ∀ d ∈ ([] : List Char), isLineTerminator d = false := by simp
          exact ⟨[], c :: cs, rfl, hnone, hend, skipFrom_inLine hnone hend opening⟩
      | false =>
          obtain ⟨comment, rest, rfl, hcomment, hend, hskip⟩ := ih []
          refine ⟨c :: comment, rest, rfl, List.forall_mem_cons.mpr ⟨hline, hcomment⟩, hend, ?_⟩
          rw [skipFrom_inLine_cons, hline]
          exact hskip

/-- In a block comment a character is passed that does not close it. -/
theorem skipFrom_inBlock_cons {c : Char} {cs : List Char} (h : c = '*' → cs.head? ≠ some '/')
    (opening : List Char) : skipFrom opening .inBlock (c :: cs) = skipFrom opening .inBlock cs := by
  rw [skipFrom.eq_def]
  split <;> simp_all

/-- A block comment ends where it is closed. -/
theorem skipFrom_inBlock {comment : List Char} (h : ¬ ['*', '/'] <:+: comment)
    (opening cs : List Char) :
    skipFrom opening .inBlock (comment ++ '*' :: '/' :: cs) = skip cs := by
  induction comment with
  | nil => rfl
  | cons c comment ih =>
      obtain ⟨hhead, hinfix⟩ := not_or.mp (mt List.infix_cons_iff.mpr h)
      rw [List.cons_append, skipFrom_inBlock_cons, ih hinfix]
      rintro rfl hslash
      cases comment with
      | nil => cases hslash
      | cons d comment =>
          obtain rfl : d = '/' := by simpa using hslash
          exact hhead (by simp)

/-- A block comment is closed somewhere, or else it is left as it is. -/
theorem exists_of_skipFrom_inBlock (opening cs : List Char) :
    skipFrom opening .inBlock cs = opening ∨
      ∃ comment rest, cs = comment ++ '*' :: '/' :: rest ∧ ¬ ['*', '/'] <:+: comment ∧
        skipFrom opening .inBlock cs = skip rest := by
  induction cs with
  | nil => exact .inl rfl
  | cons c cs ih =>
      by_cases hclose : c = '*' ∧ cs.head? = some '/'
      · obtain ⟨rfl, hslash⟩ := hclose
        obtain ⟨rest, rfl⟩ := List.head?_eq_some_iff.mp hslash
        exact .inr ⟨[], rest, rfl, by simp, rfl⟩
      · have hopen : c = '*' → cs.head? ≠ some '/' := not_and.mp hclose
        rw [skipFrom_inBlock_cons hopen]
        refine ih.imp id ?_
        rintro ⟨comment, rest, rfl, hcomment, hskip⟩
        refine ⟨c :: comment, rest, rfl, fun hinfix => ?_, hskip⟩
        rcases List.infix_cons_iff.mp hinfix with hhead | hinfix
        · obtain ⟨rfl, hhead⟩ := List.cons_prefix_cons.mp hhead
          cases comment with
          | nil => simp at hhead
          | cons d comment =>
              obtain rfl : '/' = d := by simpa using hhead
              exact hopen rfl rfl
        · exact hcomment hinfix

/-- Blanks and comments are skipped up to something that cannot be one of them.  The induction is on
what is spelled, one blank or one comment after another. -/
theorem skip_of_spaced {cs rest : List Char} (h : Spaced cs rest) (hslash : rest.head? ≠ some '/') :
    skip cs = rest := by
  induction h with
  | nothing hblank =>
      rename_i rest
      cases rest with
      | nil => rfl
      | cons c cs => exact skip_cons (hblank c rfl) (by simpa using hslash)
  | blank hblank _ ih => rw [skip_blank hblank, ih hslash]
  | lineComment hcomment hend _ ih => exact (skipFrom_inLine hcomment hend []).trans (ih hslash)
  | blockComment hcomment _ ih => exact (skipFrom_inBlock hcomment _ _).trans (ih hslash)

/-- What is skipped is blanks and comments.  The induction is on the length of the text, since a
comment is skipped as a whole. -/
theorem spaced_skip (cs : List Char) : Spaced cs (skip cs) := by
  induction hn : cs.length using Nat.strongRecOn generalizing cs with
  | ind n ih =>
      subst hn
      rw [skip, skipFrom.eq_def]
      split
      · exact .nothing (by simp)
      · next cs _ =>
          obtain ⟨comment, rest, rfl, hcomment, hend, hskip⟩ := exists_of_skipFrom_inLine [] cs
          rw [hskip]
          exact .lineComment hcomment hend (ih _ (by simp; omega) rest rfl)
      · next cs _ =>
          rcases exists_of_skipFrom_inBlock ('/' :: '*' :: cs) cs with hopen | hclosed
          · rw [hopen]
            exact .of_cons (by decide)
          · obtain ⟨comment, rest, hcs, hcomment, hskip⟩ := hclosed
            rw [hskip]
            subst hcs
            exact .blockComment hcomment (ih _ (by simp; omega) rest rfl)
      · next c cs _ _ _ =>
          cases hblank : isBlank c with
          | true => exact .blank hblank (ih _ (by simp) cs rfl)
          | false => exact .of_cons hblank
      all_goals contradiction

/-! ## Numbers -/

/-- What may follow a value or a key: nothing, a blank, a comment, or what stands between values and
closes them. -/
def Follows (rest : List Char) : Prop :=
  ∀ c ∈ rest.head?, isBlank c ∨ c ∈ ['/', ',', ':', ']', '\x7d']

/-- What may follow blanks and comments may follow with them. -/
theorem follows_of_spaced {cs rest : List Char} (h : Spaced cs rest) (hrest : Follows rest) :
    Follows cs := by
  cases h with
  | nothing _ => exact hrest
  | blank hblank _ =>
      rintro c ⟨⟩
      exact .inl hblank
  | lineComment _ _ _ | blockComment _ _ =>
      rintro c ⟨⟩
      exact .inr (by decide)

/-- A blank is a control, a space or beyond ASCII. -/
theorem toNat_of_isBlank {c : Char} (h : isBlank c) : c.toNat ≤ 32 ∨ 160 ≤ c.toNat := by
  have hchar (d : Char) : c = d ↔ c.toNat = d.toNat := Char.toNat_inj.symm
  simp only [isBlank, isLineTerminator, Bool.or_eq_true, beq_iff_eq, Bool.and_eq_true,
    decide_eq_true_eq, hchar, Char.reduceToNat] at h
  omega

/-- What is neither a letter nor a digit of ASCII is no digit. -/
theorem value?_eq_none {c : Char} (base : ℕ) (h : c.toNat < 48 ∨ (57 < c.toNat ∧ c.toNat < 65) ∨
    (90 < c.toNat ∧ c.toNat < 97) ∨ 122 < c.toNat) : Digits.value? base c = none := by
  have hle (a b : Char) : a ≤ b ↔ a.toNat ≤ b.toNat := Iff.rfl
  have hnumber : ¬ (48 ≤ c.toNat ∧ c.toNat ≤ 57) := by omega
  have hlower : ¬ (97 ≤ c.toNat ∧ c.toNat ≤ 122) := by omega
  have hupper : ¬ (65 ≤ c.toNat ∧ c.toNat ≤ 90) := by omega
  simp [Digits.value?, hle, hnumber, hlower, hupper]

namespace Follows

variable {rest : List Char}

/-- What may follow is not a given character. -/
theorem head?_ne (h : Follows rest) {c : Char}
    (hc : isBlank c = false ∧ c ∉ ['/', ',', ':', ']', '\x7d']) : rest.head? ≠ some c := by
  intro hhead
  rcases h c hhead with hblank | hmem
  · rw [hc.1] at hblank
    cases hblank
  · exact hc.2 hmem

/-- What may follow goes on with no digit. -/
theorem no_digit (h : Follows rest) (base : ℕ) : ∀ c ∈ rest.head?, Digits.value? base c = none := by
  intro c hc
  rcases h c hc with hblank | hmem
  · have hpoint := toNat_of_isBlank hblank
    exact value?_eq_none base (by omega)
  · have hpoints : ∀ d ∈ ['/', ',', ':', ']', '\x7d'], d.toNat < 48 ∨
        (57 < d.toNat ∧ d.toNat < 65) ∨ (90 < d.toNat ∧ d.toNat < 97) ∨ 122 < d.toNat := by simp
    exact value?_eq_none base (hpoints c hmem)

end Follows

/-- Characters that are the digits of a base. -/
def SpellsDigits (base : ℕ) (word : List Char) (digits : List ℕ) : Prop :=
  word.map (Digits.value? base) = digits.map some

/-- A sign as it is written. -/
def Sign.text : Sign → List Char
  | .none => []
  | .plus => ['+']
  | .minus => ['-']

/-- The exponent of a number, which may be missing. -/
inductive SpellsExponent : List Char → Option ℤ → Prop
  | missing : SpellsExponent [] none
  | digits {e : Char} {sign : Sign} {word : List Char} {digits : List ℕ} (he : e = 'e' ∨ e = 'E')
      (hword : SpellsDigits 10 word digits) (hne : digits ≠ []) :
      SpellsExponent (e :: (sign.text ++ word)) (some (sign.factor * Digits.ofDigits 10 digits))

/-- The digits before a point: a zero is the only one. -/
structure SpellsWhole (word : List Char) (digits : List ℕ) : Prop where
  spells : SpellsDigits 10 word digits
  ne_nil : digits ≠ []
  zero : word.head? = some '0' → word = ['0']

/-- What follows the sign of a number. -/
inductive SpellsBody : List Char → NumberBody → Prop
  | hexadecimal {x : Char} {word : List Char} {digits : List ℕ} (hx : x = 'x' ∨ x = 'X')
      (hword : SpellsDigits 16 word digits) (hne : digits ≠ []) :
      SpellsBody ('0' :: x :: word) (.hexadecimal digits)
  | whole {word shift : List Char} {whole : List ℕ} {exponent : Option ℤ}
      (hwhole : SpellsWhole word whole) (hshift : SpellsExponent shift exponent) :
      SpellsBody (word ++ shift) (.decimal whole none exponent)
  | point {word behind shift : List Char} {whole fraction : List ℕ} {exponent : Option ℤ}
      (hwhole : SpellsWhole word whole) (hbehind : SpellsDigits 10 behind fraction)
      (hshift : SpellsExponent shift exponent) :
      SpellsBody (word ++ '.' :: (behind ++ shift)) (.decimal whole (some fraction) exponent)
  | fraction {behind shift : List Char} {fraction : List ℕ} {exponent : Option ℤ}
      (hbehind : SpellsDigits 10 behind fraction) (hne : fraction ≠ [])
      (hshift : SpellsExponent shift exponent) :
      SpellsBody ('.' :: (behind ++ shift)) (.decimal [] (some fraction) exponent)
  | infinity : SpellsBody ['I', 'n', 'f', 'i', 'n', 'i', 't', 'y'] .infinity
  | notNumber : SpellsBody ['N', 'a', 'N'] .notNumber

/-- A number with its sign. -/
def SpellsNumber (word : List Char) (number : Number) : Prop :=
  ∃ body, word = number.sign.text ++ body ∧ SpellsBody body number.body

/-- The digits a text starts with are digits. -/
theorem spellsDigits_span (base : ℕ) (cs : List Char) :
    ∃ word, cs = word ++ (Digits.span base cs).2 ∧
      SpellsDigits base word (Digits.span base cs).1 := by
  induction cs with
  | nil => exact ⟨[], rfl, rfl⟩
  | cons c cs ih =>
      rw [Digits.span]
      cases hdigit : Digits.value? base c with
      | none => exact ⟨[], rfl, rfl⟩
      | some d =>
          obtain ⟨word, hcs, hword⟩ := ih
          refine ⟨c :: word, congrArg (c :: ·) hcs, ?_⟩
          rw [SpellsDigits, List.map_cons, hdigit, hword]
          rfl

/-- There are as many digits as characters. -/
theorem SpellsDigits.length_eq {base : ℕ} {word : List Char} {digits : List ℕ}
    (h : SpellsDigits base word digits) : word.length = digits.length := by
  simpa using congrArg List.length h

/-- Digits are there if they are written. -/
theorem SpellsDigits.exists_cons {base : ℕ} {word : List Char} {digits : List ℕ}
    (h : SpellsDigits base word digits) (hne : digits ≠ []) :
    ∃ c cs d, word = c :: cs ∧ Digits.value? base c = some d := by
  cases digits with
  | nil => exact absurd rfl hne
  | cons d digits =>
      cases word with
      | nil => cases h
      | cons c cs => exact ⟨c, cs, d, rfl, (List.cons.inj h).1⟩

/-- Written digits are read up to something else. -/
theorem readDigits?_of_spells {base : ℕ} {word rest : List Char} {digits : List ℕ}
    (h : SpellsDigits base word digits) (hne : digits ≠ [])
    (hrest : ∀ c ∈ rest.head?, Digits.value? base c = none) :
    readDigits? base (word ++ rest) = some (digits, rest) := by
  rw [readDigits?, Digits.span_append h hrest]
  cases digits with
  | nil => exact absurd rfl hne
  | cons d digits => rfl

/-- Digits that are read are written. -/
theorem spellsDigits_of_readDigits? {base : ℕ} {cs rest : List Char} {digits : List ℕ}
    (h : readDigits? base cs = some (digits, rest)) :
    ∃ word, cs = word ++ rest ∧ SpellsDigits base word digits ∧ digits ≠ [] := by
  obtain ⟨word, hcs, hword⟩ := spellsDigits_span base cs
  rw [readDigits?] at h
  split at h
  · cases h
  · next hne hspan =>
      cases h
      rw [hspan] at hcs hword
      exact ⟨word, hcs, hword, hne⟩

/-- A character that is no digit of base ten starts no digits before a point. -/
theorem readWhole?_eq_none {cs : List Char} (h : ∀ c ∈ cs.head?, Digits.value? 10 c = none) :
    readWhole? cs = none := by
  have hdigits : readDigits? 10 cs = none := by
    have hspan : Digits.span 10 ([] ++ cs) = ([], cs) := Digits.span_append rfl h
    rw [List.nil_append] at hspan
    rw [readDigits?, hspan]
  unfold readWhole?
  split
  · exact absurd (h '0' rfl) (by decide)
  · exact hdigits

/-- Digits before a point are read as they are written. -/
theorem readWhole?_of_spells {word rest : List Char} {digits : List ℕ}
    (h : SpellsWhole word digits) (hrest : ∀ c ∈ rest.head?, Digits.value? 10 c = none) :
    readWhole? (word ++ rest) = some (digits, rest) := by
  obtain ⟨c, cs, d, rfl, hdigit⟩ := h.spells.exists_cons h.ne_nil
  by_cases hzero : c = '0'
  · subst hzero
    obtain rfl : cs = [] := (List.cons.inj (h.zero rfl)).2
    have hdigits : digits = [0] := by
      have hmap : digits.map some = [some 0] := h.spells.symm
      simpa using hmap
    rw [hdigits]
    rfl
  · rw [← readDigits?_of_spells h.spells h.ne_nil hrest]
    unfold readWhole?
    split
    · next heq => exact absurd (List.cons.inj heq).1 hzero
    · rfl

/-- Digits before a point that are read are written. -/
theorem spellsWhole_of_readWhole? {cs rest : List Char} {digits : List ℕ}
    (h : readWhole? cs = some (digits, rest)) :
    ∃ word, cs = word ++ rest ∧ SpellsWhole word digits := by
  unfold readWhole? at h
  split at h
  · cases h
    exact ⟨['0'], rfl, rfl, by simp, fun _ => rfl⟩
  · next hzero =>
      obtain ⟨word, rfl, hword, hne⟩ := spellsDigits_of_readDigits? h
      refine ⟨word, rfl, hword, hne, fun hhead => ?_⟩
      obtain ⟨cs, rfl⟩ := List.head?_eq_some_iff.mp hhead
      exact absurd rfl (hzero _)

/-- A sign is read as it is written. -/
theorem readSign_text {cs : List Char} (h : cs.head? ≠ some '+' ∧ cs.head? ≠ some '-')
    (sign : Sign) : readSign (sign.text ++ cs) = (sign, cs) := by
  cases sign with
  | plus | minus => rfl
  | none =>
      rw [Sign.text, List.nil_append, readSign.eq_def]
      split
      · exact absurd rfl h.1
      · exact absurd rfl h.2
      · rfl

/-- A sign that is read is written. -/
theorem text_of_readSign (cs : List Char) : cs = (readSign cs).1.text ++ (readSign cs).2 := by
  rw [readSign.eq_def]
  split <;> rfl

theorem head?_ne_of_digits {base : ℕ} {word : List Char} {digits : List ℕ}
    (h : SpellsDigits base word digits) (hne : digits ≠ []) {c : Char}
    (hc : Digits.value? base c = none) (rest : List Char) : (word ++ rest).head? ≠ some c := by
  obtain ⟨d, cs, n, rfl, hdigit⟩ := h.exists_cons hne
  rintro ⟨⟩
  rw [hc] at hdigit
  cases hdigit

/-- After its letter an exponent is a sign and digits. -/
theorem readExponent_cons {e : Char} (he : e = 'e' ∨ e = 'E') (cs : List Char) :
    readExponent (e :: cs) = match readDigits? 10 (readSign cs).2 with
      | some (digits, rest) =>
        (some ((readSign cs).1.factor * Digits.ofDigits 10 digits), rest)
      | none => (none, e :: cs) := by
  have hvalue (digits : List ℕ) : (if (readSign cs).1 = .minus
      then -(Digits.ofDigits 10 digits : ℤ) else Digits.ofDigits 10 digits) =
      (readSign cs).1.factor * Digits.ofDigits 10 digits := by
    cases (readSign cs).1 <;> simp [Sign.factor]
  rcases hdigits : readDigits? 10 (readSign cs).2 with _ | ⟨digits, rest⟩
  · rcases he with rfl | rfl <;> simp only [readExponent, hdigits]
  · rcases he with rfl | rfl <;> simp only [readExponent, hdigits, hvalue]

/-- An exponent is read as it is written. -/
theorem readExponent_of_spells {word rest : List Char} {exponent : Option ℤ}
    (h : SpellsExponent word exponent) (hrest : Follows rest) :
    readExponent (word ++ rest) = (exponent, rest) := by
  cases h with
  | missing =>
      rw [List.nil_append, readExponent.eq_def]
      split
      · exact absurd rfl (hrest.head?_ne (by decide))
      · exact absurd rfl (hrest.head?_ne (by decide))
      · rfl
  | digits he hword hne =>
      rename_i e sign word digits
      have hsign : readSign (sign.text ++ (word ++ rest)) = (sign, word ++ rest) :=
        readSign_text ⟨head?_ne_of_digits hword hne (by decide) rest,
          head?_ne_of_digits hword hne (by decide) rest⟩ sign
      rw [List.cons_append, List.append_assoc, readExponent_cons he, hsign]
      dsimp only
      rw [readDigits?_of_spells hword hne (hrest.no_digit 10)]

/-- An exponent that is read is written.  Where nothing is read, the missing exponent is the one
that is written. -/
theorem spellsExponent_readExponent (cs : List Char) :
    ∃ word, cs = word ++ (readExponent cs).2 ∧ SpellsExponent word (readExponent cs).1 := by
  by_cases hletter : ∃ e rest, cs = e :: rest ∧ (e = 'e' ∨ e = 'E')
  · obtain ⟨e, rest, rfl, he⟩ := hletter
    rw [readExponent_cons he]
    cases hdigits : readDigits? 10 (readSign rest).2 with
    | none => exact ⟨[], rfl, .missing⟩
    | some found =>
        obtain ⟨word, hrest, hword, hne⟩ := spellsDigits_of_readDigits? hdigits
        refine ⟨e :: ((readSign rest).1.text ++ word), ?_, .digits he hword hne⟩
        rw [List.cons_append, List.append_assoc, ← hrest, ← text_of_readSign]
  · refine ⟨[], ?_⟩
    rw [readExponent.eq_def]
    split
    · exact absurd ⟨_, _, rfl, .inl rfl⟩ hletter
    · exact absurd ⟨_, _, rfl, .inr rfl⟩ hletter
    · exact ⟨rfl, .missing⟩

/-- What an exponent starts with, or what follows if it is missing, is no digit, no point and no
mark of base sixteen. -/
theorem SpellsExponent.head? {word rest : List Char} {exponent : Option ℤ}
    (h : SpellsExponent word exponent) (hrest : Follows rest) :
    (∀ c ∈ (word ++ rest).head?, Digits.value? 10 c = none) ∧ (word ++ rest).head? ≠ some '.' ∧
      (word ++ rest).head? ≠ some 'x' ∧ (word ++ rest).head? ≠ some 'X' := by
  cases h with
  | missing =>
      exact ⟨hrest.no_digit 10, hrest.head?_ne (by decide), hrest.head?_ne (by decide),
        hrest.head?_ne (by decide)⟩
  | digits he _ _ =>
      rcases he with rfl | rfl <;> simp [Digits.value?]

/-- Digits without a point behind them may have an exponent. -/
theorem readDecimal?_whole {cs rest : List Char} {whole : List ℕ}
    (hwhole : readWhole? cs = some (whole, rest)) (hpoint : rest.head? ≠ some '.') :
    readDecimal? cs =
      some (.decimal whole none (readExponent rest).1, (readExponent rest).2) := by
  unfold readDecimal?
  rw [hwhole]
  split
  · next heq =>
      obtain ⟨-, rfl⟩ := Prod.mk.inj (Option.some.inj heq)
      exact absurd rfl hpoint
  · next heq =>
      cases heq
      rfl
  · next heq => cases heq

/-- Digits with a point behind them may have a fraction and an exponent. -/
theorem readDecimal?_point {cs rest : List Char} {whole : List ℕ}
    (hwhole : readWhole? cs = some (whole, '.' :: rest)) :
    readDecimal? cs =
      some (.decimal whole (some (Digits.span 10 rest).1) (readExponent (Digits.span 10 rest).2).1,
        (readExponent (Digits.span 10 rest).2).2) := by
  unfold readDecimal?
  rw [hwhole]
  rfl

/-- Digits before a point are in base sixteen only if the mark of it follows: behind a zero stands
what follows the digits, and anything else is no start of base sixteen. -/
theorem readHexadecimal?_eq_none {word rest : List Char} {digits : List ℕ}
    (h : SpellsWhole word digits) (hx : rest.head? ≠ some 'x') (hX : rest.head? ≠ some 'X') :
    readHexadecimal? (word ++ rest) = none := by
  obtain ⟨c, cs, d, rfl, -⟩ := h.spells.exists_cons h.ne_nil
  have hafter {after : List Char} (heq : c :: cs ++ rest = '0' :: after) : after = rest := by
    obtain ⟨rfl, rfl⟩ := List.cons.inj heq
    rw [(List.cons.inj (h.zero rfl)).2]
    rfl
  unfold readHexadecimal?
  split
  · next heq => exact absurd (congrArg List.head? (hafter heq)).symm hx
  · next heq => exact absurd (congrArg List.head? (hafter heq)).symm hX
  · rfl

/-- What follows a sign is read as it is written: in base sixteen, in base ten, or as a word.  The
readers are tried in this order, and those that come before the right one read nothing. -/
theorem readBody_of_spells {word rest : List Char} {body : NumberBody} (h : SpellsBody word body)
    (hrest : Follows rest) :
    (readHexadecimal? (word ++ rest)).or ((readDecimal? (word ++ rest)).or
      (((afterWord? "Infinity".toList (word ++ rest)).map (NumberBody.infinity, ·)).or
        ((afterWord? "NaN".toList (word ++ rest)).map (NumberBody.notNumber, ·)))) =
      some (body, rest) := by
  cases h with
  | hexadecimal hx hword hne =>
      rename_i x word digits
      have hdigits := readDigits?_of_spells hword hne (hrest.no_digit 16)
      have hread : readHexadecimal? ('0' :: x :: word ++ rest) =
          some (.hexadecimal digits, rest) := by
        rcases hx with rfl | rfl <;>
          rw [List.cons_append, List.cons_append, readHexadecimal?, hdigits] <;> rfl
      rw [hread, Option.some_or]
  | whole hwhole hshift =>
      rename_i word shift whole exponent
      obtain ⟨hdigit, hpoint, hx, hX⟩ := hshift.head? hrest
      rw [List.append_assoc, readHexadecimal?_eq_none hwhole hx hX,
        readDecimal?_whole (readWhole?_of_spells hwhole hdigit) hpoint,
        readExponent_of_spells hshift hrest]
      rfl
  | point hwhole hbehind hshift =>
      rename_i word behind shift whole fraction exponent
      obtain ⟨hdigit, -, -, -⟩ := hshift.head? hrest
      have htext : word ++ '.' :: (behind ++ shift) ++ rest =
          word ++ '.' :: (behind ++ (shift ++ rest)) := by simp
      have hwhole? : readWhole? (word ++ '.' :: (behind ++ (shift ++ rest))) =
          some (whole, '.' :: (behind ++ (shift ++ rest))) :=
        readWhole?_of_spells hwhole (by simp [Digits.value?])
      rw [htext, readHexadecimal?_eq_none hwhole (by simp) (by simp), readDecimal?_point hwhole?,
        Digits.span_append hbehind hdigit, readExponent_of_spells hshift hrest]
      rfl
  | fraction hbehind hne hshift =>
      rename_i behind shift fraction exponent
      obtain ⟨hdigit, -, -, -⟩ := hshift.head? hrest
      have hdigits := readDigits?_of_spells hbehind hne hdigit
      have hwhole? : readWhole? ('.' :: (behind ++ (shift ++ rest))) = none :=
        readWhole?_eq_none (by simp [Digits.value?])
      have hread : readDecimal? ('.' :: (behind ++ (shift ++ rest))) =
          some (.decimal [] (some fraction) exponent, rest) := by
        rw [readDecimal?, hwhole?]
        simp [hdigits, readExponent_of_spells hshift hrest]
      rw [List.cons_append, List.append_assoc, hread]
      rfl
  | infinity => rfl
  | notNumber => rfl

/-- A character that a number starts with. -/
def startsNumber (c : Char) : Bool :=
  Digits.isDigit 10 c || c ∈ ['+', '-', '.', 'I', 'N']

/-- A character that a number starts with is not a given other one. -/
theorem startsNumber_ne {c d : Char} (h : startsNumber c) (hd : startsNumber d = false) :
    c ≠ d := by
  rintro rfl
  rw [h] at hd
  cases hd

theorem isBlank_of_startsNumber {c : Char} (h : startsNumber c) : isBlank c = false := by
  rcases (Bool.or_eq_true _ _).mp h with hdigit | hmem
  · by_contra hblank
    have hpoint := toNat_of_isBlank (Bool.eq_true_of_not_eq_false hblank)
    rw [Digits.isDigit, value?_eq_none 10 (by omega)] at hdigit
    cases hdigit
  · have hmarks : ∀ d ∈ ['+', '-', '.', 'I', 'N'], isBlank d = false := by
      simp [isBlank, isLineTerminator]
    exact hmarks c (of_decide_eq_true hmem)

/-- What follows a sign starts with no other one. -/
theorem SpellsBody.exists_cons {word : List Char} {body : NumberBody} (h : SpellsBody word body) :
    ∃ c cs, word = c :: cs ∧ startsNumber c ∧ c ≠ '+' ∧ c ≠ '-' := by
  have hdigit {c : Char} {d : ℕ} (hc : Digits.value? 10 c = some d) :
      startsNumber c ∧ c ≠ '+' ∧ c ≠ '-' := by
    refine ⟨by simp [startsNumber, Digits.isDigit, hc], ?_, ?_⟩
    · rintro rfl
      cases hc
    · rintro rfl
      cases hc
  cases h with
  | hexadecimal _ _ _ => exact ⟨_, _, rfl, by decide⟩
  | whole hwhole _ | point hwhole _ _ =>
      obtain ⟨c, cs, d, rfl, hc⟩ := hwhole.spells.exists_cons hwhole.ne_nil
      exact ⟨_, _, rfl, hdigit hc⟩
  | fraction _ _ _ | infinity | notNumber => exact ⟨_, _, rfl, by decide⟩

/-- A number starts with its sign, a digit, a point or a word. -/
theorem SpellsNumber.exists_cons {word : List Char} {number : Number}
    (h : SpellsNumber word number) : ∃ c cs, word = c :: cs ∧ startsNumber c := by
  obtain ⟨text, rfl, hbody⟩ := h
  cases number.sign with
  | none =>
      obtain ⟨c, cs, rfl, hc, -⟩ := hbody.exists_cons
      exact ⟨c, cs, rfl, hc⟩
  | plus | minus => exact ⟨_, _, rfl, by decide⟩

/-- **A number is read as it is written**, if what follows it cannot go on with it: its sign first,
and then what follows the sign. -/
theorem readNumber?_of_spells {word rest : List Char} {number : Number}
    (h : SpellsNumber word number) (hrest : Follows rest) :
    readNumber? (word ++ rest) = some (number, rest) := by
  obtain ⟨text, rfl, hbody⟩ := h
  obtain ⟨c, cs, rfl, -, hplus, hminus⟩ := hbody.exists_cons
  have hsign : readSign (number.sign.text ++ (c :: cs ++ rest)) =
      (number.sign, c :: cs ++ rest) :=
    readSign_text ⟨by simpa using hplus, by simpa using hminus⟩ number.sign
  rw [List.append_assoc, readNumber?, hsign]
  dsimp only
  rw [readBody_of_spells hbody hrest]
  rfl

/-- A number in base ten that is read is written. -/
theorem spellsBody_of_readDecimal? {cs rest : List Char} {body : NumberBody}
    (h : readDecimal? cs = some (body, rest)) :
    ∃ word, cs = word ++ rest ∧ SpellsBody word body := by
  cases hwhole : readWhole? cs with
  | some found =>
      obtain ⟨whole, after⟩ := found
      obtain ⟨word, rfl, hword⟩ := spellsWhole_of_readWhole? hwhole
      by_cases hpoint : after.head? = some '.'
      · obtain ⟨after, rfl⟩ := List.head?_eq_some_iff.mp hpoint
        rw [readDecimal?_point hwhole] at h
        cases h
        obtain ⟨behind, hafter, hbehind⟩ := spellsDigits_span 10 after
        obtain ⟨shift, hshift, hexponent⟩ :=
          spellsExponent_readExponent (Digits.span 10 after).2
        refine ⟨word ++ '.' :: (behind ++ shift), ?_, .point hword hbehind hexponent⟩
        rw [List.append_assoc, List.cons_append, List.append_assoc, ← hshift, ← hafter]
      · rw [readDecimal?_whole hwhole hpoint] at h
        cases h
        obtain ⟨shift, hshift, hexponent⟩ := spellsExponent_readExponent after
        refine ⟨word ++ shift, ?_, .whole hword hexponent⟩
        rw [List.append_assoc, ← hshift]
  | none =>
      unfold readDecimal? at h
      rw [hwhole] at h
      dsimp only at h
      split at h
      · next after =>
          obtain ⟨⟨fraction, after'⟩, hdigits, hbody⟩ := Option.bind_eq_some_iff.mp h
          cases hbody
          obtain ⟨behind, rfl, hbehind, hne⟩ := spellsDigits_of_readDigits? hdigits
          obtain ⟨shift, hshift, hexponent⟩ := spellsExponent_readExponent after'
          refine ⟨'.' :: (behind ++ shift), ?_, .fraction hbehind hne hexponent⟩
          rw [List.cons_append, List.append_assoc, ← hshift]
      · cases h

/-- Digits behind the mark of base sixteen that are read are written. -/
theorem spellsBody_of_marked {x : Char} (hx : x = 'x' ∨ x = 'X') {cs rest : List Char}
    {digits : List ℕ} (h : readDigits? 16 cs = some (digits, rest)) :
    ∃ word, '0' :: x :: cs = word ++ rest ∧ SpellsBody word (.hexadecimal digits) := by
  obtain ⟨word, rfl, hword, hne⟩ := spellsDigits_of_readDigits? h
  exact ⟨'0' :: x :: word, rfl, .hexadecimal hx hword hne⟩

/-- A number in base sixteen that is read is written. -/
theorem spellsBody_of_readHexadecimal? {cs rest : List Char} {body : NumberBody}
    (h : readHexadecimal? cs = some (body, rest)) :
    ∃ word, cs = word ++ rest ∧ SpellsBody word body := by
  unfold readHexadecimal? at h
  split at h
  · obtain ⟨⟨digits, rest⟩, hdigits, hbody⟩ := Option.map_eq_some_iff.mp h
    cases hbody
    exact spellsBody_of_marked (.inl rfl) hdigits
  · obtain ⟨⟨digits, rest⟩, hdigits, hbody⟩ := Option.map_eq_some_iff.mp h
    cases hbody
    exact spellsBody_of_marked (.inr rfl) hdigits
  · cases h

/-- A word stands in front of what follows it. -/
theorem afterWord?_eq_some_iff {word cs rest : List Char} :
    afterWord? word cs = some rest ↔ cs = word ++ rest := by
  induction word generalizing cs with
  | nil => simp [afterWord?]
  | cons w ws ih =>
      cases cs with
      | nil => simp [afterWord?]
      | cons c cs =>
          rw [afterWord?, Option.ite_none_right_eq_some, ih]
          simp

/-- **A number that is read is written.** -/
theorem spellsNumber_of_readNumber? {cs rest : List Char} {number : Number}
    (h : readNumber? cs = some (number, rest)) :
    ∃ word, cs = word ++ rest ∧ SpellsNumber word number := by
  unfold readNumber? at h
  obtain ⟨⟨body, rest⟩, hread, hnumber⟩ := Option.map_eq_some_iff.mp h
  cases hnumber
  have hbody : ∃ word, (readSign cs).2 = word ++ rest ∧ SpellsBody word body := by
    rcases Option.or_eq_some_iff.mp hread with hread | ⟨-, hread⟩
    · exact spellsBody_of_readHexadecimal? hread
    rcases Option.or_eq_some_iff.mp hread with hread | ⟨-, hread⟩
    · exact spellsBody_of_readDecimal? hread
    rcases Option.or_eq_some_iff.mp hread with hread | ⟨-, hread⟩
    · obtain ⟨after, hword, hbody⟩ := Option.map_eq_some_iff.mp hread
      cases hbody
      exact ⟨_, afterWord?_eq_some_iff.mp hword, .infinity⟩
    · obtain ⟨after, hword, hbody⟩ := Option.map_eq_some_iff.mp hread
      cases hbody
      exact ⟨_, afterWord?_eq_some_iff.mp hword, .notNumber⟩
  obtain ⟨word, hrest, hword⟩ := hbody
  refine ⟨(readSign cs).1.text ++ word, ?_, word, rfl, hword⟩
  rw [List.append_assoc, ← hrest, ← text_of_readSign]

end RelayRoute.Json5
