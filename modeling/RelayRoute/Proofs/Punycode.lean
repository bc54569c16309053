import Mathlib.Data.List.InsertIdx
import RelayRoute.Name.Punycode

/-!
# Punycode is read back

The reader of Punycode undoes the writer.  What the two agree on are insertions that ascend: each is
of a later character than the one before, or of the same character in a later place.  The writer
peels such insertions off a label, and the reader makes them of the distances between them.

* `readNumber?_writeNumber`, `readDistances?_writeDistances` — numbers and distances are read as
  they were written;
* `Ascending`, `insert?_distances` — insertions that ascend are made of the distances between them;
* `IsLargest`, `isLargest_of_largest?` — what the writer peels off first;
* `Peeled`, `peeled_peel` — what a label is peeled into: its ASCII characters, and insertions that
  ascend and make the label of them;
* `decode?_encode` — the main result, and `mem_encode`, `mem_of_decode?` about the characters on
  both sides.
-/

namespace RelayRoute.Name.Punycode

/-! ## Digits and numbers -/

theorem digitValue?_digit {n : Nat} (h : n < 36) : digitValue? (digit n) = some n := by
  have hdigits : ∀ k : Fin 36, digitValue? (digit k) = some k.val := by decide
  exact hdigits ⟨n, h⟩

theorem digit_ne_hyphen {n : Nat} (h : n < 36) : digit n ≠ '-' := by
  have hdigits : ∀ k : Fin 36, digit k ≠ '-' := by decide
  exact hdigits ⟨n, h⟩

theorem mem_writeNumber {bias k n : Nat} {c : Char} (h : c ∈ writeNumber bias k n) :
    ∃ d < 36, c = digit d := by
  induction k, n using writeNumber.induct bias with
  | case1 k n t hlt =>
      rw [writeNumber, if_pos hlt, List.mem_singleton] at h
      have ht : t ≤ 26 := threshold_le k bias
      exact ⟨n, by omega, h⟩
  | case2 k n t hle ih =>
      rw [writeNumber, if_neg hle] at h
      have ht : t ≤ 26 := threshold_le k bias
      have hmod : (n - t) % (36 - t) < 36 - t := Nat.mod_lt _ (by omega)
      rcases List.mem_cons.mp h with rfl | h
      · exact ⟨t + (n - t) % (36 - t), by omega, rfl⟩
      · exact ih h

/-- A number is read as it was written.  The induction is that of the writer: a digit that is not
below the threshold tells the reader to go on, and to add what comes after it. -/
theorem readNumber?_writeNumber (bias k n : Nat) (rest : List Char) :
    readNumber? bias k (writeNumber bias k n ++ rest) = some (n, rest) := by
  induction k, n using writeNumber.induct bias with
  | case1 k n t hlt =>
      have ht : t ≤ 26 := threshold_le k bias
      rw [writeNumber, if_pos hlt]
      have hdigit : digitValue? (digit n) = some n := digitValue?_digit (by omega)
      have hlast : n < threshold k bias := hlt
      simp [readNumber?, hdigit, hlast]
  | case2 k n t hle ih =>
      have ht : t ≤ 26 := threshold_le k bias
      have hmod : (n - t) % (36 - t) < 36 - t := Nat.mod_lt _ (by omega)
      have hdigit : digitValue? (digit (t + (n - t) % (36 - t))) = some (t + (n - t) % (36 - t)) :=
        digitValue?_digit (by omega)
      have hlast : ¬ t + (n - t) % (36 - t) < t := by omega
      have hsum : t + (n - t) % (36 - t) + (36 - t) * ((n - t) / (36 - t)) = n := by
        rw [Nat.add_assoc, Nat.mod_add_div]
        omega
      rw [writeNumber, if_neg hle, List.cons_append, readNumber?, hdigit]
      simp only [Option.bind_eq_bind, Option.bind_some]
      rw [if_neg hlast, ih]
      simp only [Option.bind_some]
      rw [hsum]

/-- Distances are written in digits. -/
theorem mem_writeDistances {bias length : Nat} {first : Bool} {ds : List Nat} {c : Char}
    (h : c ∈ writeDistances bias length first ds) : ∃ d < 36, c = digit d := by
  induction ds generalizing bias length first with
  | nil => cases h
  | cons d ds ih =>
      rcases List.mem_append.mp h with h | h
      · exact mem_writeNumber h
      · exact ih h

/-- Distances are read as they were written.  The reader looks whether anything is left before it
reads a number, and a number is never written as nothing. -/
theorem readDistances?_writeDistances (bias length : Nat) (first : Bool) (ds : List Nat) :
    readDistances? bias length first (writeDistances bias length first ds) = some ds := by
  induction ds generalizing bias length first with
  | nil => rw [writeDistances, readDistances?]
  | cons d ds ih =>
      have hread := readNumber?_writeNumber bias 36 d
        (writeDistances (adapt d (length + 1) first) (length + 1) false ds)
      rw [writeDistances]
      generalize writeNumber bias 36 d ++ _ = written at hread ⊢
      cases written with
      | nil => cases hread
      | cons c cs =>
          rw [readDistances?]
          split
          · next hnone => simp [hread] at hnone
          · next d' rest hsome =>
              obtain ⟨rfl, rfl⟩ : d = d' ∧ _ = rest := by simpa [hread] using hsome
              rw [ih, Option.map_some]

/-! ## Insertions that ascend -/

/-- Insertions that the reader can make one after another, when it stands at a place of a character
in a text of the given length: each is of a later character, or of the same one in a later place. -/
inductive Ascending : (char place length : Nat) → List Insertion → Prop
  | nil {char place length : Nat} : Ascending char place length []
  | cons {char place length : Nat} {l : Insertion} {ls : List Insertion}
    (later : char < l.char.toNat ∨ char = l.char.toNat ∧ place ≤ l.place)
    (fits : l.place ≤ length) (others : Ascending l.char.toNat (l.place + 1) (length + 1) ls) :
    Ascending char place length (l :: ls)

/-- Where the reader stands after insertions. -/
def standing (char place : Nat) : List Insertion → Nat × Nat
  | [] => (char, place)
  | l :: ls => standing l.char.toNat (l.place + 1) ls

/-- After insertions the reader stands behind the last one. -/
theorem standing_append (char place : Nat) (ls : List Insertion) (l : Insertion) :
    standing char place (ls ++ [l]) = (l.char.toNat, l.place + 1) := by
  induction ls generalizing char place with
  | nil => rfl
  | cons m ls ih => exact ih ..

/-- Another insertion may follow those that ascend. -/
theorem Ascending.append {char place length : Nat} {ls : List Insertion} {l : Insertion}
    (h : Ascending char place length ls)
    (later : (standing char place ls).1 < l.char.toNat ∨
      (standing char place ls).1 = l.char.toNat ∧ (standing char place ls).2 ≤ l.place)
    (fits : l.place ≤ length + ls.length) : Ascending char place length (ls ++ [l]) := by
  induction h with
  | nil => exact .cons later fits .nil
  | @cons char place length m ls first_later first_fits _ ih =>
      have hfits : l.place ≤ length + 1 + ls.length := by
        rw [List.length_cons] at fits
        omega
      exact .cons first_later first_fits (ih later hfits)

/-- The text with insertions made in order. -/
def insertAll (text : List Char) (ls : List Insertion) : List Char :=
  ls.foldl (fun text l => text.insertIdx l.place l.char) text

/-- The distance to an insertion tells how far the character is and which place it has.  The
subtraction in it cuts nothing off: there is always a later place to go to. -/
theorem distance_eq {char place length : Nat} {l : Insertion}
    (later : char < l.char.toNat ∨ char = l.char.toNat ∧ place ≤ l.place)
    (fits : l.place ≤ length) (within : place ≤ length) :
    let sum := place + ((l.char.toNat - char) * (length + 1) + l.place - place)
    char + sum / (length + 1) = l.char.toNat ∧ sum % (length + 1) = l.place := by
  have hle : place ≤ (l.char.toNat - char) * (length + 1) + l.place := by
    rcases later with hlt | ⟨-, hplace⟩
    · have hone : 1 * (length + 1) ≤ (l.char.toNat - char) * (length + 1) :=
        Nat.mul_le_mul_right _ (by omega)
      omega
    · omega
  have hchar : char + (l.char.toNat - char) = l.char.toNat := by omega
  have hsmall : l.place < length + 1 := by omega
  intro sum
  have hsum : sum = l.place + (l.char.toNat - char) * (length + 1) := by
    rw [Nat.add_comm l.place]
    exact Nat.add_sub_cancel' hle
  constructor
  · rw [hsum, Nat.add_mul_div_right _ _ (Nat.succ_pos length), Nat.div_eq_of_lt hsmall,
      Nat.zero_add, hchar]
  · rw [hsum, Nat.add_mul_mod_self_right, Nat.mod_eq_of_lt hsmall]

/-- **The reader makes the insertions that distances were taken between.**  The induction is on the
insertions, and the reader stands behind the last one that it has made. -/
theorem insert?_distances {char place : Nat} {text : List Char} {ls : List Insertion}
    (h : Ascending char place text.length ls) (within : place ≤ text.length) :
    insert? char place text (distances char place text.length ls) = some (insertAll text ls) := by
  induction ls generalizing char place text with
  | nil => rfl
  | cons l ls ih =>
      cases h with
      | cons later fits others =>
          obtain ⟨hchar, hplace⟩ := distance_eq later fits within
          have hlength : (text.insertIdx l.place l.char).length = text.length + 1 :=
            List.length_insertIdx_of_le_length fits _
          have hvalid : l.char.toNat.isValidChar := l.char.valid
          simp only [distances, insert?, hchar, hplace, hvalid, if_true, Char.ofNat_toNat]
          rw [← hlength] at others ⊢
          exact ih others (by omega)

/-! ## What the writer peels off -/

/-- A label without a largest character is in ASCII. -/
theorem isBasic_of_largest? {cs : List Char} (h : largest? cs = none) : ∀ c ∈ cs, isBasic c := by
  induction cs with
  | nil => simp
  | cons c cs ih =>
      rw [largest?] at h
      cases hrest : largest? cs with
      | some m =>
          rw [hrest] at h
          dsimp only at h
          split at h <;> cases h
      | none =>
          rw [hrest] at h
          by_cases hc : isBasic c
          · simpa [hc] using ih hrest
          · simp [hc] at h

/-- An insertion is of a character beyond ASCII in its place, no character is larger, and those
behind it are smaller. -/
structure IsLargest (cs : List Char) (l : Insertion) : Prop where
  at_place : cs[l.place]? = some l.char
  beyond : 128 ≤ l.char.toNat
  largest {i : Nat} {c : Char} : cs[i]? = some c → c.toNat ≤ l.char.toNat
  behind {i : Nat} {c : Char} : cs[i]? = some c → l.place < i → c.toNat < l.char.toNat

/-- A character in front is the largest if all others are smaller. -/
theorem IsLargest.front {c : Char} {cs : List Char} (beyond : 128 ≤ c.toNat)
    (smaller : ∀ d ∈ cs, d.toNat < c.toNat) : IsLargest (c :: cs) ⟨0, c⟩ where
  at_place := rfl
  beyond := beyond
  largest {i d} hd := by
    rcases List.mem_cons.mp (List.mem_of_getElem? hd) with rfl | hmem
    · exact Nat.le_refl _
    · exact Nat.le_of_lt (smaller d hmem)
  behind {i d} hd hi := by
    cases i with
    | zero => exact absurd hi (Nat.lt_irrefl 0)
    | succ i => exact smaller d (List.mem_of_getElem? (by simpa using hd))

/-- The largest character stays that when one that is not larger comes in front. -/
theorem IsLargest.cons {c : Char} {cs : List Char} {l : Insertion} (h : IsLargest cs l)
    (hle : c.toNat ≤ l.char.toNat) : IsLargest (c :: cs) ⟨l.place + 1, l.char⟩ where
  at_place := by simpa using h.at_place
  beyond := h.beyond
  largest {i d} hd := by
    cases i with
    | zero =>
        obtain rfl : c = d := by simpa using hd
        exact hle
    | succ i => exact h.largest (by simpa using hd)
  behind {i d} hd hi := by
    cases i with
    | zero => exact absurd hi (Nat.not_lt_zero _)
    | succ i => exact h.behind (by simpa using hd) (Nat.lt_of_succ_lt_succ hi)

/-- What is found is the largest character. -/
theorem isLargest_of_largest? {cs : List Char} {l : Insertion} (h : largest? cs = some l) :
    IsLargest cs l := by
  induction cs generalizing l with
  | nil => cases h
  | cons c cs ih =>
      rw [largest?] at h
      cases hrest : largest? cs with
      | some m =>
          have hm := ih hrest
          rw [hrest] at h
          by_cases hlt : m.char.toNat < c.toNat
          · obtain rfl : ⟨0, c⟩ = l := by simpa [hlt] using h
            refine .front (Nat.le_trans hm.beyond (Nat.le_of_lt hlt)) fun d hd => ?_
            obtain ⟨i, hi⟩ := List.getElem?_of_mem hd
            exact Nat.lt_of_le_of_lt (hm.largest hi) hlt
          · obtain rfl : ⟨m.place + 1, m.char⟩ = l := by simpa [hlt] using h
            exact hm.cons (Nat.le_of_not_lt hlt)
      | none =>
          rw [hrest] at h
          by_cases hc : isBasic c
          · simp [hc] at h
          · obtain rfl : ⟨0, c⟩ = l := by simpa [hc] using h
            have hbeyond : 128 ≤ c.toNat := by simpa [isBasic] using hc
            refine .front hbeyond fun d hd => ?_
            have hbasic : d.toNat < 128 := by
              simpa [isBasic] using isBasic_of_largest? hrest d hd
            omega

/-- The character peeled off next is smaller than the one before, or stands in an earlier place.  So
in the order in which they are inserted again, the insertions ascend. -/
theorem largest?_eraseIdx {cs : List Char} {l m : Insertion} (h : largest? cs = some l)
    (hnext : largest? (cs.eraseIdx l.place) = some m) :
    m.char.toNat < l.char.toNat ∨ m.char.toNat = l.char.toNat ∧ m.place + 1 ≤ l.place := by
  have hlargest := isLargest_of_largest? h
  have hat := (isLargest_of_largest? hnext).at_place
  rw [List.getElem?_eraseIdx] at hat
  by_cases hplace : m.place < l.place
  · rw [if_pos hplace] at hat
    have hle := hlargest.largest hat
    omega
  · rw [if_neg hplace] at hat
    exact .inl (hlargest.behind hat (by omega))

/-- What a label is peeled into: its ASCII characters, and ascending insertions that make the label
of them. -/
structure Peeled (cs basic : List Char) (insertions : List Insertion) : Prop where
  kept : ∀ c ∈ basic, isBasic c ∧ c ∈ cs
  length : basic.length + insertions.length = cs.length
  ascending : Ascending 128 0 basic.length insertions
  stands : standing 128 0 insertions =
    match largest? cs with
    | none => (128, 0)
    | some l => (l.char.toNat, l.place + 1)
  whole : insertAll basic insertions = cs

/-- The character that was peeled off is inserted after the others.  The last of those is of the
largest character that was left, so this one is later. -/
theorem Peeled.append {cs basic : List Char} {insertions : List Insertion} {l : Insertion}
    (hlargest : largest? cs = some l) (h : Peeled (cs.eraseIdx l.place) basic insertions) :
    Peeled cs basic (insertions ++ [l]) := by
  have hat := (isLargest_of_largest? hlargest).at_place
  have hbeyond := (isLargest_of_largest? hlargest).beyond
  have hplace := place_lt_of_largest? hlargest
  have hlength : (cs.eraseIdx l.place).length = cs.length - 1 := List.length_eraseIdx_of_lt hplace
  have htotal := h.length
  have hchar : cs[l.place] = l.char := by simpa [List.getElem?_eq_getElem hplace] using hat
  refine ⟨?_, ?_, ?_, ?_, ?_⟩
  · intro c hc
    exact ⟨(h.kept c hc).1, List.mem_of_mem_eraseIdx (h.kept c hc).2⟩
  · rw [List.length_append, List.length_singleton]
    omega
  · refine h.ascending.append ?_ (by omega)
    rw [h.stands]
    cases hnext : largest? (cs.eraseIdx l.place) with
    | none =>
        dsimp only
        omega
    | some m => exact largest?_eraseIdx hlargest hnext
  · rw [standing_append, hlargest]
  · have hothers := h.whole
    unfold insertAll at hothers ⊢
    rw [List.foldl_append, hothers, List.foldl_cons, List.foldl_nil, ← hchar]
    exact List.insertIdx_eraseIdx_getElem hplace

/-- The writer peels a label.  The induction is that of the writer, which peels off one character at
a time until those that are left are in ASCII. -/
theorem peeled_peel (cs : List Char) : Peeled cs (peel cs).1 (peel cs).2 := by
  induction cs using peel.induct with
  | case1 cs hnone =>
      have hpeel : peel cs = (cs, []) := by
        rw [peel]
        split
        · rfl
        · next l hsome => simp [hnone] at hsome
      rw [hpeel]
      refine ⟨?_, rfl, .nil, ?_, rfl⟩
      · exact fun c hc => ⟨isBasic_of_largest? hnone c hc, hc⟩
      · rw [hnone, standing]
  | case2 cs l hsome basic insertions hpeel ih =>
      have hpeeled : peel cs = (basic, insertions ++ [l]) := by
        rw [peel]
        split
        · next hnone => simp [hsome] at hnone
        · next m hm =>
            obtain rfl : l = m := by simpa [hsome] using hm
            rw [hpeel]
      rw [hpeel] at ih
      rw [hpeeled]
      exact ih.append hsome

/-! ## Labels -/

/-- The two parts of a written label are found again. -/
theorem divide_encode {basic numbers : List Char} (h : '-' ∉ numbers) :
    divide ((if basic.isEmpty then [] else basic ++ ['-']) ++ numbers) = (basic, numbers) := by
  cases basic with
  | nil => simp [divide, Text.splitLast?_of_not_mem h]
  | cons c basic =>
      have hsplit := Text.splitLast?_append (c :: basic) h
      simp only [List.isEmpty_cons, Bool.false_eq_true, if_false, List.append_assoc,
        List.singleton_append]
      rw [divide, hsplit]

/-- **Punycode is read back.**  A label is what its written form is read as. -/
theorem decode?_encode (label : List Char) : decode? (encode label) = some label := by
  have hpeeled := peeled_peel label
  unfold encode decode?
  generalize peel label = parts at hpeeled ⊢
  obtain ⟨basic, insertions⟩ := parts
  have hnumbers : '-' ∉ writeDistances 72 basic.length true
      (distances 128 0 basic.length insertions) := by
    intro hhyphen
    obtain ⟨d, hd, hdigit⟩ := mem_writeDistances hhyphen
    exact digit_ne_hyphen hd hdigit.symm
  have hbasic : basic.all isBasic := List.all_eq_true.mpr fun c hc => (hpeeled.kept c hc).1
  have hinsert := insert?_distances hpeeled.ascending (Nat.zero_le _)
  dsimp only
  rw [divide_encode hnumbers]
  simp only [hbasic, if_true, readDistances?_writeDistances, Option.bind_some]
  rw [hinsert, hpeeled.whole]

/-- A written label consists of ASCII characters of the label, hyphens and digits. -/
theorem mem_encode {label : List Char} {c : Char} (h : c ∈ encode label) :
    isBasic c ∧ c ∈ label ∨ c = '-' ∨ ∃ d < 36, c = digit d := by
  have hpeeled := peeled_peel label
  unfold encode at h
  generalize peel label = parts at hpeeled h
  obtain ⟨basic, insertions⟩ := parts
  rcases List.mem_append.mp h with h | h
  · cases basic with
    | nil => cases h
    | cons b basic =>
        rcases List.mem_append.mp h with h | h
        · exact .inl (hpeeled.kept c h)
        · exact .inr (.inl (List.mem_singleton.mp h))
  · exact .inr (.inr (mem_writeDistances h))

/-- Insertions from beyond ASCII add no ASCII character: the character to insert only ever rises. -/
theorem mem_of_insert? {char place : Nat} {text label : List Char} {ds : List Nat} {c : Char}
    (hread : insert? char place text ds = some label) (beyond : 128 ≤ char) (hc : c ∈ label) :
    c ∈ text ∨ 128 ≤ c.toNat := by
  induction ds generalizing char place text with
  | nil =>
      obtain rfl : text = label := by simpa [insert?] using hread
      exact .inl hc
  | cons d ds ih =>
      rw [insert?] at hread
      generalize hnext : char + (place + d) / (text.length + 1) = next at hread
      have hnext_beyond : 128 ≤ next := by
        rw [← hnext]
        exact Nat.le_trans beyond (Nat.le_add_right _ _)
      by_cases hvalid : next.isValidChar
      · rw [if_pos hvalid] at hread
        have hplace : (place + d) % (text.length + 1) ≤ text.length :=
          Nat.le_of_lt_succ (Nat.mod_lt _ (Nat.succ_pos _))
        rcases ih hread hnext_beyond with hc | hc
        · rcases (List.mem_insertIdx hplace).mp hc with rfl | hc
          · have hnumber : (Char.ofNat next).toNat = next := by
              rw [Char.ofNat, dif_pos hvalid]
              rfl
            exact .inr (by omega)
          · exact .inl hc
        · exact .inr hc
      · rw [if_neg hvalid] at hread
        cases hread

/-- The ASCII characters of a written label stand in it. -/
theorem mem_of_mem_divide {text : List Char} {c : Char} (h : c ∈ (divide text).1) : c ∈ text := by
  unfold divide at h
  cases hsplit : Text.splitLast? '-' text with
  | none =>
      rw [hsplit] at h
      cases h
  | some parts =>
      obtain ⟨before, after⟩ := parts
      rw [hsplit] at h
      rw [Text.eq_append_of_splitLast? hsplit]
      cases before with
      | nil => cases h
      | cons b before => exact List.mem_append_left _ h

/-- A label that is read holds no ASCII character that its written form does not hold. -/
theorem mem_of_decode? {text label : List Char} {c : Char} (hread : decode? text = some label)
    (hc : c ∈ label) : c ∈ text ∨ 128 ≤ c.toNat := by
  unfold decode? at hread
  dsimp only at hread
  by_cases hbasic : (divide text).1.all isBasic
  · rw [if_pos hbasic] at hread
    obtain ⟨ds, -, hinsert⟩ := Option.bind_eq_some_iff.mp hread
    rcases mem_of_insert? hinsert (Nat.le_refl 128) hc with hc | hc
    · exact .inl (mem_of_mem_divide hc)
    · exact .inr hc
  · rw [if_neg hbasic] at hread
    cases hread

end RelayRoute.Name.Punycode
