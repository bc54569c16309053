/-!
# Splitting texts

Texts as lists of characters, cut at a separator and put together again.

* `split`, `join` — the parts of a text between separators, and parts with separators between them;
* `join_split`, `split_join` — the two undo each other where the parts do not hold the separator;
* `splitLast?` — a cut at the last separator; `splitLast?_append` and `eq_append_of_splitLast?` say
  what it is;
* `not_mem_of_mem_split`, `eq_or_mem_of_mem_join` — what parts and joined texts consist of.
-/

namespace RelayRoute.Text

/-- The parts of a text between separators, at least one. -/
def split (sep : Char) : List Char → List (List Char)
  | [] => [[]]
  | c :: cs =>
    if c = sep then [] :: split sep cs
    else match split sep cs with
      | [] => [[c]]
      | part :: parts => (c :: part) :: parts

/-- Parts with separators between them. -/
def join (sep : Char) : List (List Char) → List Char
  | [] => []
  | [part] => part
  | part :: parts => part ++ sep :: join sep parts

/-- What stands before and after the last separator. -/
def splitLast? (sep : Char) : List Char → Option (List Char × List Char)
  | [] => none
  | c :: cs =>
    match splitLast? sep cs with
    | some (before, after) => some (c :: before, after)
    | none => if c = sep then some ([], cs) else none

theorem split_ne_nil (sep : Char) (cs : List Char) : split sep cs ≠ [] := by
  cases cs with
  | nil => simp [split]
  | cons c cs =>
    simp only [split]
    split
    · simp
    · split <;> simp

/-- A separator stands in front of each part but the first. -/
theorem join_cons (sep : Char) (part : List Char) (parts : List (List Char)) :
    join sep (part :: parts) = part ++ parts.flatMap (sep :: ·) := by
  induction parts generalizing part with
  | nil => simp [join]
  | cons next parts ih => simp [join, ih next]

/-- A text is put together from its parts. -/
theorem join_split (sep : Char) (cs : List Char) : join sep (split sep cs) = cs := by
  induction cs with
  | nil => rfl
  | cons c cs ih =>
    cases hs : split sep cs with
    | nil => exact absurd hs (split_ne_nil sep cs)
    | cons part parts =>
      rw [hs] at ih
      by_cases hc : c = sep
      · simp only [split, hc, if_true, hs, join, List.nil_append, ih]
      · simp only [split, hc, if_false, hs]
        cases parts with
        | nil => simpa [join] using ih
        | cons p ps => simpa [join] using ih

/-- A part without separators and what follows it are found again. -/
theorem split_append_cons (sep : Char) (part rest : List Char) (h : sep ∉ part) :
    split sep (part ++ sep :: rest) = part :: split sep rest := by
  induction part with
  | nil => simp [split]
  | cons c part ih =>
    simp only [List.mem_cons, not_or] at h
    simp [split, Ne.symm h.1, ih h.2]

/-- A text without separators is its only part. -/
theorem split_of_not_mem (sep : Char) (part : List Char) (h : sep ∉ part) :
    split sep part = [part] := by
  induction part with
  | nil => rfl
  | cons c part ih =>
    simp only [List.mem_cons, not_or] at h
    simp [split, Ne.symm h.1, ih h.2]

/-- Parts without separators are found again. -/
theorem split_join (sep : Char) {parts : List (List Char)} (hne : parts ≠ [])
    (h : ∀ part ∈ parts, sep ∉ part) : split sep (join sep parts) = parts := by
  induction parts with
  | nil => exact absurd rfl hne
  | cons part parts ih =>
    cases parts with
    | nil => exact split_of_not_mem sep part (h part (by simp))
    | cons p ps =>
      have hrest : split sep (join sep (p :: ps)) = p :: ps :=
        ih (by simp) fun q hq => h q (List.mem_cons_of_mem _ hq)
      rw [join, split_append_cons sep part _ (h part (by simp)), hrest]
      simp

/-- Parts do not hold the separator. -/
theorem not_mem_of_mem_split {sep : Char} {part cs : List Char} (h : part ∈ split sep cs) :
    sep ∉ part := by
  induction cs generalizing part with
  | nil =>
    obtain rfl : part = [] := by simpa [split] using h
    exact List.not_mem_nil
  | cons c cs ih =>
    rw [split] at h
    by_cases hc : c = sep
    · rw [if_pos hc] at h
      rcases List.mem_cons.mp h with rfl | h
      · exact List.not_mem_nil
      · exact ih h
    · rw [if_neg hc] at h
      cases hs : split sep cs with
      | nil => exact absurd hs (split_ne_nil sep cs)
      | cons first parts =>
        rw [hs] at h ih
        rcases List.mem_cons.mp h with rfl | h
        · have hfirst : sep ∉ first := ih List.mem_cons_self
          simp [hfirst, Ne.symm hc]
        · exact ih (List.mem_cons_of_mem _ h)

/-- A joined text holds nothing but its parts and separators. -/
theorem eq_or_mem_of_mem_join {sep c : Char} {parts : List (List Char)} (h : c ∈ join sep parts) :
    c = sep ∨ ∃ part ∈ parts, c ∈ part := by
  induction parts with
  | nil => cases h
  | cons part parts ih =>
    cases parts with
    | nil => exact .inr ⟨part, List.mem_cons_self, h⟩
    | cons p ps =>
      rw [join, List.mem_append, List.mem_cons] at h
      rcases h with h | rfl | h
      · exact .inr ⟨part, List.mem_cons_self, h⟩
      · exact .inl rfl
      · obtain rfl | ⟨q, hq, hc⟩ := ih h
        · exact .inl rfl
        · exact .inr ⟨q, List.mem_cons_of_mem _ hq, hc⟩
      · simp

/-- A joined text holds its parts. -/
theorem mem_join_of_mem (sep : Char) {c : Char} {part : List Char} {parts : List (List Char)}
    (hpart : part ∈ parts) (hc : c ∈ part) : c ∈ join sep parts := by
  induction parts with
  | nil => cases hpart
  | cons p ps ih =>
    cases ps with
    | nil =>
      obtain rfl := List.mem_singleton.mp hpart
      exact hc
    | cons q qs =>
      rw [join]
      · rcases List.mem_cons.mp hpart with rfl | hpart
        · exact List.mem_append_left _ hc
        · exact List.mem_append_right _ (List.mem_cons_of_mem _ (ih hpart))
      · simp

/-- A text without separators has no last one. -/
theorem splitLast?_of_not_mem {sep : Char} {cs : List Char} (h : sep ∉ cs) :
    splitLast? sep cs = none := by
  induction cs with
  | nil => rfl
  | cons c cs ih =>
    rw [List.mem_cons, not_or] at h
    simp [splitLast?, ih h.2, Ne.symm h.1]

/-- What stands before and after a separator that is the last one. -/
theorem splitLast?_append {sep : Char} (before : List Char) {after : List Char} (h : sep ∉ after) :
    splitLast? sep (before ++ sep :: after) = some (before, after) := by
  induction before with
  | nil => simp [splitLast?, splitLast?_of_not_mem h]
  | cons c before ih => simp [splitLast?, ih]

/-- What stands before and after the last separator is a text with that separator in between. -/
theorem eq_append_of_splitLast? {sep : Char} {cs before after : List Char}
    (h : splitLast? sep cs = some (before, after)) : cs = before ++ sep :: after := by
  induction cs generalizing before with
  | nil => cases h
  | cons c cs ih =>
    rw [splitLast?] at h
    cases hlast : splitLast? sep cs with
    | some parts =>
      rw [hlast] at h
      obtain ⟨rfl, rfl⟩ := by simpa using h
      rw [ih hlast, List.cons_append]
    | none =>
      rw [hlast] at h
      obtain ⟨rfl, rfl, rfl⟩ := by simpa using h
      rfl

end RelayRoute.Text
