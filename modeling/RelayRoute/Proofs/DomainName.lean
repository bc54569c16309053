import RelayRoute.Name.Domain
import RelayRoute.Proofs.Literals
import RelayRoute.Proofs.Punycode

/-!
# Domain names are brought to ASCII once

A domain name in its ASCII form is its own ASCII form, but for labels that were written in Punycode
and stand for what would again be taken for Punycode: what was read is not read once more.

* `IsPlain` — the ASCII characters that the mapping keeps; names are written in these
  (`Domain.isPlain_of_mem_write`), and a text of them is mapped to itself (`Domain.map?_of_plain`);
* `Label.read?_write` — a label is read as it was written, unless it is disguised;
* `Domain.labels?_write`, `Domain.ofText?_again` — so the labels of a name are those it was written
  of, and the name is its own;
* `Domain.Unencoded`, `Domain.labels?_of_unencoded` — texts in ASCII without Punycode stand for no
  label that is disguised.
-/

namespace RelayRoute

/-! ## Texts in ASCII -/

namespace Unicode

/-- ASCII characters are not composed with what stands before them, since no pair that is composed
ends in one.  The induction is on the text. -/
theorem composeAfter_of_ascii {cs : List Char} (h : ∀ c ∈ cs, c.toNat < 128) (start : Char) :
    composeAfter start [] 0 cs = start :: cs := by
  induction cs generalizing start with
  | nil => rfl
  | cons c cs ih =>
      obtain ⟨hc, hcs⟩ := List.forall_mem_cons.mp h
      have hpair : composePair? start c = none := by simp [composePair?, hc]
      have hclass : combiningClass c = 0 := by simp [combiningClass, hc]
      simp [composeAfter, hpair, hclass, ih hcs]

theorem orderMarks_of_ascii {text : List Char} (h : ∀ c ∈ text, c.toNat < 128) :
    orderMarks text = text := by
  induction text with
  | nil => rfl
  | cons c cs ih =>
      obtain ⟨hc, hcs⟩ := List.forall_mem_cons.mp h
      have hclass : combiningClass c = 0 := by simp [combiningClass, hc]
      rw [orderMarks, ih hcs]
      cases cs with
      | nil => rfl
      | cons d ds => simp [place, hclass]

/-- An ASCII text is in normal form. -/
theorem normalize_of_ascii {text : List Char} (h : ∀ c ∈ text, c.toNat < 128) :
    normalize text = text := by
  have hdecompose : text.flatMap decompose = text := by
    induction text with
    | nil => rfl
    | cons c cs ih =>
        obtain ⟨hc, hcs⟩ := List.forall_mem_cons.mp h
        simp [decompose, hc, ih hcs]
  rw [normalize, hdecompose, orderMarks_of_ascii h]
  cases text with
  | nil => rfl
  | cons c cs =>
      obtain ⟨hc, hcs⟩ := List.forall_mem_cons.mp h
      have hclass : combiningClass c = 0 := by simp [combiningClass, hc]
      rw [compose, if_pos hclass, composeAfter_of_ascii hcs]

end Unicode

namespace Name

/-- Characters in ASCII that the mapping keeps. -/
def IsPlain (c : Char) : Prop :=
  c.toNat < 128 ∧ mapChar? c = some [c]

/-- The digits of Punycode are kept, and none is a dot. -/
theorem isPlain_digit {d : Nat} (h : d < 36) :
    IsPlain (Punycode.digit d) ∧ Punycode.digit d ≠ '.' := by
  have hdigits : ∀ k : Fin 36, ((Punycode.digit k).toNat < 128 ∧
      mapChar? (Punycode.digit k) = some [Punycode.digit k]) ∧ Punycode.digit k ≠ '.' := by decide
  exact hdigits ⟨d, h⟩

/-- A text of characters that are kept is mapped to itself. -/
theorem Domain.map?_of_plain {text : List Char} (h : ∀ c ∈ text, IsPlain c) :
    map? text = some text := by
  have hparts : text.mapM mapChar? = some (text.map fun c => [c]) := by
    induction text with
    | nil => rfl
    | cons c cs ih =>
        obtain ⟨hc, hcs⟩ := List.forall_mem_cons.mp h
        simp [hc.2, ih hcs]
  have hflatten : (text.map fun c => [c]).flatten = text := by
    rw [← List.flatMap_def, List.flatMap_singleton']
  rw [map?, hparts, Option.map_some, hflatten, Unicode.normalize_of_ascii fun c hc => (h c hc).1]

/-! ## Labels -/

namespace Label

/-- A label in ASCII that is taken for Punycode when it is read again. -/
def isDisguised (label : List Char) : Bool :=
  label.all Punycode.isBasic && encodedMark.isPrefixOf label

/-- A label that is not marked stands for itself. -/
theorem read?_of_unmarked {label : List Char} (h : ¬ encodedMark <+: label) :
    read? label = some label := by
  unfold read?
  split
  · next rest => exact absurd ⟨rest, rfl⟩ h
  · rfl

/-- A label is read as it was written, unless it is disguised. -/
theorem read?_write {label : List Char} (h : ¬ isDisguised label) :
    read? (write label) = some label := by
  unfold write
  by_cases hbasic : label.all Punycode.isBasic
  · rw [if_pos hbasic]
    have hmark : ¬ encodedMark <+: label := by simpa [isDisguised, hbasic] using h
    exact read?_of_unmarked hmark
  · rw [if_neg hbasic]
    exact Punycode.decode?_encode label

/-- What a written label consists of: ASCII characters of its own, and the mark, the hyphens and the
digits of Punycode. -/
theorem mem_write {label : List Char} {c : Char} (h : c ∈ write label) :
    Punycode.isBasic c ∧ c ∈ label ∨ IsPlain c ∧ c ≠ '.' := by
  unfold write at h
  by_cases hbasic : label.all Punycode.isBasic
  · rw [if_pos hbasic] at h
    exact .inl ⟨List.all_eq_true.mp hbasic c h, h⟩
  · rw [if_neg hbasic] at h
    rcases List.mem_append.mp h with h | h
    · right
      simp only [encodedMark, List.mem_cons, List.not_mem_nil, or_false] at h
      rcases h with rfl | rfl | rfl | rfl <;> exact ⟨⟨by decide, by decide⟩, by decide⟩
    · rcases Punycode.mem_encode h with hkept | rfl | ⟨d, hd, rfl⟩
      · exact .inl hkept
      · exact .inr ⟨⟨by decide, by decide⟩, by decide⟩
      · exact .inr (isPlain_digit hd)

/-- A well formed label is written in characters that are kept. -/
theorem isPlain_of_mem_write {label : List Char} {c : Char} (hformed : isWellFormed label)
    (h : c ∈ write label) : IsPlain c := by
  rcases mem_write h with ⟨hbasic, hc⟩ | ⟨hplain, -⟩
  · have hmapped : isMapped c := by
      simp only [isWellFormed, Bool.and_eq_true, List.all_eq_true] at hformed
      exact hformed.2 c hc
    exact ⟨by simpa [Punycode.isBasic] using hbasic, by simpa [isMapped] using hmapped⟩
  · exact hplain

/-- Writing a label adds no dots to it. -/
theorem dot_not_mem_write {label : List Char} (h : '.' ∉ label) : '.' ∉ write label := by
  intro hdot
  rcases mem_write hdot with ⟨-, hmem⟩ | ⟨-, hne⟩
  · exact h hmem
  · exact hne rfl

/-- Reading a label adds no dots to it. -/
theorem dot_not_mem_of_read? {part label : List Char} (hread : read? part = some label)
    (h : '.' ∉ part) : '.' ∉ label := by
  intro hdot
  unfold read? at hread
  split at hread
  · next rest =>
      rcases Punycode.mem_of_decode? hread hdot with hmem | hbeyond
      · simp only [List.mem_cons, not_or] at h
        exact h.2.2.2.2 hmem
      · exact absurd hbeyond (by decide)
  · obtain rfl : part = label := by simpa using hread
    exact h hdot

end Label

/-! ## Names -/

section

variable {α β : Type}

/-- What a list is mapped to are the images of its entries. -/
theorem exists_of_mem_mapM {f : α → Option β} {xs : List α} {ys : List β} {y : β}
    (h : xs.mapM f = some ys) (hy : y ∈ ys) : ∃ x ∈ xs, f x = some y := by
  induction xs generalizing ys with
  | nil =>
      obtain rfl : [] = ys := by simpa using h
      cases hy
  | cons x xs ih =>
      simp only [List.mapM_cons, Option.bind_eq_bind, Option.bind_eq_some_iff] at h
      obtain ⟨z, hz, zs, hzs, hys⟩ := h
      obtain rfl : z :: zs = ys := by simpa using hys
      rcases List.mem_cons.mp hy with rfl | hy
      · exact ⟨x, List.mem_cons_self, hz⟩
      · obtain ⟨x', hx', hfx⟩ := ih hzs hy
        exact ⟨x', List.mem_cons_of_mem _ hx', hfx⟩

/-- Every entry of a list that is mapped has an image. -/
theorem exists_of_mapM_of_mem {f : α → Option β} {xs : List α} {ys : List β} {x : α}
    (h : xs.mapM f = some ys) (hx : x ∈ xs) : ∃ y, f x = some y := by
  induction xs generalizing ys with
  | nil => cases hx
  | cons first xs ih =>
      simp only [List.mapM_cons, Option.bind_eq_bind, Option.bind_eq_some_iff] at h
      obtain ⟨y, hy, others, hothers, -⟩ := h
      rcases List.mem_cons.mp hx with rfl | hx
      · exact ⟨y, hy⟩
      · exact ih hothers hx

/-- What is undone entry by entry is undone. -/
theorem mapM_map_eq_some {f : β → Option α} {g : α → β} {xs : List α}
    (h : ∀ x ∈ xs, f (g x) = some x) : (xs.map g).mapM f = some xs := by
  induction xs with
  | nil => rfl
  | cons x xs ih =>
      obtain ⟨hx, hxs⟩ := List.forall_mem_cons.mp h
      simp [hx, ih hxs]

end

namespace Domain

/-- The labels that a text stands for. -/
def labels? (text : List Char) : Option (List (List Char)) :=
  (map? text).bind fun mapped => (Text.split '.' mapped).mapM Label.read?

/-- The name that labels make. -/
def write (labels : List (List Char)) : List Char :=
  Text.join '.' (labels.map Label.write)

/-- No label that a text stands for is disguised. -/
def Undisguised (text : List Char) : Prop :=
  ∀ labels, labels? text = some labels → ∀ label ∈ labels, ¬ Label.isDisguised label

/-- A text is in ASCII, and no label of it is marked as Punycode. -/
def Unencoded (text : List Char) : Prop :=
  (∀ c ∈ text, c.toNat < 128) ∧ ∀ mapped, map? text = some mapped →
    ∀ label ∈ Text.split '.' mapped, ¬ Label.encodedMark <+: label

/-- A text is the name that its labels make, if these are well formed and the name fits. -/
theorem ofText?_eq_some_iff {text name : List Char} :
    ofText? text = some name ↔ ∃ labels, labels? text = some labels ∧ isWellFormed labels ∧
      fits (write labels) ∧ write labels = name := by
  unfold ofText? labels? write
  delta guard
  simp only [Option.bind_eq_bind, Option.bind_eq_some_iff]
  constructor
  · rintro ⟨mapped, hmapped, labels, hlabels, _, hformed, _, hfits, hname⟩
    refine ⟨labels, ⟨mapped, hmapped, hlabels⟩, ?_, ?_, by simpa using hname⟩
    · by_contra hnot
      simp [hnot] at hformed
    · by_contra hnot
      simp [hnot] at hfits
  · rintro ⟨labels, ⟨mapped, hmapped, hlabels⟩, hformed, hfits, hname⟩
    exact ⟨mapped, hmapped, labels, hlabels, (), by simp [hformed], (), by simp [hfits],
      by simpa using hname⟩

/-- A text with a character that is refused is no name. -/
theorem ofText?_of_refused {text : List Char} {c : Char} (hc : c ∈ text)
    (hrefused : mapChar? c = none) : ofText? text = none := by
  have hmap : map? text = none := by
    by_contra hsome
    obtain ⟨mapped, hmapped⟩ := Option.ne_none_iff_exists'.mp hsome
    obtain ⟨parts, hparts, -⟩ := Option.map_eq_some_iff.mp hmapped
    obtain ⟨out, hout⟩ := exists_of_mapM_of_mem hparts hc
    rw [hrefused] at hout
    cases hout
  rw [ofText?, hmap]
  rfl

/-- There is always a label, and no label holds a dot. -/
theorem labels?_spec {text : List Char} {labels : List (List Char)}
    (h : labels? text = some labels) : labels ≠ [] ∧ ∀ label ∈ labels, '.' ∉ label := by
  obtain ⟨mapped, -, hlabels⟩ := Option.bind_eq_some_iff.mp h
  constructor
  · rintro rfl
    cases hparts : Text.split '.' mapped with
    | nil => exact Text.split_ne_nil '.' mapped hparts
    | cons part parts => simp [hparts, Option.bind_eq_some_iff] at hlabels
  · intro label hlabel
    obtain ⟨part, hpart, hread⟩ := exists_of_mem_mapM hlabels hlabel
    exact Label.dot_not_mem_of_read? hread (Text.not_mem_of_mem_split hpart)

/-- Names are written in characters that are kept. -/
theorem isPlain_of_mem_write {labels : List (List Char)} (hformed : isWellFormed labels) :
    ∀ c ∈ write labels, IsPlain c := by
  intro c hc
  rcases Text.eq_or_mem_of_mem_join hc with rfl | ⟨part, hpart, hc⟩
  · exact ⟨by decide, by decide⟩
  · obtain ⟨label, hlabel, rfl⟩ := List.mem_map.mp hpart
    simp only [isWellFormed, Bool.and_eq_true, List.all_eq_true] at hformed
    exact Label.isPlain_of_mem_write (hformed.1 label hlabel) hc

/-- The labels of a name are those it was written of, unless one of them is disguised. -/
theorem labels?_write {labels : List (List Char)} (hne : labels ≠ [])
    (hdots : ∀ label ∈ labels, '.' ∉ label) (hformed : isWellFormed labels)
    (hundisguised : ∀ label ∈ labels, ¬ Label.isDisguised label) :
    labels? (write labels) = some labels := by
  have hmap : map? (write labels) = some (write labels) :=
    map?_of_plain (isPlain_of_mem_write hformed)
  have hsplit : Text.split '.' (write labels) = labels.map Label.write := by
    refine Text.split_join '.' (by simpa using hne) fun part hpart => ?_
    obtain ⟨label, hlabel, rfl⟩ := List.mem_map.mp hpart
    exact Label.dot_not_mem_write (hdots label hlabel)
  rw [labels?, hmap, Option.bind_some, hsplit]
  exact mapM_map_eq_some fun label hlabel => Label.read?_write (hundisguised label hlabel)

/-- A name is in characters that are kept, and it is its own name, unless a label is disguised. -/
theorem ofText?_again {text name : List Char} (h : ofText? text = some name) :
    (∀ c ∈ name, IsPlain c) ∧ (Undisguised text → ofText? name = some name) := by
  obtain ⟨labels, hlabels, hformed, hfits, rfl⟩ := ofText?_eq_some_iff.mp h
  obtain ⟨hne, hdots⟩ := labels?_spec hlabels
  refine ⟨isPlain_of_mem_write hformed, fun hundisguised => ?_⟩
  have hagain := labels?_write hne hdots hformed (hundisguised labels hlabels)
  exact ofText?_eq_some_iff.mpr ⟨labels, hagain, hformed, hfits, rfl⟩

/-! ## Names without Punycode -/

/-- An ASCII character is kept or becomes a small letter. -/
theorem eq_of_mapAscii? {c : Char} {out : List Char} (h : mapAscii? c = some out)
    (hascii : c.toNat < 128) : ∃ d, out = [d] ∧ d.toNat < 128 ∧ (IsDotted d → d = c) := by
  unfold mapAscii? at h
  split at h
  · obtain rfl : [c] = out := by simpa using h
    exact ⟨c, rfl, hascii, fun _ => rfl⟩
  · split at h
    · next hupper =>
        obtain rfl : [c.toLower] = out := by simpa using h
        have hsmall : ∀ n : Fin 128, (Char.ofNat n).isUpper →
            (Char.ofNat n).toLower.toNat < 128 ∧
              ¬ (Digits.isDigit 10 (Char.ofNat n).toLower ∨ (Char.ofNat n).toLower = '.') := by
          decide
        have hc := hsmall ⟨c.toNat, hascii⟩ (by simpa using hupper)
        rw [Char.ofNat_toNat] at hc
        exact ⟨c.toLower, rfl, hc.1, fun hdotted => absurd hdotted hc.2⟩
    · cases h

/-- A text in ASCII is mapped to ASCII, and was the same if that consists of digits and dots.  The
parts are compared before they are normalized, which changes nothing in ASCII. -/
theorem map?_of_ascii {text mapped : List Char} (hascii : ∀ c ∈ text, c.toNat < 128)
    (h : map? text = some mapped) :
    (∀ c ∈ mapped, c.toNat < 128) ∧ ((∀ c ∈ mapped, IsDotted c) → mapped = text) := by
  have hparts : ∀ parts, text.mapM mapChar? = some parts → (∀ c ∈ parts.flatten, c.toNat < 128) ∧
      ((∀ c ∈ parts.flatten, IsDotted c) → parts.flatten = text) := by
    clear h
    induction text with
    | nil =>
        intro parts hparts
        obtain rfl : [] = parts := by simpa using hparts
        simp
    | cons c cs ih =>
        obtain ⟨hc, hcs⟩ := List.forall_mem_cons.mp hascii
        intro parts hparts
        simp only [List.mapM_cons, Option.bind_eq_bind, Option.bind_eq_some_iff] at hparts
        obtain ⟨out, hout, rest, hrest, hwhole⟩ := hparts
        obtain rfl : out :: rest = parts := by simpa using hwhole
        rw [mapChar?, if_pos hc] at hout
        obtain ⟨d, rfl, hd, hsame⟩ := eq_of_mapAscii? hout hc
        obtain ⟨hsmall, hothers⟩ := ih hcs rest hrest
        rw [List.flatten_cons, List.singleton_append]
        refine ⟨List.forall_mem_cons.mpr ⟨hd, hsmall⟩, fun hdotted => ?_⟩
        obtain ⟨hd, hrest⟩ := List.forall_mem_cons.mp hdotted
        rw [hsame hd, hothers hrest]
  obtain ⟨parts, hsome, hnormal⟩ := Option.map_eq_some_iff.mp h
  obtain ⟨hsmall, hsame⟩ := hparts parts hsome
  rw [Unicode.normalize_of_ascii hsmall] at hnormal
  rw [← hnormal]
  exact ⟨hsmall, hsame⟩

/-- A text without Punycode stands for the labels it is mapped to, and these are not disguised.
Nothing is marked, so nothing is decoded when the labels are read, or encoded when they are written.
-/
theorem labels?_of_unencoded {text : List Char} {labels : List (List Char)}
    (hunencoded : Unencoded text) (h : labels? text = some labels) :
    map? text = some (write labels) ∧ ∀ label ∈ labels, ¬ Label.isDisguised label := by
  obtain ⟨mapped, hmapped, hlabels⟩ := Option.bind_eq_some_iff.mp h
  have hmark := hunencoded.2 mapped hmapped
  have hsame : (Text.split '.' mapped).mapM Label.read? = some (Text.split '.' mapped) := by
    have hid := mapM_map_eq_some (g := id) fun label hlabel =>
      Label.read?_of_unmarked (hmark label hlabel)
    rwa [List.map_id] at hid
  obtain rfl : Text.split '.' mapped = labels := by simpa [hsame] using hlabels
  have hascii := (map?_of_ascii hunencoded.1 hmapped).1
  have hwrite : (Text.split '.' mapped).map Label.write = Text.split '.' mapped := by
    refine (List.map_congr_left fun label hlabel => ?_).trans (List.map_id _)
    have hbasic : label.all Punycode.isBasic := by
      refine List.all_eq_true.mpr fun c hc => ?_
      have hmem := Text.mem_join_of_mem '.' hlabel hc
      rw [Text.join_split] at hmem
      simpa [Punycode.isBasic] using hascii c hmem
    rw [Label.write, if_pos hbasic, id]
  constructor
  · rw [write, hwrite, Text.join_split, hmapped]
  · intro label hlabel hdisguised
    have hprefix : Label.encodedMark <+: label := by
      simp only [Label.isDisguised, Bool.and_eq_true] at hdisguised
      simpa using hdisguised.2
    exact hmark label hlabel hprefix

end Domain

end Name

end RelayRoute
