import Mathlib.Data.List.Duplicate
import Mathlib.Data.List.Perm.Basic
import RelayRoute.Proofs.ReadableValue

/-!
# The shapes of a record

A record is written as an object or as an array.  In an object the fields stand in any order, each
at most once, among entries that nobody knows; a field may be left out where it could be `null`.  In
an array all of them stand in their order.  If fields are stored independently of each other, every
shape is read as the same record.

* `Record.Presents`, `Record.WrittenAs` — the entries, and the values, that make up a record;
* `Record.Takes` — how a record is taken over field by field, in whatever order;
* `readEntries_unknown`, `readEntries_known`, `readEntries_cons_ok` — what becomes of one entry, in
  both directions;
* `nodup_fieldsOf_of_readEntries`, `not_givesTwice_of_readEntries` — an object that gives a field
  twice is never read;
* `readEntries_eq_foldl`, `Takes.foldl_eq` — an object is read as its fields taken one after
  another, and these make up the whole record;
* `Record.Takes.read` — the main result.
-/

namespace RelayRoute.Config

open Json5

namespace Record

variable {ι σ : Type}

/-! ## Objects and arrays -/

/-- The field that a key names. -/
def fieldOf? (record : Record ι σ) (key : Key) : Option ι :=
  (readKey key).toOption.bind record.field?

/-- The fields that entries are for, in the order of the entries. -/
def fieldsOf (record : Record ι σ) (entries : List (Key × Value)) : List ι :=
  entries.filterMap fun entry => record.fieldOf? entry.1

/-- Entries that make up a record whose fields are written in given ways. -/
structure Presents (record : Record ι σ) (written : ι → Value → Prop)
    (entries : List (Key × Value)) : Prop where
  /-- A field has its value. -/
  known : ∀ entry ∈ entries, ∀ field ∈ record.fieldOf? entry.1, written field entry.2
  /-- What is no field can be read. -/
  unknown : ∀ entry ∈ entries, record.fieldOf? entry.1 = none →
    IsText entry.1.parts ∧ entry.2.IsReadable
  /-- No field is given twice. -/
  once : (record.fieldsOf entries).Nodup
  /-- A field that is left out could be given as `null`. -/
  complete : ∀ field ∈ record.fields, field ∉ record.fieldsOf entries →
    ∀ place, written field (.null place)

/-- A value that a record may be written as, if its fields are written in given ways. -/
def WrittenAs (record : Record ι σ) (written : ι → Value → Prop) : Value → Prop
  | .object _ entries => record.Presents written entries
  | .array _ items => List.Forall₂ written record.fields items
  | .null _ | .boolean _ _ | .number _ _ | .string _ _ => False

/-- Entries that give a field twice. -/
def GivesTwice (record : Record ι σ) (entries : List (Key × Value)) : Prop :=
  ∃ field, List.Duplicate field (record.fieldsOf entries)

variable {record : Record ι σ}

/-- A key names the field whose name it is. -/
theorem fieldOf?_of_readKey {key : Key} {name : String} (h : readKey key = .ok name) :
    record.fieldOf? key = record.field? name := by
  rw [fieldOf?, h]
  rfl

/-- A field that is named is a field of the record. -/
theorem mem_fields_of_field? {name : String} {field : ι} (h : record.field? name = some field) :
    field ∈ record.fields :=
  List.mem_of_find?_eq_some h

/-- The fields that entries are for are fields of the record. -/
theorem mem_fields_of_mem_fieldsOf {entries : List (Key × Value)} {field : ι}
    (h : field ∈ record.fieldsOf entries) : field ∈ record.fields := by
  obtain ⟨entry, -, hfield⟩ := List.mem_filterMap.mp h
  obtain ⟨name, -, hname⟩ := Option.bind_eq_some_iff.mp hfield
  exact mem_fields_of_field? hname

/-- An entry that is for no field is not counted. -/
theorem fieldsOf_cons_none {entry : Key × Value} {entries : List (Key × Value)}
    (h : record.fieldOf? entry.1 = none) :
    record.fieldsOf (entry :: entries) = record.fieldsOf entries :=
  List.filterMap_cons_none h

/-- An entry that is for a field is. -/
theorem fieldsOf_cons_some {entry : Key × Value} {entries : List (Key × Value)} {field : ι}
    (h : record.fieldOf? entry.1 = some field) :
    record.fieldsOf (entry :: entries) = field :: record.fieldsOf entries :=
  List.filterMap_cons_some h

/-! ## Fields that are stored independently -/

/-- How a record is taken over field by field: whatever is written for a field, `take` is what
storing it does; storing `null` in an empty record does nothing, and the order does not matter. -/
structure Takes (record : Record ι σ) (written : ι → Value → Prop) (take : ι → σ → σ)
    (start : σ) : Prop where
  store : ∀ {field value}, value.HasDigits → written field value →
    ∀ s, record.store field value s = .ok (take field s)
  null : ∀ field place, record.store field (.null place) start = .ok start
  comm : ∀ field other s, take field (take other s) = take other (take field s)

variable {written : ι → Value → Prop} {take : ι → σ → σ} {start : σ}

/-- Taking a field that could be left out of an empty record leaves it empty. -/
theorem Takes.take_start (h : record.Takes written take start) {field : ι}
    (hnull : ∀ place, written field (.null place)) : take field start = start := by
  have hstore := h.store (.null 0) (hnull 0) start
  rw [h.null field 0] at hstore
  exact (Except.ok.inj hstore).symm

/-- Fields that could be left out do nothing to an empty record. -/
theorem Takes.foldl_start (h : record.Takes written take start) {fields : List ι}
    (hnull : ∀ field ∈ fields, ∀ place, written field (.null place)) :
    fields.foldl (fun s field => take field s) start = start := by
  induction fields with
  | nil => rfl
  | cons field fields ih =>
      obtain ⟨hfield, hfields⟩ := List.forall_mem_cons.mp hnull
      rw [List.foldl_cons, h.take_start hfield]
      exact ih hfields

/-- Items for all fields are read as the fields, taken one after another. -/
theorem Takes.readItems (h : record.Takes written take start) {fields : List ι}
    {items : List Value} (hitems : List.Forall₂ written fields items)
    (hdigits : ∀ item ∈ items, item.HasDigits) (place index : ℕ) (s : σ) :
    record.readItems place index fields items s =
      .ok (fields.foldl (fun s field => take field s) s) := by
  induction hitems generalizing index s with
  | nil => rfl
  | @cons field item fields items hwritten _ ih =>
      obtain ⟨hitem, hdigits⟩ := List.forall_mem_cons.mp hdigits
      rw [Record.readItems, h.store hitem hwritten s]
      exact ih hdigits (index + 1) (take field s)

/-! ## One entry after another -/

variable [DecidableEq ι]

/-- An entry that is for no field is skipped if it can be read. -/
theorem readEntries_unknown {key : Key} {value : Value} {entries : List (Key × Value)}
    (hkey : IsText key.parts) (hvalue : value.IsReadable) (hfield : record.fieldOf? key = none)
    (place : ℕ) (seen : List ι) (s : σ) :
    record.readEntries place seen ((key, value) :: entries) s =
      record.readEntries place seen entries s := by
  obtain ⟨name, hname⟩ := (readKey_ok_iff key).mpr hkey
  rw [fieldOf?_of_readKey hname] at hfield
  have hignore : ignore value = .ok () := (ignore_ok_iff value).mpr hvalue
  rw [readEntries, hname]
  simp only [bind, Except.bind, hfield, hignore]

/-- An entry for a field that is not stored yet is stored. -/
theorem readEntries_known {key : Key} {value : Value} {entries : List (Key × Value)} {field : ι}
    {s next : σ} {seen : List ι} (hfield : record.fieldOf? key = some field)
    (hnew : field ∉ seen) (hstore : record.store field value s = .ok next) (place : ℕ) :
    record.readEntries place seen ((key, value) :: entries) s =
      record.readEntries place (field :: seen) entries next := by
  cases hkey : readKey key with
  | error fault =>
      rw [fieldOf?, hkey] at hfield
      cases hfield
  | ok name =>
      rw [fieldOf?_of_readKey hkey] at hfield
      rw [readEntries, hkey]
      simp only [bind, Except.bind, hfield, hnew, if_false, hstore]

/-- What has become of an entry that was read: it is for no field and was skipped, or it is for a
field that was not stored before and is stored now. -/
theorem readEntries_cons_ok {key : Key} {value : Value} {entries : List (Key × Value)} {place : ℕ}
    {seen : List ι} {s result : σ}
    (h : record.readEntries place seen ((key, value) :: entries) s = .ok result) :
    (record.fieldOf? key = none ∧ record.readEntries place seen entries s = .ok result) ∨
      ∃ field next, record.fieldOf? key = some field ∧ field ∉ seen ∧
        record.store field value s = .ok next ∧
        record.readEntries place (field :: seen) entries next = .ok result := by
  rw [readEntries] at h
  obtain ⟨name, hkey, h⟩ := exists_of_bind_ok h
  rw [fieldOf?_of_readKey hkey]
  cases hfield : record.field? name with
  | none =>
      rw [hfield] at h
      obtain ⟨_, -, h⟩ := exists_of_bind_ok h
      exact .inl ⟨rfl, h⟩
  | some field =>
      rw [hfield] at h
      dsimp only at h
      by_cases hseen : field ∈ seen
      · rw [if_pos hseen] at h
        cases h
      · rw [if_neg hseen] at h
        obtain ⟨next, hstore, h⟩ := exists_of_bind_ok h
        exact .inr ⟨field, next, rfl, hseen, hstore, h⟩

/-- The fields of entries that were read are different from each other and from those seen before.
The induction is on the entries, each of which is skipped or seen from then on. -/
theorem nodup_fieldsOf_of_readEntries {entries : List (Key × Value)} {place : ℕ} {seen : List ι}
    {s result : σ} (h : record.readEntries place seen entries s = .ok result) :
    (record.fieldsOf entries).Nodup ∧ ∀ field ∈ record.fieldsOf entries, field ∉ seen := by
  induction entries generalizing seen s with
  | nil => exact ⟨List.nodup_nil, fun _ hmem => absurd hmem List.not_mem_nil⟩
  | cons entry entries ih =>
      rcases readEntries_cons_ok h with ⟨hfield, hrest⟩ | ⟨field, next, hfield, hnew, -, hrest⟩
      · rw [fieldsOf_cons_none hfield]
        exact ih hrest
      · rw [fieldsOf_cons_some hfield]
        obtain ⟨hnodup, hothers⟩ := ih hrest
        have hnotin : field ∉ record.fieldsOf entries :=
          fun hmem => hothers field hmem List.mem_cons_self
        refine ⟨List.nodup_cons.mpr ⟨hnotin, hnodup⟩, List.forall_mem_cons.mpr ⟨hnew, ?_⟩⟩
        exact fun other hmem hseen => hothers other hmem (List.mem_cons_of_mem field hseen)

/-- **Entries that give a field twice are not read.** -/
theorem not_givesTwice_of_readEntries {entries : List (Key × Value)} {place : ℕ} {seen : List ι}
    {s result : σ} (h : record.readEntries place seen entries s = .ok result) :
    ¬ record.GivesTwice entries := by
  intro htwice
  exact List.exists_duplicate_iff_not_nodup.mp htwice (nodup_fieldsOf_of_readEntries h).1

/-- The entries of an object that was read were all stored. -/
theorem store_of_readEntries {entries : List (Key × Value)} {place : ℕ} {seen : List ι}
    {s result : σ} (h : record.readEntries place seen entries s = .ok result) :
    ∀ entry ∈ entries, ∀ field ∈ record.fieldOf? entry.1,
      ∃ before after, record.store field entry.2 before = .ok after := by
  induction entries generalizing seen s with
  | nil => exact fun _ hmem => absurd hmem List.not_mem_nil
  | cons entry entries ih =>
      intro other hmem field hother
      rcases readEntries_cons_ok h with ⟨hfield, hrest⟩ | ⟨stored, next, hfield, -, hstore, hrest⟩
      · rcases List.mem_cons.mp hmem with rfl | hmem
        · rw [hfield] at hother
          cases hother
        · exact ih hrest other hmem field hother
      · rcases List.mem_cons.mp hmem with rfl | hmem
        · rw [hfield] at hother
          cases hother
          exact ⟨s, next, hstore⟩
        · exact ih hrest other hmem field hother

/-- Entries that can be read are read as the fields they are for, taken one after another.  Every
field that is stored is seen from then on, hence the induction for all that is seen. -/
theorem readEntries_eq_foldl {entries : List (Key × Value)} {seen : List ι}
    (hknown : ∀ entry ∈ entries, ∀ field ∈ record.fieldOf? entry.1,
      ∀ s, record.store field entry.2 s = .ok (take field s))
    (hunknown : ∀ entry ∈ entries, record.fieldOf? entry.1 = none →
      IsText entry.1.parts ∧ entry.2.IsReadable)
    (honce : (record.fieldsOf entries).Nodup)
    (hseen : ∀ field ∈ record.fieldsOf entries, field ∉ seen) (place : ℕ) (s : σ) :
    record.readEntries place seen entries s =
      .ok ((record.fieldsOf entries).foldl (fun s field => take field s) s) := by
  induction entries generalizing seen s with
  | nil => rfl
  | cons entry entries ih =>
      obtain ⟨hentry, hknown⟩ := List.forall_mem_cons.mp hknown
      obtain ⟨hother, hunknown⟩ := List.forall_mem_cons.mp hunknown
      cases hfield : record.fieldOf? entry.1 with
      | none =>
          rw [fieldsOf_cons_none hfield] at honce hseen ⊢
          obtain ⟨hkey, hvalue⟩ := hother hfield
          rw [readEntries_unknown hkey hvalue hfield]
          exact ih hknown hunknown honce hseen s
      | some field =>
          rw [fieldsOf_cons_some hfield] at honce hseen ⊢
          obtain ⟨hnotin, honce⟩ := List.nodup_cons.mp honce
          obtain ⟨hnew, hothers⟩ := List.forall_mem_cons.mp hseen
          rw [readEntries_known hfield hnew (hentry field hfield s), List.foldl_cons]
          apply ih hknown hunknown honce
          intro later hmem hseen
          rcases List.mem_cons.mp hseen with rfl | hseen
          · exact hnotin hmem
          · exact hothers later hmem hseen

/-! ## Every shape -/

/-- The fields that are given, in any order, make up the whole record if the others could be left
out.  What is missing does nothing where it comes first, and the order does not matter. -/
theorem Takes.foldl_eq (h : record.Takes written take start) (hnodup : record.fields.Nodup)
    {given : List ι} (honce : given.Nodup) (hgiven : ∀ field ∈ given, field ∈ record.fields)
    (hcomplete : ∀ field ∈ record.fields, field ∉ given → ∀ place, written field (.null place)) :
    given.foldl (fun s field => take field s) start =
      record.fields.foldl (fun s field => take field s) start := by
  obtain ⟨missing, hmissing⟩ :
      ∃ missing, missing = record.fields.filter fun field => field ∉ given := ⟨_, rfl⟩
  have hmem {field : ι} : field ∈ missing ↔ field ∈ record.fields ∧ field ∉ given := by
    rw [hmissing, List.mem_filter, decide_eq_true_iff]
  have hperm : List.Perm (missing ++ given) record.fields := by
    have hdisjoint : List.Disjoint missing given := fun field hleft hright =>
      (hmem.mp hleft).2 hright
    have hall : (missing ++ given).Nodup :=
      (hmissing ▸ hnodup.filter _).append honce hdisjoint
    refine (List.perm_ext_iff_of_nodup hall hnodup).mpr fun field => ?_
    rw [List.mem_append, hmem]
    constructor
    · intro hfield
      exact hfield.elim And.left (hgiven field)
    · intro hfield
      by_cases hin : field ∈ given
      · exact .inr hin
      · exact .inl ⟨hfield, hin⟩
  have hnothing : missing.foldl (fun s field => take field s) start = start :=
    h.foldl_start fun field hfield => hcomplete field (hmem.mp hfield).1 (hmem.mp hfield).2
  calc given.foldl (fun s field => take field s) start
      = (missing ++ given).foldl (fun s field => take field s) start := by
        rw [List.foldl_append, hnothing]
    _ = record.fields.foldl (fun s field => take field s) start :=
        hperm.foldl_eq' (fun field _ other _ s => h.comm other field s) start

/-- **A record is read from every shape it is written in**: an object is read entry by entry, and an
array item by item, and both come to its fields taken in their order. -/
theorem Takes.read (h : record.Takes written take start) (hnodup : record.fields.Nodup)
    {value : Value} (hdigits : value.HasDigits) (hwritten : record.WrittenAs written value) :
    record.read start value = .ok (record.fields.foldl (fun s field => take field s) start) := by
  cases hdigits with
  | null | boolean | number | string => exact hwritten.elim
  | object place _ hdigits =>
      rw [Record.read, readEntries_eq_foldl
        (fun entry hentry field hfield =>
          h.store (hdigits entry hentry) (hwritten.known entry hentry field hfield))
        hwritten.unknown hwritten.once (fun _ _ => List.not_mem_nil)]
      exact congrArg _ (h.foldl_eq hnodup hwritten.once
        (fun _ => mem_fields_of_mem_fieldsOf) hwritten.complete)
  | array place hdigits =>
      exact h.readItems hwritten hdigits place 0 start

end Record

end RelayRoute.Config
