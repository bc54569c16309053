/-!
# Digits

Numerals in a base of at most thirty-six, over lists of characters.

* `write`, `decimal` — the digits of a number without leading zeros and in lower case, and those in
  base ten as a string;
* `span` — the digits a text starts with, in either case;
* `ofDigits`, `read?` — the number that digits stand for, and the number that a text spells;
* `exists_digits_write`, `length_write_le`, `head?_write` — a number is written in its own digits,
  in no more than it takes, and with no zero in front.
-/

namespace RelayRoute.Digits

/-- The value of a digit, in either case, when it is a digit of the base. -/
def value? (base : Nat) (c : Char) : Option Nat :=
  let n :=
    if '0' ≤ c ∧ c ≤ '9' then c.toNat - 48
    else if 'a' ≤ c ∧ c ≤ 'z' then c.toNat - 87
    else if 'A' ≤ c ∧ c ≤ 'Z' then c.toNat - 55
    else base
  if n < base then some n else none

/-- Whether a character is a digit of the base. -/
def isDigit (base : Nat) (c : Char) : Bool :=
  (value? base c).isSome

/-- The number that digits stand for, the first one weighing most. -/
def ofDigits (base : Nat) (ds : List Nat) : Nat :=
  ds.foldl (fun n d => base * n + d) 0

/-- The digits a text starts with, as values, and the text after them. -/
def span (base : Nat) : List Char → List Nat × List Char
  | [] => ([], [])
  | c :: cs =>
    match value? base c with
    | some d => let (ds, rest) := span base cs; (d :: ds, rest)
    | none => ([], c :: cs)

/-- The number a text spells when it consists of digits alone, at least one. -/
def read? (base : Nat) (cs : List Char) : Option Nat :=
  match span base cs with
  | ([], _) => none
  | (ds, []) => some (ofDigits base ds)
  | (_, _ :: _) => none

/-- The digits of a number, without leading zeros and in lower case; zero has one digit. -/
def write (base n : Nat) : List Char :=
  Nat.toDigits base n

/-- A number in base ten, as a string. -/
def decimal (n : Nat) : String :=
  String.ofList (write 10 n)

/-- Digits before something that is no digit are taken, and nothing else. -/
theorem span_append {base : Nat} {cs rest : List Char} {ds : List Nat}
    (h : cs.map (value? base) = ds.map some) (hrest : ∀ c ∈ rest.head?, value? base c = none) :
    span base (cs ++ rest) = (ds, rest) := by
  induction cs generalizing ds with
  | nil =>
    obtain rfl : ds = [] := by simpa using h.symm
    cases rest with
    | nil => rfl
    | cons c rest => simp [span, hrest c rfl]
  | cons c cs ih =>
    cases ds with
    | nil => simp at h
    | cons d ds =>
      obtain ⟨hc, hcs⟩ : value? base c = some d ∧ cs.map (value? base) = ds.map some := by
        simpa using h
      simp [span, hc, ih hcs]

/-- One more digit at the end. -/
theorem ofDigits_append (base : Nat) (ds : List Nat) (d : Nat) :
    ofDigits base (ds ++ [d]) = base * ofDigits base ds + d := by
  rw [ofDigits, List.foldl_append]
  rfl

/-- A digit is read as its value. -/
theorem value?_digitChar {base n : Nat} (hbase : base ≤ 16) (h : n < base) :
    value? base (Nat.digitChar n) = some n := by
  have hdigits : ∀ base : Fin 17, ∀ n : Fin 16, n.val < base.val →
      value? base (Nat.digitChar n) = some n.val := by decide
  exact hdigits ⟨base, by omega⟩ ⟨n, by omega⟩ h

/-- The digits of a number are those it is written in, at least one. -/
theorem exists_digits_write {base : Nat} (hpos : 1 < base) (hbase : base ≤ 16) (n : Nat) :
    ∃ ds, (write base n).map (value? base) = ds.map some ∧ ofDigits base ds = n ∧ ds ≠ [] := by
  induction n using Nat.strongRecOn with
  | ind n ih =>
    by_cases hlt : n < base
    · refine ⟨[n], ?_, ?_, by simp⟩
      · rw [write, Nat.toDigits_of_lt_base hlt]
        simp [value?_digitChar hbase hlt]
      · simp [ofDigits]
    · have hle : base ≤ n := Nat.le_of_not_lt hlt
      have hmod : n % base < base := Nat.mod_lt _ (by omega)
      obtain ⟨ds, hds, hvalue, -⟩ := ih (n / base) (Nat.div_lt_self (by omega) hpos)
      refine ⟨ds ++ [n % base], ?_, ?_, by simp⟩
      · rw [write] at hds ⊢
        rw [Nat.toDigits_of_base_le hpos hle, List.map_append, hds, List.map_append]
        simp [value?_digitChar hbase hmod]
      · rw [ofDigits_append, hvalue, Nat.div_add_mod]

/-- A number is written with as many digits as it takes to stay below a power of the base. -/
theorem length_write_le {base n k : Nat} (hpos : 1 < base) (hk : 0 < k) (h : n < Nat.pow base k) :
    (write base n).length ≤ k :=
  (Nat.length_toDigits_le_iff hpos hk).mpr h

/-- A number that is not zero starts with a digit that is not zero. -/
theorem head?_write {base n : Nat} (hpos : 1 < base) (hn : n ≠ 0) :
    ∃ d, d ≠ 0 ∧ d < base ∧ (write base n).head? = some (Nat.digitChar d) := by
  induction n using Nat.strongRecOn with
  | ind n ih =>
    by_cases hlt : n < base
    · exact ⟨n, hn, hlt, by rw [write, Nat.toDigits_of_lt_base hlt, List.head?_cons]⟩
    · have hle : base ≤ n := Nat.le_of_not_lt hlt
      have hfewer : n / base ≠ 0 := Nat.ne_of_gt (Nat.div_pos hle (by omega))
      obtain ⟨d, hd, hbase, hhead⟩ := ih (n / base) (Nat.div_lt_self (by omega) hpos) hfewer
      refine ⟨d, hd, hbase, ?_⟩
      rw [write] at hhead ⊢
      rw [Nat.toDigits_of_base_le hpos hle, List.head?_append, hhead, Option.some_or]

/-- The digits that a number is written in have no zeros in front that they do not need. -/
theorem head?_ne_or_length_eq {base n : Nat} {ds : List Nat} (hpos : 1 < base) (hbase : base ≤ 16)
    (hds : (write base n).map (value? base) = ds.map some) :
    ds.head? ≠ some 0 ∨ ds.length = 1 := by
  by_cases hn : n = 0
  · right
    have hlength := congrArg List.length hds
    rw [hn, write, Nat.toDigits_zero] at hlength
    simpa using hlength.symm
  · left
    obtain ⟨d, hd, hlt, hhead⟩ := head?_write hpos hn
    have hfirst : (ds.map some).head? = some (some d) := by
      rw [← hds, List.head?_map, hhead, Option.map_some, value?_digitChar hbase hlt]
    cases ds with
    | nil => simp
    | cons first ds =>
      obtain rfl : first = d := by simpa using hfirst
      simpa using hd

/-- A number is written in digits. -/
theorem isDigit_of_mem_write {base n : Nat} {c : Char} (hpos : 1 < base) (hbase : base ≤ 16)
    (h : c ∈ write base n) : isDigit base c := by
  obtain ⟨ds, hds, -, -⟩ := exists_digits_write hpos hbase n
  have hvalue : value? base c ∈ (write base n).map (value? base) := List.mem_map_of_mem h
  rw [hds] at hvalue
  obtain ⟨d, -, hd⟩ := List.mem_map.mp hvalue
  rw [isDigit, ← hd, Option.isSome_some]

end RelayRoute.Digits
