import RelayRoute.Number.Digits

/-!
# Numerals with a limit

A numeral inside a larger text, such as a port behind a colon: its base, how long it may be, whether
it may start with zeros it does not need, and the bound its value has to stay below.  The reader
takes all the digits that follow one another, so a numeral that is too long is refused and never
cut.

* `NumeralFormat.read?` — the number a text starts with;
* `NumeralFormat.readSigned?` — the number a whole text stands for, with or without a plus sign;
* `NumeralFormat.read?_write` — a number that is printed is read again, if it fits the format.
-/

namespace RelayRoute

/-- What a numeral has to look like. -/
structure NumeralFormat where
  base : Nat
  /-- The largest number of digits, if there is one. -/
  longest : Option Nat
  /-- Whether zeros may stand in front of other digits. -/
  leadingZeros : Bool
  /-- The first number that is too large. -/
  bound : Nat

namespace NumeralFormat

/-- Whether digits make a numeral of this format. -/
def accepts (f : NumeralFormat) (ds : List Nat) : Bool :=
  !ds.isEmpty && (f.longest.all fun n => ds.length ≤ n) &&
    (f.leadingZeros || ds.head? != some 0 || ds.length == 1) && Digits.ofDigits f.base ds < f.bound

/-- The number a text starts with and the text after it. -/
def read? (f : NumeralFormat) (cs : List Char) : Option (Nat × List Char) :=
  let (ds, rest) := Digits.span f.base cs
  if f.accepts ds then some (Digits.ofDigits f.base ds, rest) else none

/-- The number a whole text stands for; a plus sign may stand in front. -/
def readSigned? (f : NumeralFormat) (cs : List Char) : Option Nat :=
  let digits := match cs with
    | '+' :: rest => rest
    | cs => cs
  match f.read? digits with
  | some (n, []) => some n
  | _ => none

/-- A number that is printed is read again, if it fits the format.  Neither the length nor zeros in
front are in the way. -/
theorem read?_write {f : NumeralFormat} {n : Nat} (hpos : 1 < f.base) (hbase : f.base ≤ 16)
    (hlongest : ∀ k ∈ f.longest, 0 < k ∧ n < Nat.pow f.base k) (hbound : n < f.bound)
    {rest : List Char} (hrest : ∀ c ∈ rest.head?, Digits.value? f.base c = none) :
    f.read? (Digits.write f.base n ++ rest) = some (n, rest) := by
  obtain ⟨ds, hds, hvalue, hne⟩ := Digits.exists_digits_write hpos hbase n
  have hlength : ds.length = (Digits.write f.base n).length := by
    simpa using (congrArg List.length hds).symm
  have hshort : ∀ k ∈ f.longest, ds.length ≤ k := by
    intro k hk
    obtain ⟨hkpos, hn⟩ := hlongest k hk
    rw [hlength]
    exact Digits.length_write_le hpos hkpos hn
  have hfits : (f.longest.all fun k => ds.length ≤ k) = true := by
    simpa [Option.all_eq_true] using hshort
  have hzeros : (ds.head? != some 0 || ds.length == 1) = true := by
    rcases Digits.head?_ne_or_length_eq hpos hbase hds with hzeros | hzeros <;> simp [hzeros]
  have haccepts : f.accepts ds = true := by
    unfold accepts
    rw [Bool.or_assoc, hzeros]
    simp [hne, hfits, hvalue, hbound]
  rw [read?, Digits.span_append hds hrest]
  simp [haccepts, hvalue]

end NumeralFormat

end RelayRoute
