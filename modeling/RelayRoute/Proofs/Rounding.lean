import Mathlib.Algebra.Order.Field.Power
import Mathlib.Algebra.Order.Field.Rat
import Mathlib.Tactic.Linarith
import Mathlib.Tactic.NormNum
import Mathlib.Tactic.Positivity
import Mathlib.Tactic.Ring
import RelayRoute.Number.Binary64

/-!
# Natural numbers as floating-point values

A natural number that is read as a floating-point value is rounded to fifty-three binary digits
(`roundWhole`).  Below `2 ^ 64` the result is the nearest of all values of the format, and the one
with the even mantissa of two that are equally near.  Up to `2 ^ 53` it is the number itself.

* `divideEven_spec` — rounding a quotient is off by half a unit at most;
* `IsValue`, `IsEvenValue`, `IsNearest` — the values of the format, and which of them is nearest to
  a number;
* `IsNearest.unique` — there is no other, since something lies between two even ones
  (`IsEvenValue.exists_between`);
* `isNearest_roundWhole` — a natural number is rounded to the nearest value, among those with as
  many digits and those with fewer (`IsValue.multiple_or_lt`);
* `ofDecimal_whole` — it is read as what it is rounded to, with however many digits it is written.
-/

namespace RelayRoute.Binary64

/-! ## Rounding quotients -/

/-- A rounded quotient is off by half a unit at most, and even if it is off by that: what is left is
compared with the other half, and where half a unit is left the even neighbour is taken. -/
theorem divideEven_spec (num : ℕ) {den : ℕ} (hden : 0 < den) :
    ∃ error : ℤ, (num : ℤ) = divideEven num den * den + error ∧ 2 * |error| ≤ den ∧
      (2 * |error| = den → Even (divideEven num den)) := by
  obtain ⟨quotient, hquotient⟩ : ∃ quotient, quotient = num / den := ⟨_, rfl⟩
  obtain ⟨rest, hrest⟩ : ∃ rest, rest = num % den := ⟨_, rfl⟩
  have hlt : rest < den := hrest ▸ Nat.mod_lt num hden
  have hparts : (num : ℤ) = quotient * den + rest := by
    rw [hquotient, hrest]
    exact_mod_cast (Nat.div_add_mod' num den).symm
  have hnonneg : |(rest : ℤ)| = rest := abs_of_nonneg (by positivity)
  have hmissing : |(rest : ℤ) - den| = den - rest := by
    rw [abs_sub_comm]
    exact abs_of_nonneg (by omega)
  unfold divideEven
  dsimp only
  rw [← hquotient, ← hrest]
  split
  · next hbelow => exact ⟨rest, hparts, by omega, by omega⟩
  · split
    · next habove =>
        refine ⟨rest - den, ?_, by omega, by omega⟩
        rw [hparts]
        push_cast
        ring
    · rcases Nat.even_or_odd quotient with heven | hodd
      · have hsame : quotient + quotient % 2 = quotient := by rw [Nat.even_iff.mp heven, add_zero]
        rw [hsame]
        exact ⟨rest, hparts, by omega, fun _ => heven⟩
      · have hnext : quotient + quotient % 2 = quotient + 1 := by rw [Nat.odd_iff.mp hodd]
        rw [hnext]
        refine ⟨rest - den, ?_, by omega, fun _ => hodd.add_one⟩
        rw [hparts]
        push_cast
        ring

/-! ## The values of the format -/

/-- Whether a number is a finite value of the format. -/
def IsValue (x : ℚ) : Prop :=
  ∃ mantissa exponent : ℤ, |mantissa| < 2 ^ 53 ∧ -1074 ≤ exponent ∧ exponent ≤ 971 ∧
    x = mantissa * 2 ^ exponent

/-- Whether a number is a value of the format with an even mantissa. -/
def IsEvenValue (x : ℚ) : Prop :=
  ∃ mantissa exponent : ℤ, Even mantissa ∧ 2 ^ 52 ≤ |mantissa| ∧ |mantissa| < 2 ^ 53 ∧
    -1074 ≤ exponent ∧ exponent ≤ 971 ∧ x = mantissa * 2 ^ exponent

/-- The value of the format nearest to a number; of two that are equally near, the even one. -/
structure IsNearest (x y : ℚ) : Prop where
  value : IsValue y
  nearest : ∀ z, IsValue z → |x - y| ≤ |x - z|
  even : ∀ z, IsValue z → z ≠ y → |x - z| = |x - y| → IsEvenValue y

/-- Between two values with even mantissas there is another value.  In units of the smaller exponent
both are even, so that something is left between them. -/
theorem IsEvenValue.exists_between {y z : ℚ} (hy : IsEvenValue y) (hz : IsEvenValue z)
    (hlt : y < z) : ∃ w, IsValue w ∧ y < w ∧ w < z := by
  obtain ⟨m, e, hm, -, hmlt, he, he', rfl⟩ := hy
  obtain ⟨n, f, hn, -, hnlt, hf, hf', rfl⟩ := hz
  rcases le_total e f with hle | hle
  · obtain ⟨k, rfl⟩ : ∃ k : ℕ, f = e + k := ⟨(f - e).toNat, by omega⟩
    have hunit : (0 : ℚ) < 2 ^ e := by positivity
    have hsame : (n : ℚ) * 2 ^ (e + k) = (n * 2 ^ k : ℤ) * 2 ^ e := by
      rw [zpow_add₀ two_ne_zero, zpow_natCast]
      push_cast
      ring
    rw [hsame] at hlt ⊢
    have hless : m < n * 2 ^ k := by exact_mod_cast lt_of_mul_lt_mul_right hlt hunit.le
    obtain ⟨a, ha⟩ := hm
    obtain ⟨b, hb⟩ := hn.mul_right (2 ^ k)
    have hnext : m + 1 < n * 2 ^ k := by omega
    refine ⟨(m + 1 : ℤ) * 2 ^ e, ⟨m + 1, e, ?_, he, he', rfl⟩, ?_, ?_⟩
    · rw [abs_lt] at hmlt ⊢
      omega
    · exact mul_lt_mul_of_pos_right (by exact_mod_cast lt_add_one m) hunit
    · exact mul_lt_mul_of_pos_right (by exact_mod_cast hnext) hunit
  · obtain ⟨k, rfl⟩ : ∃ k : ℕ, e = f + k := ⟨(e - f).toNat, by omega⟩
    have hunit : (0 : ℚ) < 2 ^ f := by positivity
    have hsame : (m : ℚ) * 2 ^ (f + k) = (m * 2 ^ k : ℤ) * 2 ^ f := by
      rw [zpow_add₀ two_ne_zero, zpow_natCast]
      push_cast
      ring
    rw [hsame] at hlt ⊢
    have hless : m * 2 ^ k < n := by exact_mod_cast lt_of_mul_lt_mul_right hlt hunit.le
    obtain ⟨a, ha⟩ := hm.mul_right (2 ^ k)
    obtain ⟨b, hb⟩ := hn
    have hprevious : m * 2 ^ k < n - 1 := by omega
    refine ⟨(n - 1 : ℤ) * 2 ^ f, ⟨n - 1, f, ?_, hf, hf', rfl⟩, ?_, ?_⟩
    · rw [abs_lt] at hnlt ⊢
      omega
    · exact mul_lt_mul_of_pos_right (by exact_mod_cast hprevious) hunit
    · exact mul_lt_mul_of_pos_right (by exact_mod_cast sub_one_lt n) hunit

/-- No value below a nearest one is nearest too: one of the two would not be even, or something
would lie between them. -/
theorem IsNearest.le {x y z : ℚ} (hy : IsNearest x y) (hz : IsNearest x z) : z ≤ y := by
  by_contra hless
  have hlt : y < z := not_le.mp hless
  have htie : |x - y| = |x - z| := le_antisymm (hy.nearest z hz.value) (hz.nearest y hy.value)
  have hyEven := hy.even z hz.value hlt.ne' htie.symm
  have hzEven := hz.even y hy.value hlt.ne htie
  obtain ⟨w, hw, hyw, hwz⟩ := hyEven.exists_between hzEven hlt
  have hmiddle : x - y = z - x := by
    rcases abs_eq_abs.mp htie with hsame | hopposite
    · exact absurd (sub_right_injective hsame) hlt.ne
    · linarith
  have hnear : |x - w| < |x - y| := by
    rw [abs_of_nonneg (by linarith : 0 ≤ x - y)]
    exact abs_lt.mpr ⟨by linarith, by linarith⟩
  exact absurd (hy.nearest w hw) (not_le.mpr hnear)

/-- There is one nearest value at most. -/
theorem IsNearest.unique {x y z : ℚ} (hy : IsNearest x y) (hz : IsNearest x z) : y = z :=
  le_antisymm (hz.le hy) (hy.le hz)

/-- The number that a finite value is. -/
def value? : Binary64 → Option ℚ
  | .finite negative mantissa exponent =>
    some ((if negative then -1 else 1) * mantissa * 2 ^ exponent)
  | .infinite _ | .undefined => none

/-- A value that is a number is finite. -/
theorem isFinite_of_value? {x : Binary64} {q : ℚ} (h : x.value? = some q) : x.isFinite := by
  cases x with
  | finite => rfl
  | infinite | undefined => simp [value?] at h

/-! ## Natural numbers -/

/-- A natural number rounded to fifty-three binary digits. -/
def roundWhole (n : ℕ) : ℕ :=
  divideEven n (2 ^ (n.log2 - 52)) * 2 ^ (n.log2 - 52)

/-- A number with at most fifty-three binary digits is kept. -/
theorem roundWhole_of_le {n : ℕ} (h : n ≤ 2 ^ 53) : roundWhole n = n := by
  rcases Nat.lt_or_eq_of_le h with hlt | rfl
  · have hlog : n.log2 - 52 = 0 := by
      rcases Nat.eq_zero_or_pos n with rfl | hpos
      · simp
      · have := (Nat.log2_lt hpos.ne').mpr hlt
        omega
    simp [roundWhole, hlog, divideEven, Nat.mod_one]
  · decide +kernel

/-- Of the multiples of a unit the one that is off by half of it at most is the nearest; another one
is equally near only if it is off by half. -/
theorem abs_error_le {n unit quotient error : ℤ} (hn : n = quotient * unit + error)
    (herror : 2 * |error| ≤ unit) (other : ℤ) :
    |error| ≤ |n - other * unit| ∧
      (other ≠ quotient → |n - other * unit| = |error| → 2 * |error| = unit) := by
  by_cases hsame : other = quotient
  · have heq : n - other * unit = error := by rw [hn, hsame]; ring
    rw [heq]
    exact ⟨le_rfl, fun hne => absurd hsame hne⟩
  · have hunit : 0 ≤ unit := by linarith [abs_nonneg error]
    have heq : n - other * unit = error - (other - quotient) * unit := by rw [hn]; ring
    have hfar : unit ≤ |(other - quotient) * unit| := by
      rw [abs_mul, abs_of_nonneg hunit]
      exact le_mul_of_one_le_left hunit (Int.one_le_abs (sub_ne_zero.mpr hsame))
    have htriangle := abs_sub_abs_le_abs_sub ((other - quotient) * unit) error
    rw [abs_sub_comm, ← heq] at htriangle
    exact ⟨by linarith, fun _ htie => by linarith⟩

/-- A number with at least fifty-three binary digits, in units of the last of them. -/
theorem unit_bounds {n : ℕ} (h : 2 ^ 52 ≤ n) :
    2 ^ 52 * 2 ^ (n.log2 - 52) ≤ n ∧ n < 2 ^ 53 * 2 ^ (n.log2 - 52) := by
  have hne : n ≠ 0 := by
    rintro rfl
    exact absurd h (by decide)
  have hlog : 52 ≤ n.log2 := (Nat.le_log2 hne).mpr h
  rw [← pow_add, ← pow_add]
  constructor
  · rw [Nat.add_sub_cancel' hlog]
    exact Nat.log2_self_le hne
  · have hsucc : 53 + (n.log2 - 52) = n.log2 + 1 := by omega
    rw [hsucc]
    exact Nat.lt_log2_self

/-- Such a number is rounded to fifty-three digits, or to the first number with one digit more. -/
theorem quotient_bounds {n : ℕ} (h : 2 ^ 52 ≤ n) :
    2 ^ 52 ≤ divideEven n (2 ^ (n.log2 - 52)) ∧ divideEven n (2 ^ (n.log2 - 52)) ≤ 2 ^ 53 := by
  obtain ⟨hlow, hhigh⟩ := unit_bounds h
  obtain ⟨error, hn, herror, -⟩ := divideEven_spec n (Nat.two_pow_pos (n.log2 - 52))
  generalize divideEven n (2 ^ (n.log2 - 52)) = quotient at hn ⊢
  have hunit : (0 : ℤ) < (2 ^ (n.log2 - 52) : ℕ) := by positivity
  generalize (2 ^ (n.log2 - 52) : ℕ) = unit at *
  have hlow : (2 : ℤ) ^ 52 * unit ≤ n := by exact_mod_cast hlow
  have hhigh : (n : ℤ) < 2 ^ 53 * unit := by exact_mod_cast hhigh
  have hbounds := abs_le.mp (show |error| ≤ |error| from le_rfl)
  constructor
  · by_contra hless
    have hquotient : (quotient : ℤ) + 1 ≤ 2 ^ 52 := by
      have := not_le.mp hless
      exact_mod_cast this
    nlinarith [mul_le_mul_of_nonneg_right hquotient hunit.le]
  · by_contra hmore
    have hquotient : (2 : ℤ) ^ 53 + 1 ≤ quotient := by
      have := not_le.mp hmore
      exact_mod_cast this
    nlinarith [mul_le_mul_of_nonneg_right hquotient hunit.le]

/-- A value of the format is a multiple of a power of two, or has fewer digits before that power. -/
theorem IsValue.multiple_or_lt {x : ℚ} (h : IsValue x) (s : ℕ) :
    (∃ k : ℤ, x = k * 2 ^ s) ∨ x < 2 ^ 52 * 2 ^ s := by
  obtain ⟨mantissa, exponent, hmantissa, -, -, rfl⟩ := h
  rcases le_or_gt (s : ℤ) exponent with hle | hlt
  · obtain ⟨k, rfl⟩ := Int.le.dest hle
    refine .inl ⟨mantissa * 2 ^ k, ?_⟩
    push_cast
    rw [zpow_add₀ two_ne_zero, zpow_natCast, zpow_natCast]
    ring
  · right
    have hpower : (2 : ℚ) ^ exponent ≤ 2 ^ ((s : ℤ) - 1) :=
      zpow_le_zpow_right₀ one_le_two (by omega)
    have hhalf : (2 : ℚ) ^ 53 * 2 ^ ((s : ℤ) - 1) = 2 ^ 52 * 2 ^ s := by
      rw [zpow_sub_one₀ two_ne_zero, zpow_natCast]
      ring
    have hbound : (mantissa : ℚ) < 2 ^ 53 := by
      have := lt_of_le_of_lt (le_abs_self mantissa) hmantissa
      exact_mod_cast this
    have hpos : (0 : ℚ) < 2 ^ exponent := by positivity
    calc (mantissa : ℚ) * 2 ^ exponent < 2 ^ 53 * 2 ^ exponent := by gcongr
      _ ≤ 2 ^ 53 * 2 ^ ((s : ℤ) - 1) := by gcongr
      _ = 2 ^ 52 * 2 ^ s := hhalf

/-- A number of fifty-three digits in front of a power of two is a value of the format, and so is
the first one with a digit more; if it is even the mantissa is. -/
theorem isValue_of_bounds {quotient s : ℕ} (hlow : 2 ^ 52 ≤ quotient) (hhigh : quotient ≤ 2 ^ 53)
    (hs : s ≤ 970) :
    IsValue (quotient * 2 ^ s) ∧ (Even quotient → IsEvenValue (quotient * 2 ^ s)) := by
  have hmantissa {m : ℕ} (h : m < 2 ^ 53) : |(m : ℤ)| < 2 ^ 53 := by
    rw [abs_of_nonneg (by positivity)]
    exact_mod_cast h
  rcases Nat.lt_or_eq_of_le hhigh with hlt | rfl
  · have hvalue : ((quotient : ℚ)) * 2 ^ s = ((quotient : ℤ) : ℚ) * 2 ^ (s : ℤ) := by
      rw [zpow_natCast]
      push_cast
      rfl
    refine ⟨⟨quotient, s, hmantissa hlt, by omega, by omega, hvalue⟩, fun heven => ?_⟩
    refine ⟨quotient, s, by exact_mod_cast heven, ?_, hmantissa hlt, by omega, by omega, hvalue⟩
    rw [abs_of_nonneg (by positivity)]
    exact_mod_cast hlow
  · have hvalue : ((2 ^ 53 : ℕ) : ℚ) * 2 ^ s = ((2 ^ 52 : ℤ) : ℚ) * 2 ^ ((s : ℤ) + 1) := by
      rw [zpow_add_one₀ two_ne_zero, zpow_natCast]
      push_cast
      ring
    refine ⟨⟨2 ^ 52, s + 1, by decide, by omega, by omega, hvalue⟩, fun _ => ?_⟩
    exact ⟨2 ^ 52, s + 1, by decide, by decide, by decide, by omega, by omega, hvalue⟩

/-- **A natural number is rounded to the nearest value of the format**, and to the even one of two
that are equally near.  Values with as many digits are multiples of one unit; a value with fewer
digits is farther off than the least number with as many digits. -/
theorem isNearest_roundWhole {n : ℕ} (h : n < 2 ^ 64) : IsNearest n (roundWhole n) := by
  rcases lt_or_ge n (2 ^ 52) with hsmall | hlarge
  · rw [roundWhole_of_le (by omega)]
    refine ⟨⟨n, 0, ?_, by decide, by decide, by simp⟩, fun z _ => ?_, fun z _ hne htie => ?_⟩
    · rw [abs_of_nonneg (by positivity)]
      omega
    · rw [sub_self, abs_zero]
      exact abs_nonneg _
    · rw [sub_self, abs_zero, abs_eq_zero, sub_eq_zero] at htie
      exact absurd htie.symm hne
  · have hs : n.log2 - 52 ≤ 970 := by
      have := (Nat.log2_lt (by omega : n ≠ 0)).mpr h
      omega
    obtain ⟨hlow, hhigh⟩ := quotient_bounds hlarge
    obtain ⟨hunit, -⟩ := unit_bounds hlarge
    obtain ⟨error, hn, herror, heven⟩ := divideEven_spec n (Nat.two_pow_pos (n.log2 - 52))
    have hround : (roundWhole n : ℚ) =
        (divideEven n (2 ^ (n.log2 - 52)) : ℕ) * 2 ^ (n.log2 - 52) := by
      rw [roundWhole]
      push_cast
      rfl
    rw [hround]
    generalize divideEven n (2 ^ (n.log2 - 52)) = quotient at *
    generalize n.log2 - 52 = s at *
    obtain ⟨hvalue, hevenValue⟩ := isValue_of_bounds hlow hhigh hs
    push_cast at hn herror heven
    have hoff : |(n : ℚ) - quotient * 2 ^ s| = ((|error| : ℤ) : ℚ) := by
      have hcast : (n : ℚ) = quotient * 2 ^ s + error := by exact_mod_cast hn
      rw [hcast, add_sub_cancel_left, Int.cast_abs]
    have hmultiple (k : ℤ) : |(n : ℚ) - k * 2 ^ s| = ((|(n : ℤ) - k * 2 ^ s| : ℤ) : ℚ) := by
      push_cast
      rfl
    have hless {z : ℚ} (hz : z < 2 ^ 52 * 2 ^ s) : ((|error| : ℤ) : ℚ) < |(n : ℚ) - z| := by
      have hunit : (2 : ℤ) ^ 52 * 2 ^ s ≤ n := by exact_mod_cast hunit
      have hleast : |error| ≤ (n : ℤ) - 2 ^ 52 * 2 ^ s := by
        rw [← abs_of_nonneg (sub_nonneg.mpr hunit)]
        exact (abs_error_le hn herror (2 ^ 52)).1
      calc ((|error| : ℤ) : ℚ) ≤ (n : ℚ) - 2 ^ 52 * 2 ^ s := by exact_mod_cast hleast
        _ < n - z := by linarith
        _ ≤ |(n : ℚ) - z| := le_abs_self _
    refine ⟨hvalue, fun z hz => ?_, fun z hz hne htie => ?_⟩
    · rw [hoff]
      rcases hz.multiple_or_lt s with ⟨k, rfl⟩ | hz
      · rw [hmultiple]
        exact_mod_cast (abs_error_le hn herror k).1
      · exact (hless hz).le
    · rw [hoff] at htie
      rcases hz.multiple_or_lt s with ⟨k, rfl⟩ | hz
      · rw [hmultiple] at htie
        have hk : k ≠ quotient := by
          rintro rfl
          exact hne (by push_cast; rfl)
        exact hevenValue (heven ((abs_error_le hn herror k).2 hk (by exact_mod_cast htie)))
      · exact absurd htie (hless hz).ne'

/-! ## Reading natural numbers -/

/-- The last of the fifty-three digits of a natural number. -/
theorem exponentFor_whole {n : ℕ} (h : n ≠ 0) : exponentFor n 1 = (n.log2 : ℤ) - 52 := by
  have hlow : 2 ^ n.log2 ≤ n := Nat.log2_self_le h
  have hone : Nat.log2 1 = 0 := by decide
  have hlarge : ¬ (if 0 ≤ (n.log2 : ℤ) - (0 : ℕ) - 53 then
      n < 1 * power 2 ((n.log2 : ℤ) - (0 : ℕ) - 53 + 53)
    else n * power 2 (-((n.log2 : ℤ) - (0 : ℕ) - 53)) < 1 * power 2 53) := by
    split
    · have hpower : power 2 ((n.log2 : ℤ) - (0 : ℕ) - 53 + 53) = 2 ^ n.log2 := by
        simp [power]
      rw [hpower]
      omega
    · next hneg =>
        obtain ⟨k, hk⟩ : ∃ k : ℕ, n.log2 + k = 53 := ⟨53 - n.log2, by omega⟩
        have hpower : power 2 (-((n.log2 : ℤ) - (0 : ℕ) - 53)) = 2 ^ k := by
          have hk : (-((n.log2 : ℤ) - (0 : ℕ) - 53)).toNat = k := by omega
          rw [power, hk]
          rfl
        have hwhole : power 2 53 = 2 ^ n.log2 * 2 ^ k := by
          rw [← pow_add, hk]
          rfl
        rw [hpower, hwhole, one_mul, not_lt]
        exact Nat.mul_le_mul_right _ hlow
  unfold exponentFor
  rw [hone]
  dsimp only
  rw [if_neg hlarge]
  omega

/-- A natural number with at least fifty-three digits is rounded in units of the last of them. -/
theorem nearest_of_large {n : ℕ} (hlarge : 2 ^ 52 ≤ n) (h : n < 2 ^ 64) :
    nearest false n 1 =
      if divideEven n (2 ^ (n.log2 - 52)) = 2 ^ 53 then
        .finite false (2 ^ 52) ((n.log2 - 52 : ℕ) + 1)
      else .finite false (divideEven n (2 ^ (n.log2 - 52))) (n.log2 - 52 : ℕ) := by
  have hne : n ≠ 0 := by
    rintro rfl
    exact absurd hlarge (by decide)
  have hlow : 52 ≤ n.log2 := (Nat.le_log2 hne).mpr hlarge
  have hhigh : n.log2 < 64 := (Nat.log2_lt hne).mpr h
  obtain ⟨s, hs⟩ : ∃ s, n.log2 = 52 + s := ⟨n.log2 - 52, by omega⟩
  have hexponent : exponentFor n 1 = (s : ℤ) := by
    rw [exponentFor_whole hne, hs]
    omega
  have hround : roundAt n 1 (s : ℤ) = divideEven n (2 ^ s) := by
    simp [roundAt, power]
  have hsub : n.log2 - 52 = s := by omega
  have hpower : power 2 53 = 2 ^ 53 ∧ power 2 52 = 2 ^ 52 := ⟨rfl, rfl⟩
  rw [nearest, if_neg hne, hexponent, hsub]
  dsimp only
  rw [hround, hpower.1, hpower.2]
  split
  · exact if_neg (by omega)
  · exact if_neg (by omega)

/-- A natural number with fewer digits is kept. -/
theorem nearest_of_small {n : ℕ} (hne : n ≠ 0) (h : n < 2 ^ 52) :
    ∃ k : ℕ, 0 < k ∧ nearest false n 1 = .finite false (n * 2 ^ k) (-(k : ℤ)) := by
  have hlog : n.log2 < 52 := (Nat.log2_lt hne).mpr h
  obtain ⟨k, hk⟩ : ∃ k : ℕ, n.log2 + k = 52 := ⟨52 - n.log2, by omega⟩
  have hpos : 0 < k := by omega
  have hexponent : exponentFor n 1 = -(k : ℤ) := by
    rw [exponentFor_whole hne]
    omega
  have hround : roundAt n 1 (-(k : ℤ)) = n * 2 ^ k := by
    have hneg : ¬ (0 : ℤ) ≤ -(k : ℤ) := by omega
    rw [roundAt, if_neg hneg]
    simp [power, divideEven, Nat.mod_one]
  have hless : n * 2 ^ k < 2 ^ 53 := by
    have hhigh : n < 2 ^ (n.log2 + 1) := Nat.lt_log2_self
    calc n * 2 ^ k < 2 ^ (n.log2 + 1) * 2 ^ k := by gcongr
      _ = 2 ^ 53 := by rw [← pow_add]; congr 1; omega
  refine ⟨k, hpos, ?_⟩
  have hpower : power 2 53 = 2 ^ 53 := rfl
  rw [nearest, if_neg hne, hexponent]
  dsimp only
  rw [hround, hpower, if_neg hless.ne]
  exact if_neg (by omega)

/-- A number without a fraction and an exponent is rounded as a quotient by one. -/
theorem ofDecimal_zero_exponent (negative : Bool) {n : ℕ} (hn : n ≠ 0) (size : ℕ) :
    ofDecimal negative n size 0 = nearest negative n 1 := by
  have hsize : ¬ (0 : ℤ) + size < -400 := by omega
  have hpower : power 10 0 = 1 := rfl
  rw [ofDecimal, if_neg hn, if_neg (by decide), if_neg hsize, if_pos (by decide), hpower,
    mul_one]

/-- **A natural number is read as what it is rounded to**, with however many digits it is written.
Where rounding adds a digit, the value is the same number with a mantissa that is half as large. -/
theorem ofDecimal_whole {n : ℕ} (h : n < 2 ^ 64) (size : ℕ) :
    (ofDecimal false n size 0).value? = some (roundWhole n : ℚ) ∧
      ∀ bound, (ofDecimal false n size 0).truncate bound = min (bound - 1) (roundWhole n) := by
  by_cases hzero : n = 0
  · subst hzero
    have hround : roundWhole 0 = 0 := roundWhole_of_le (by decide)
    simp [ofDecimal, value?, truncate, hround]
  rw [ofDecimal_zero_exponent false hzero]
  rcases lt_or_ge n (2 ^ 52) with hsmall | hlarge
  · obtain ⟨k, hpos, hnearest⟩ := nearest_of_small hzero hsmall
    have hneg : ¬ (0 : ℤ) ≤ -(k : ℤ) := by omega
    have hpower : power 2 (-(-(k : ℤ))) = 2 ^ k := by
      rw [neg_neg]
      rfl
    rw [hnearest, roundWhole_of_le (by omega)]
    refine ⟨?_, fun bound => ?_⟩
    · rw [value?, zpow_neg, zpow_natCast]
      simp
    · rw [truncate, if_neg hneg, hpower, Nat.mul_div_cancel _ (Nat.two_pow_pos k)]
  · rw [nearest_of_large hlarge h]
    have hround : roundWhole n = divideEven n (2 ^ (n.log2 - 52)) * 2 ^ (n.log2 - 52) := rfl
    rw [hround]
    generalize divideEven n (2 ^ (n.log2 - 52)) = quotient
    generalize n.log2 - 52 = s
    split
    · next hcarry =>
        have hpower : power 2 ((s : ℤ) + 1) = 2 ^ s * 2 := by
          rw [← pow_succ]
          rfl
        have hsame : 2 ^ 52 * (2 ^ s * 2) = quotient * 2 ^ s := by
          rw [hcarry]
          ring
        refine ⟨?_, fun bound => ?_⟩
        · rw [value?, ← hsame, zpow_add_one₀ two_ne_zero, zpow_natCast]
          push_cast
          simp
        · rw [truncate, if_pos (by omega), hpower, hsame]
    · have hpower : power 2 (s : ℤ) = 2 ^ s := rfl
      refine ⟨?_, fun bound => ?_⟩
      · rw [value?, zpow_natCast]
        push_cast
        simp
      · rw [truncate, if_pos (by omega), hpower]

end RelayRoute.Binary64
