import Mathlib.Data.Int.Log
import Mathlib.Data.Nat.Digits.Defs
import Mathlib.Data.Rat.Floor
import RelayRoute.Config.Reader
import RelayRoute.Proofs.Rounding

/-!
# Numbers in all the ways they are written

`Number.value?` is the number that is written with a sign, digits, a point and an exponent, or in
base sixteen.  A configuration reads it as a floating-point value.  A whole number with at most
fifty-three binary digits is not changed by that, in whatever way it is written.

* `Binary64.exponentFor_eq`, `Binary64.nearest_mul_right` — a quotient is rounded as a number and
  not as the pair of its parts;
* `Binary64.ofDecimal_eq_nearest` — so zeros may be moved between the digits and the exponent;
* `Binary64.truncate_ofDecimal` — a whole number is read exactly in whatever way it is written in
  base ten;
* `Json5.Number.value?`, `Json5.Number.Writes` — the number that is written, and the ways of writing
  a natural number;
* `Config.readFloat_of_writes` — the main result.
-/

namespace RelayRoute.Binary64

/-! ## Equal quotients -/

/-- A power whose exponent is not below zero is a power. -/
theorem cast_power (base : ℕ) {exponent : ℤ} (h : 0 ≤ exponent) :
    (power base exponent : ℚ) = (base : ℚ) ^ exponent := by
  obtain ⟨k, rfl⟩ := Int.eq_ofNat_of_zero_le h
  exact (Nat.cast_pow base k).trans (zpow_natCast (base : ℚ) k).symm

/-- A quotient is rounded as before when both of its parts are multiplied. -/
theorem divideEven_mul_right (num den : ℕ) {factor : ℕ} (hfactor : 0 < factor) :
    divideEven (num * factor) (den * factor) = divideEven num den := by
  have hbelow : 2 * (num % den) * factor < den * factor ↔ 2 * (num % den) < den :=
    Nat.mul_lt_mul_right hfactor
  have habove : den * factor < 2 * (num % den) * factor ↔ den < 2 * (num % den) :=
    Nat.mul_lt_mul_right hfactor
  unfold divideEven
  dsimp only
  rw [Nat.mul_div_mul_right num den hfactor, Nat.mul_mod_mul_right, ← mul_assoc]
  simp only [hbelow, habove]

/-- The logarithms of its parts leave two logarithms for a quotient. -/
theorem log_quotient_bounds {num den : ℕ} (hnum : num ≠ 0) (hden : den ≠ 0) :
    (num.log2 : ℤ) - den.log2 - 1 ≤ Int.log 2 (num / den : ℚ) ∧
      Int.log 2 (num / den : ℚ) < (num.log2 : ℤ) - den.log2 + 1 := by
  have hdenPos : (0 : ℚ) < den := by exact_mod_cast Nat.pos_of_ne_zero hden
  have hquotient : (0 : ℚ) < num / den :=
    div_pos (by exact_mod_cast Nat.pos_of_ne_zero hnum) hdenPos
  constructor
  · rw [← Int.zpow_le_iff_le_log one_lt_two hquotient, Nat.cast_ofNat, le_div_iff₀ hdenPos]
    have hhigh : (den : ℚ) ≤ 2 ^ ((den.log2 : ℤ) + 1) := by
      have hlt : den < 2 ^ (den.log2 + 1) := Nat.lt_log2_self
      exact_mod_cast hlt.le
    calc (2 : ℚ) ^ ((num.log2 : ℤ) - den.log2 - 1) * den
        ≤ 2 ^ ((num.log2 : ℤ) - den.log2 - 1) * 2 ^ ((den.log2 : ℤ) + 1) := by gcongr
      _ = 2 ^ num.log2 := by
        rw [← zpow_add₀ two_ne_zero, ← zpow_natCast]
        congr 1
        omega
      _ ≤ num := by exact_mod_cast Nat.log2_self_le hnum
  · rw [← Int.lt_zpow_iff_log_lt one_lt_two hquotient, Nat.cast_ofNat, div_lt_iff₀ hdenPos]
    have hlow : (2 : ℚ) ^ (den.log2 : ℤ) ≤ den := by
      rw [zpow_natCast]
      exact_mod_cast Nat.log2_self_le hden
    calc (num : ℚ) < 2 ^ (num.log2 + 1) := by exact_mod_cast Nat.lt_log2_self
      _ = 2 ^ ((num.log2 : ℤ) - den.log2 + 1) * 2 ^ (den.log2 : ℤ) := by
        rw [← zpow_add₀ two_ne_zero, ← zpow_natCast]
        congr 1
        push_cast
        omega
      _ ≤ 2 ^ ((num.log2 : ℤ) - den.log2 + 1) * den := by gcongr

/-- A quotient is compared with a power of two by multiplying the one of its parts that keeps the
comparison among natural numbers. -/
theorem quotient_lt_iff (num : ℕ) {den : ℕ} (hden : den ≠ 0) (exponent : ℤ) :
    (if 0 ≤ exponent then num < den * power 2 (exponent + 53)
      else num * power 2 (-exponent) < den * power 2 53) ↔
      (num / den : ℚ) < 2 ^ (exponent + 53) := by
  have hdenPos : (0 : ℚ) < den := by exact_mod_cast Nat.pos_of_ne_zero hden
  rw [div_lt_iff₀ hdenPos, mul_comm _ (den : ℚ)]
  split
  · next hle =>
      have hpower := cast_power 2 (show 0 ≤ exponent + 53 by omega)
      rw [Nat.cast_ofNat] at hpower
      rw [← hpower]
      exact_mod_cast Iff.rfl
  · next hlt =>
      have hpower := cast_power 2 (show 0 ≤ -exponent by omega)
      have hwhole := cast_power 2 (show (0 : ℤ) ≤ 53 by decide)
      rw [Nat.cast_ofNat] at hpower hwhole
      have hpos : (0 : ℚ) < 2 ^ (-exponent) := by positivity
      have hsplit : (2 : ℚ) ^ (53 : ℤ) = 2 ^ (exponent + 53) * 2 ^ (-exponent) := by
        rw [← zpow_add₀ two_ne_zero]
        congr 1
        omega
      calc num * power 2 (-exponent) < den * power 2 53
          ↔ (num * power 2 (-exponent) : ℚ) < den * power 2 53 := by exact_mod_cast Iff.rfl
        _ ↔ (num : ℚ) < den * 2 ^ (exponent + 53) := by
          rw [hpower, hwhole, hsplit, ← mul_assoc, mul_lt_mul_iff_left₀ hpos]

/-- The exponent at which a quotient is rounded depends on nothing but the quotient.  The logarithms
of its parts give a guess, which is the exponent or one less, and a comparison tells which. -/
theorem exponentFor_eq {num den : ℕ} (hnum : num ≠ 0) (hden : den ≠ 0) :
    exponentFor num den = max (-1074) (Int.log 2 (num / den : ℚ) - 52) := by
  have hquotient : (0 : ℚ) < num / den :=
    div_pos (by exact_mod_cast Nat.pos_of_ne_zero hnum)
      (by exact_mod_cast Nat.pos_of_ne_zero hden)
  obtain ⟨hlow, hhigh⟩ := log_quotient_bounds hnum hden
  have hsmall := (quotient_lt_iff num hden ((num.log2 : ℤ) - den.log2 - 53)).trans
    (Int.lt_zpow_iff_log_lt one_lt_two hquotient)
  unfold exponentFor
  dsimp only
  simp only [hsmall]
  congr 1
  split <;> omega

/-- **A quotient is rounded as any other one that equals it.** -/
theorem nearest_mul_right (negative : Bool) (num : ℕ) {den factor : ℕ} (hden : den ≠ 0)
    (hfactor : 0 < factor) :
    nearest negative (num * factor) (den * factor) = nearest negative num den := by
  by_cases hnum : num = 0
  · simp [nearest, hnum]
  have hquotient : ((num * factor : ℕ) / (den * factor : ℕ) : ℚ) = num / den := by
    have hne : (factor : ℚ) ≠ 0 := by exact_mod_cast hfactor.ne'
    push_cast
    exact mul_div_mul_right _ _ hne
  have hexponent : exponentFor (num * factor) (den * factor) = exponentFor num den := by
    rw [exponentFor_eq (mul_ne_zero hnum hfactor.ne') (mul_ne_zero hden hfactor.ne'), hquotient,
      exponentFor_eq hnum hden]
  have hround (exponent : ℤ) :
      roundAt (num * factor) (den * factor) exponent = roundAt num den exponent := by
    unfold roundAt
    rw [mul_right_comm den, mul_right_comm num, divideEven_mul_right _ _ hfactor,
      divideEven_mul_right _ _ hfactor]
  unfold nearest
  simp only [hexponent, hround, if_neg hnum, if_neg (mul_ne_zero hnum hfactor.ne')]

/-! ## Decimal numbers that are whole -/

/-- Zeros may be moved between a whole number and its exponent before it is rounded.  With too many
zeros behind its digits the number would be larger than it is; and zeros that are cut off are among
the digits, so that the number is not far too small. -/
theorem ofDecimal_eq_nearest {digits size n : ℕ} {exponent : ℤ} (hdigits : digits < 10 ^ size)
    (hpos : 0 < n) (hn : n ≤ 2 ^ 53) (hvalue : (digits : ℚ) * 10 ^ exponent = n) :
    ofDecimal false digits size exponent = nearest false n 1 := by
  have hzero : digits ≠ 0 := by
    rintro rfl
    rw [Nat.cast_zero, zero_mul] at hvalue
    exact hpos.ne (by exact_mod_cast hvalue)
  rcases le_or_gt 0 exponent with hle | hlt
  · obtain ⟨k, rfl⟩ := Int.eq_ofNat_of_zero_le hle
    have hwhole : digits * 10 ^ k = n := by
      rw [zpow_natCast] at hvalue
      exact_mod_cast hvalue
    have hlarge : ¬ (400 : ℤ) < k := by
      intro hk
      have hpower : 10 ^ 16 ≤ 10 ^ k := Nat.pow_le_pow_right (by decide) (by omega)
      have hmore : 10 ^ k ≤ digits * 10 ^ k := Nat.le_mul_of_pos_left _ (Nat.pos_of_ne_zero hzero)
      omega
    have hsmall : ¬ (k : ℤ) + size < -400 := by omega
    have hpower : power 10 k = 10 ^ k := rfl
    rw [ofDecimal, if_neg hzero, if_neg hlarge, if_neg hsmall, if_pos hle, hpower, hwhole]
  · obtain ⟨k, hk⟩ := Int.eq_ofNat_of_zero_le (show 0 ≤ -exponent by omega)
    obtain rfl : exponent = -(k : ℤ) := by omega
    have hwhole : digits = n * 10 ^ k := by
      rw [zpow_neg, zpow_natCast, ← div_eq_mul_inv, div_eq_iff (by positivity)] at hvalue
      exact_mod_cast hvalue
    have hless : k < size := by
      have hpower : 10 ^ k ≤ n * 10 ^ k := Nat.le_mul_of_pos_left _ hpos
      have hpowers : 10 ^ k < 10 ^ size := by omega
      exact (Nat.pow_lt_pow_iff_right (by decide)).mp hpowers
    have hlarge : ¬ (400 : ℤ) < -k := by omega
    have hsmall : ¬ -(k : ℤ) + size < -400 := by omega
    have hpower : power 10 (-(-(k : ℤ))) = 1 * 10 ^ k := by
      rw [neg_neg, one_mul]
      rfl
    rw [ofDecimal, if_neg hzero, if_neg hlarge, if_neg hsmall, if_neg (by omega), hpower, hwhole,
      nearest_mul_right false n one_ne_zero (by positivity)]

/-- **A whole number is read exactly in whatever way it is written**, if it has at most fifty-three
binary digits. -/
theorem truncate_ofDecimal {negative : Bool} {digits size n : ℕ} {exponent : ℤ}
    (hdigits : digits < 10 ^ size) (hn : n ≤ 2 ^ 53)
    (hvalue : (if negative then -1 else 1) * (digits * 10 ^ exponent) = (n : ℚ)) :
    (ofDecimal negative digits size exponent).isFinite ∧
      ∀ bound, (ofDecimal negative digits size exponent).truncate bound = min (bound - 1) n := by
  by_cases hzero : digits = 0
  · subst hzero
    obtain rfl : n = 0 := by simpa using hvalue.symm
    cases negative <;> simp [ofDecimal, truncate, isFinite]
  have hpos : (0 : ℚ) < digits * 10 ^ exponent := by
    have : (0 : ℚ) < digits := by exact_mod_cast Nat.pos_of_ne_zero hzero
    positivity
  have hnonneg : (0 : ℚ) ≤ n := Nat.cast_nonneg n
  cases negative with
  | true => exact absurd hvalue (by simp only [if_true]; linarith)
  | false =>
      simp only [Bool.false_eq_true, if_false, one_mul] at hvalue
      have hn0 : 0 < n := by
        rw [hvalue] at hpos
        exact_mod_cast hpos
      have hread : ofDecimal false digits size exponent = ofDecimal false n 0 0 := by
        rw [ofDecimal_eq_nearest hdigits hn0 hn hvalue,
          ofDecimal_zero_exponent false hn0.ne']
      have hlt : n < 2 ^ 64 := lt_of_le_of_lt hn (by decide)
      obtain ⟨hfinite, htruncate⟩ := ofDecimal_whole hlt 0
      rw [hread]
      refine ⟨isFinite_of_value? hfinite, fun bound => ?_⟩
      rw [htruncate, roundWhole_of_le hn]

end RelayRoute.Binary64

namespace RelayRoute.Digits

/-! ## Digits -/

/-- Digits stand for a number as they do when the last one comes first. -/
theorem ofDigits_eq_reverse (base : ℕ) (ds : List ℕ) :
    ofDigits base ds = Nat.ofDigits base ds.reverse := by
  induction ds using List.reverseRecOn with
  | nil => rfl
  | append_singleton ds d ih =>
      rw [ofDigits_append, ih, List.reverse_append, List.reverse_singleton, List.singleton_append,
        Nat.ofDigits_cons]
      exact Nat.add_comm _ _

/-- Digits after others move these to the left. -/
theorem ofDigits_append_digits (base : ℕ) (ds es : List ℕ) :
    ofDigits base (ds ++ es) = base ^ es.length * ofDigits base ds + ofDigits base es := by
  rw [ofDigits_eq_reverse, List.reverse_append, Nat.ofDigits_append, List.length_reverse,
    ← ofDigits_eq_reverse, ← ofDigits_eq_reverse]
  exact Nat.add_comm _ _

/-- Digits of a base stand for a number that has no more of them. -/
theorem ofDigits_lt {base : ℕ} (hbase : 1 < base) {ds : List ℕ} (h : ∀ d ∈ ds, d < base) :
    ofDigits base ds < base ^ ds.length := by
  have hreverse : ∀ d ∈ ds.reverse, d < base := fun d hd => h d (List.mem_reverse.mp hd)
  rw [ofDigits_eq_reverse, ← List.length_reverse]
  exact Nat.ofDigits_lt_base_pow_length hbase hreverse

theorem lt_of_value? {base d : ℕ} {c : Char} (h : value? base c = some d) : d < base := by
  unfold value? at h
  dsimp only at h
  obtain ⟨hlt, hd⟩ := Option.ite_none_right_eq_some.mp h
  exact Option.some.inj hd ▸ hlt

end RelayRoute.Digits

namespace RelayRoute.Json5

/-! ## What is written -/

/-- The factor that a sign stands for. -/
def Sign.factor : Sign → ℤ
  | .minus => -1
  | .none | .plus => 1

/-- The number that follows a sign. -/
def NumberBody.value? : NumberBody → Option ℚ
  | .hexadecimal digits => some (Digits.ofDigits 16 digits)
  | .decimal whole fraction exponent =>
    let behind := fraction.getD []
    some ((Digits.ofDigits 10 whole + Digits.ofDigits 10 behind / 10 ^ behind.length) *
      10 ^ exponent.getD 0)
  | .infinity | .notNumber => none

/-- The number that is written, exactly. -/
def Number.value? (number : Number) : Option ℚ :=
  number.body.value?.map (number.sign.factor * ·)

/-- Whether all digits are digits of their base. -/
def Number.HasDigits (number : Number) : Prop :=
  match number.body with
  | .hexadecimal digits => ∀ d ∈ digits, d < 16
  | .decimal whole fraction _ => ∀ d ∈ whole ++ fraction.getD [], d < 10
  | .infinity | .notNumber => True

/-- A way of writing a natural number that a configuration may use: in base ten any, and in base
sixteen those without a sign and with no more than 32 bits. -/
structure Number.Writes (number : Number) (n : ℕ) : Prop where
  value : number.value? = some (n : ℚ)
  hexadecimal : ∀ digits, number.body = .hexadecimal digits → number.sign = .none ∧ n < 2 ^ 32

end RelayRoute.Json5

namespace RelayRoute.Config

open Json5

/-- Digits with a point and an exponent are rounded as the number they are: the point moves the
exponent by as many places as there are digits behind it. -/
theorem decimalValue_exact {sign : Sign} {whole : List ℕ} {fraction : Option (List ℕ)}
    {exponent : Option ℤ} {n : ℕ} (hdigits : ∀ d ∈ whole ++ fraction.getD [], d < 10)
    (hn : n ≤ 2 ^ 53)
    (hvalue : Number.value? ⟨sign, .decimal whole fraction exponent⟩ = some (n : ℚ)) :
    (decimalValue sign whole fraction exponent).isFinite ∧
      ∀ bound, (decimalValue sign whole fraction exponent).truncate bound = min (bound - 1) n := by
  refine Binary64.truncate_ofDecimal (Digits.ofDigits_lt (by decide) hdigits) hn ?_
  have hfactor : (if (sign == .minus) = true then -1 else 1 : ℚ) = sign.factor := by
    cases sign <;> simp [Sign.factor]
  have hnumber : (sign.factor : ℚ) * ((Digits.ofDigits 10 whole +
      Digits.ofDigits 10 (fraction.getD []) / 10 ^ (fraction.getD []).length) *
        10 ^ exponent.getD 0) = n := Option.some.inj hvalue
  rw [hfactor, ← hnumber, Digits.ofDigits_append_digits, zpow_sub₀ (by norm_num), zpow_natCast]
  push_cast
  field_simp

/-- **A whole number is read as itself in every way of writing it**, if it has at most fifty-three
binary digits.  In base sixteen nothing is rounded. -/
theorem readFloat_of_writes {number : Number} {n : ℕ} (hdigits : number.HasDigits)
    (hn : n ≤ 2 ^ 53) (h : number.Writes n) :
    ∃ x, readFloat number = .ok x ∧ ∀ bound, x.truncate bound = min (bound - 1) n := by
  obtain ⟨sign, body⟩ := number
  have hvalue := h.value
  cases body with
  | hexadecimal digits =>
      obtain ⟨hsign, hbits⟩ := h.hexadecimal digits rfl
      obtain rfl : sign = .none := hsign
      have hnumber : Digits.ofDigits 16 digits = n := by
        simpa [Number.value?, NumberBody.value?, Sign.factor] using hvalue
      have hread : readHexadecimal digits = .ok n := by
        rw [readHexadecimal, hnumber]
        exact if_pos hbits
      refine ⟨Binary64.ofDecimal false n (Digits.write 10 n).length 0, ?_, fun bound => ?_⟩
      · simp only [readFloat, if_true, hread]
        rfl
      · rw [(Binary64.ofDecimal_whole (lt_of_le_of_lt hn (by decide)) _).2 bound,
          Binary64.roundWhole_of_le hn]
  | decimal whole fraction exponent =>
      obtain ⟨hfinite, htruncate⟩ := decimalValue_exact hdigits hn hvalue
      refine ⟨_, ?_, htruncate⟩
      simp only [readFloat, hfinite, if_true]
  | infinity | notNumber => simp [Number.value?, NumberBody.value?] at hvalue

end RelayRoute.Config
