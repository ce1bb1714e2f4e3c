import DocScribe.Decimal.Shortest
import Mathlib.Algebra.Order.Field.Power
import Mathlib.Data.Rat.Cast.Order
import Mathlib.Tactic.FieldSimp
import Mathlib.Tactic.Linarith
import Mathlib.Tactic.NormNum
import Mathlib.Tactic.Positivity
import Mathlib.Tactic.Ring

/-!
# `DocScribe.Proofs.Decimal.Rounding`: decimals that read back

Rounding is defined on fractions and depends on their value only
(`Magnitude.round_congr`), and so does the magnitude that a decimal is
read as (`Magnitude.ofDecimal_congr`): zeros behind the digits may be
taken off or put on. A value that the format has is rounded to itself
(`Magnitude.ofDecimal_exact`). So the decimal that is written for a
magnitude reads back as the magnitude, from whichever grid it comes
(`Magnitude.ofDecimal_shortest`).

The exponent of a value is the one with the value between two powers
next to each other. That there is only one such is all that is needed
of powers, for the exponents of both bases.
-/

set_option autoImplicit false

namespace DocScribe

/-! ### Powers -/

/-- A value lies between neighbouring powers in one way only, as powers of a
base above one grow with their exponents. -/
theorem eq_of_between_powers {b v : ℚ} (hb : 1 < b) {i j : ℤ} (hi : b ^ i ≤ v)
    (hi' : v < b ^ (i + 1)) (hj : b ^ j ≤ v) (hj' : v < b ^ (j + 1)) : i = j := by
  have hij : i < j + 1 := (zpow_lt_zpow_iff_right₀ hb).mp (hi.trans_lt hj')
  have hji : j < i + 1 := (zpow_lt_zpow_iff_right₀ hb).mp (hj.trans_lt hi')
  omega

/-- A power with a sign in its exponent, as a quotient of naturals. -/
theorem zpow_eq_power {b : ℕ} {e : ℤ} (he : 0 ≤ e) : (b : ℚ) ^ e = (power b e.toNat : ℕ) := by
  obtain ⟨n, rfl⟩ := Int.eq_ofNat_of_zero_le he
  show (b : ℚ) ^ (n : ℤ) = ((b ^ n : ℕ) : ℚ)
  rw [zpow_natCast, Nat.cast_pow]

/-- A power with a negative exponent is the inverse of a power of the
natural numbers, as fractions have it in their denominator. -/
theorem zpow_eq_power_inv {b : ℕ} {e : ℤ} (he : ¬ 0 ≤ e) :
    (b : ℚ) ^ e = ((power b (-e).toNat : ℕ) : ℚ)⁻¹ := by
  have hneg : 0 ≤ -e := by omega
  rw [← zpow_eq_power hneg, zpow_neg, inv_inv]

/-- Powers are positive, so they can be denominators. -/
theorem power_pos {b : ℕ} (hb : 0 < b) (n : ℕ) : 0 < power b n := Nat.pow_pos hb

namespace Magnitude

/-! ### Rounding to a natural number -/

/-- Both sides of a fraction may be multiplied by the same. Quotient,
remainder and the comparison with the half all agree on that. -/
theorem roundDiv_mul_left {k : ℕ} (hk : 0 < k) (num den : ℕ) :
    roundDiv (k * num) (k * den) = roundDiv num den := by
  have hiff : (k * den < 2 * (k * (num % den)) ∨
      2 * (k * (num % den)) = k * den ∧ num / den % 2 = 1) ↔
      (den < 2 * (num % den) ∨ 2 * (num % den) = den ∧ num / den % 2 = 1) := by
    rw [Nat.mul_left_comm, Nat.mul_lt_mul_left hk, Nat.mul_right_inj (Nat.ne_of_gt hk)]
  simp only [roundDiv, Nat.mul_div_mul_left _ _ hk, Nat.mul_mod_mul_left, hiff]

/-- Equal fractions are rounded alike. -/
theorem roundDiv_congr {a b c d : ℕ} (hb : 0 < b) (hd : 0 < d) (h : a * d = c * b) :
    roundDiv a b = roundDiv c d := by
  rw [← roundDiv_mul_left hd, ← roundDiv_mul_left hb c d, Nat.mul_comm d a, h, Nat.mul_comm c b,
    Nat.mul_comm d b]

/-- A natural number is not changed. -/
theorem roundDiv_mul_self {n den : ℕ} (hden : 0 < den) : roundDiv (n * den) den = n := by
  have hnot : ¬ (den < 2 * 0 ∨ 2 * 0 = den ∧ n % 2 = 1) := by omega
  simp only [roundDiv, Nat.mul_div_cancel _ hden, Nat.mul_mod_left, hnot, if_false]

/-! ### Fractions and their exponents -/

/-- The value of a fraction. -/
def ratio (f : ℕ × ℕ) : ℚ := (f.1 : ℚ) / f.2

/-- To take a power of two out of a fraction leaves its denominator
positive. -/
theorem unscale_pos (num : ℕ) {den : ℕ} (hden : 0 < den) (e : ℤ) : 0 < (unscale num den e).2 := by
  rw [unscale]
  split
  · exact Nat.mul_pos hden (power_pos (by decide) _)
  · exact hden

/-- It divides the value by that power of two, whichever way the exponent
points. -/
theorem ratio_unscale (num : ℕ) {den : ℕ} (hden : 0 < den) (e : ℤ) :
    ratio (unscale num den e) = ratio (num, den) / 2 ^ e := by
  have hden' : (den : ℚ) ≠ 0 := Nat.cast_ne_zero.mpr (Nat.ne_of_gt hden)
  have htwo : ((2 : ℕ) : ℚ) = 2 := rfl
  rw [unscale, ratio, ratio]
  split
  · next he =>
    rw [← htwo, zpow_eq_power he, Nat.cast_mul, div_div]
  · next he =>
    rw [← htwo, zpow_eq_power_inv he, Nat.cast_mul, div_inv_eq_mul]
    ring

/-- By the bits of its two parts alone, the exponent of a quotient is known
up to one. The logarithms are rounded down, the one below the fraction bar
against the other. -/
theorem ratio_between_log2 {num den : ℕ} (hnum : 0 < num) (hden : 0 < den) {low : ℤ}
    (hlow : (Nat.log2 num : ℤ) - (Nat.log2 den : ℤ) - 53 = low) :
    (2 : ℚ) ^ (low + 52) ≤ ratio (num, den) ∧ ratio (num, den) < (2 : ℚ) ^ (low + 54) := by
  have hdenPos : (0 : ℚ) < den := Nat.cast_pos.mpr hden
  have hadd (i : ℤ) (m n : ℕ) (h : i + m = n) : (2 : ℚ) ^ i * 2 ^ m = 2 ^ n := by
    rw [← zpow_natCast, ← zpow_natCast, ← zpow_add₀ two_ne_zero, h]
  constructor
  · have hnumLow : (2 : ℚ) ^ (Nat.log2 num) ≤ num := by
      exact_mod_cast Nat.log2_self_le (Nat.ne_of_gt hnum)
    have hdenHigh : (den : ℚ) < 2 ^ (Nat.log2 den + 1) := by exact_mod_cast Nat.lt_log2_self
    rw [ratio, le_div_iff₀ hdenPos]
    calc (2 : ℚ) ^ (low + 52) * den ≤ 2 ^ (low + 52) * 2 ^ (Nat.log2 den + 1) := by gcongr
      _ = 2 ^ (Nat.log2 num) := hadd _ _ _ (by push_cast; omega)
      _ ≤ num := hnumLow
  · have hnumHigh : (num : ℚ) < 2 ^ (Nat.log2 num + 1) := by exact_mod_cast Nat.lt_log2_self
    have hdenLow : (2 : ℚ) ^ (Nat.log2 den) ≤ den := by
      exact_mod_cast Nat.log2_self_le (Nat.ne_of_gt hden)
    rw [ratio, div_lt_iff₀ hdenPos]
    calc (num : ℚ) < 2 ^ (Nat.log2 num + 1) := hnumHigh
      _ = 2 ^ (low + 54) * 2 ^ (Nat.log2 den) := (hadd _ _ _ (by push_cast; omega)).symm
      _ ≤ 2 ^ (low + 54) * den := by gcongr

/-- A fraction with a power of two taken out of it has a mantissa that is too
long exactly if the value is as large as that says. The division rounds
down, which makes no difference against a natural number. -/
theorem mantissaLimit_le_unscale_iff (num : ℕ) {den : ℕ} (hden : 0 < den) (e : ℤ) :
    mantissaLimit ≤ (unscale num den e).1 / (unscale num den e).2
      ↔ (2 : ℚ) ^ (e + 53) ≤ ratio (num, den) := by
  have hpos := unscale_pos num hden e
  have hvalue := ratio_unscale num hden e
  have hcast : (2 : ℚ) ^ (53 : ℤ) = (mantissaLimit : ℕ) := by norm_num
  rw [Nat.le_div_iff_mul_le hpos, zpow_add₀ two_ne_zero, mul_comm ((2 : ℚ) ^ e),
    ← le_div_iff₀ (zpow_pos two_pos e), ← hvalue, hcast, ratio, le_div_iff₀ (Nat.cast_pos.mpr hpos)]
  exact_mod_cast Iff.rfl

/-- The exponent of a value: that of its mantissa of 53 bits, or the
least one. Of the two that the bits leave open, the quotient at the lower
one tells which it is. -/
theorem exponentOf_spec {num den : ℕ} (hnum : 0 < num) (hden : 0 < den) :
    ∃ e : ℤ, (2 : ℚ) ^ (e + 52) ≤ ratio (num, den) ∧ ratio (num, den) < (2 : ℚ) ^ (e + 52 + 1) ∧
      exponentOf num den = max e (-1074) := by
  obtain ⟨low, hlow⟩ : ∃ low : ℤ, (Nat.log2 num : ℤ) - (Nat.log2 den : ℤ) - 53 = low := ⟨_, rfl⟩
  obtain ⟨hleast, hmost⟩ := ratio_between_log2 hnum hden hlow
  have hcompare := mantissaLimit_le_unscale_iff num hden low
  by_cases hlarge : mantissaLimit ≤ (unscale num den low).1 / (unscale num den low).2
  · refine ⟨low + 1, ?_, ?_, ?_⟩
    · rw [show low + 1 + 52 = low + 53 by omega]
      exact hcompare.mp hlarge
    · rw [show low + 1 + 52 + 1 = low + 54 by omega]
      exact hmost
    · simp only [exponentOf, hlow, hlarge, if_true]
      split <;> omega
  · refine ⟨low, hleast, ?_, ?_⟩
    · rw [show low + 52 + 1 = low + 53 by omega]
      exact not_le.mp (mt hcompare.mpr hlarge)
    · simp only [exponentOf, hlow, hlarge, if_false]
      split <;> omega

/-- A fraction is zero exactly if its numerator is. -/
theorem ratio_eq_zero_iff {num den : ℕ} (hden : 0 < den) : ratio (num, den) = 0 ↔ num = 0 := by
  rw [ratio, div_eq_zero_iff, Nat.cast_eq_zero, Nat.cast_eq_zero]
  omega

/-- Fractions with one value are the same crosswise. In this form the
equation is one of natural numbers. -/
theorem ratio_eq_iff {num den num' den' : ℕ} (hden : 0 < den) (hden' : 0 < den') :
    ratio (num, den) = ratio (num', den') ↔ num * den' = num' * den := by
  have hne : (den : ℚ) ≠ 0 := Nat.cast_ne_zero.mpr (Nat.ne_of_gt hden)
  have hne' : (den' : ℚ) ≠ 0 := Nat.cast_ne_zero.mpr (Nat.ne_of_gt hden')
  rw [ratio, ratio, div_eq_div_iff hne hne']
  exact_mod_cast Iff.rfl

/-! ### Rounding to a magnitude -/

/-- The binary exponent is one of the value: fractions of the same value
have the same, however they are written. -/
theorem exponentOf_congr {num den num' den' : ℕ} (hnum : 0 < num) (hden : 0 < den)
    (hnum' : 0 < num') (hden' : 0 < den') (h : ratio (num, den) = ratio (num', den')) :
    exponentOf num den = exponentOf num' den' := by
  obtain ⟨e, hlow, hhigh, he⟩ := exponentOf_spec hnum hden
  obtain ⟨e', hlow', hhigh', he'⟩ := exponentOf_spec hnum' hden'
  rw [h] at hlow hhigh
  have hsame := eq_of_between_powers one_lt_two hlow hhigh hlow' hhigh'
  rw [he, he', show e = e' by omega]

/-- Fractions with one value are rounded alike: their exponent is the same,
and so is the quotient at that exponent with what decides on its
rounding. -/
theorem round_congr {num den num' den' : ℕ} (hden : 0 < den) (hden' : 0 < den')
    (h : ratio (num, den) = ratio (num', den')) : round num den = round num' den' := by
  have hzero : num = 0 ↔ num' = 0 := by
    rw [← ratio_eq_zero_iff hden, h, ratio_eq_zero_iff hden']
  by_cases hnum : num = 0
  · rw [round, round, if_pos hnum, if_pos (hzero.mp hnum)]
  · have hnum' : num' ≠ 0 := mt hzero.mpr hnum
    have hexponent := exponentOf_congr (Nat.pos_of_ne_zero hnum) hden
      (Nat.pos_of_ne_zero hnum') hden' h
    have hround : roundDiv (unscale num den (exponentOf num' den')).1
          (unscale num den (exponentOf num' den')).2 =
        roundDiv (unscale num' den' (exponentOf num' den')).1
          (unscale num' den' (exponentOf num' den')).2 := by
      refine roundDiv_congr (unscale_pos _ hden _) (unscale_pos _ hden' _) ?_
      rw [← ratio_eq_iff (unscale_pos _ hden _) (unscale_pos _ hden' _)]
      show ratio (unscale num den _) = ratio (unscale num' den' _)
      rw [ratio_unscale num hden, ratio_unscale num' hden', h]
    simp only [round, hnum, hnum', if_false, hexponent, hround]

/-- The value of a magnitude. -/
def value (m : Magnitude) : ℚ := m.mantissa * 2 ^ m.exponent

/-- The mantissa has 53 bits. -/
theorem mantissa_lt_power (m : Magnitude) : (m.mantissa : ℚ) < 2 ^ (53 : ℤ) := by
  have hcast : (2 : ℚ) ^ (53 : ℤ) = (mantissaLimit : ℕ) := by norm_num
  rw [hcast]
  exact_mod_cast m.mantissa_lt

/-- Every fraction with the value of a magnitude has its exponent, so it is
rounded to as many digits. -/
theorem exponentOf_of_value {m : Magnitude} {num den : ℕ} (hnum : 0 < num) (hden : 0 < den)
    (h : ratio (num, den) = m.value) : exponentOf num den = m.exponent := by
  obtain ⟨e, hlow, hhigh, he⟩ := exponentOf_spec hnum hden
  have hleast := m.le_exponent
  have hmost : m.value < 2 ^ (m.exponent + 52 + 1) := by
    have hmantissa := m.mantissa_lt_power
    rw [value, show m.exponent + 52 + 1 = 53 + m.exponent by omega, zpow_add₀ two_ne_zero]
    gcongr
  rw [h] at hlow hhigh
  rw [he]
  rcases m.normal with hnormal | hsubnormal
  · -- A full mantissa has one exponent only.
    have hfull : (2 : ℚ) ^ (m.exponent + 52) ≤ m.value := by
      have hle : (2 : ℚ) ^ (52 : ℤ) ≤ m.mantissa := by
        have hcast : (2 : ℚ) ^ (52 : ℤ) = (leastFullMantissa : ℕ) := by norm_num
        rw [hcast]
        exact_mod_cast hnormal
      rw [value, add_comm, zpow_add₀ two_ne_zero]
      gcongr
    have hsame := eq_of_between_powers one_lt_two hlow hhigh hfull hmost
    omega
  · -- Any other has the least exponent, and that of the value is no larger.
    have hlt : e + 52 < m.exponent + 52 + 1 :=
      (zpow_lt_zpow_iff_right₀ one_lt_two).mp (hlow.trans_lt hmost)
    omega

/-- A value that the format has is rounded to itself. Its exponent is the
one that rounding chooses, and at that exponent the fraction is a whole
number, so no half has to be decided. -/
theorem round_exact {m : Magnitude} (hm : m.mantissa ≠ 0) {num den : ℕ} (hden : 0 < den)
    (h : ratio (num, den) = m.value) : round num den = some m := by
  have hpow : (0 : ℚ) < 2 ^ m.exponent := zpow_pos two_pos _
  have hnum : num ≠ 0 := by
    rw [ne_eq, ← ratio_eq_zero_iff hden, h, value, mul_eq_zero, Nat.cast_eq_zero]
    exact not_or.mpr ⟨hm, ne_of_gt hpow⟩
  have hexponent := exponentOf_of_value (Nat.pos_of_ne_zero hnum) hden h
  have hpos := unscale_pos num hden m.exponent
  -- At that exponent the fraction is the mantissa, and nothing is left to round.
  have hscaled : (unscale num den m.exponent).1 = m.mantissa * (unscale num den m.exponent).2 := by
    have hvalue := ratio_unscale num hden m.exponent
    rw [h, value, mul_div_assoc, div_self (ne_of_gt hpow), mul_one, ratio,
      div_eq_iff (Nat.cast_ne_zero.mpr (Nat.ne_of_gt hpos))] at hvalue
    exact_mod_cast hvalue
  have hround : roundDiv (unscale num den m.exponent).1 (unscale num den m.exponent).2
      = m.mantissa := by
    rw [hscaled, roundDiv_mul_self hpos]
  have hparts : ofParts? m.mantissa m.exponent = some m :=
    dif_pos ⟨m.mantissa_lt, m.le_exponent, m.exponent_le, m.normal⟩
  simp only [round, hnum, if_false, hexponent, hround, Nat.ne_of_lt m.mantissa_lt, hparts]

/-! ### Decimals -/

/-- The value of a decimal. -/
def decimalValue (digits : ℕ) (exponent : ℤ) : ℚ := digits * 10 ^ exponent

/-- Digits with a decimal exponent are a fraction with a positive
denominator. -/
theorem decimalFraction_pos (digits : ℕ) (exponent : ℤ) :
    0 < (decimalFraction digits exponent).2 := by
  rw [decimalFraction]
  split
  · exact Nat.one_pos
  · exact power_pos (by decide) _

/-- The value of that fraction is the value that the digits spell, whether
the exponent is negative or not. -/
theorem ratio_decimalFraction (digits : ℕ) (exponent : ℤ) :
    ratio (decimalFraction digits exponent) = decimalValue digits exponent := by
  have hten : ((10 : ℕ) : ℚ) = 10 := rfl
  rw [decimalFraction, ratio, decimalValue]
  split
  · next he => rw [← hten, zpow_eq_power he, Nat.cast_mul, Nat.cast_one, div_one]
  · next he => rw [← hten, zpow_eq_power_inv he, div_eq_mul_inv]

/-- The number of digits places a decimal between powers of ten. So what is
far too large or far too small is seen without computing it. -/
theorem decimalValue_between {digits : ℕ} (hdigits : digits ≠ 0) (exponent : ℤ) :
    (10 : ℚ) ^ (((Nat.toDigits 10 digits).length : ℤ) + exponent - 1) ≤
        decimalValue digits exponent ∧
      decimalValue digits exponent <
        (10 : ℚ) ^ (((Nat.toDigits 10 digits).length : ℤ) + exponent - 1 + 1) := by
  obtain ⟨length, hlength⟩ : ∃ length, (Nat.toDigits 10 digits).length = length + 1 :=
    Nat.exists_eq_add_one_of_ne_zero (by
      rw [ne_eq, List.length_eq_zero_iff]
      exact Nat.toDigits_ne_nil)
  have hhigh : digits < 10 ^ (length + 1) :=
    (Nat.length_toDigits_le_iff (by decide) (Nat.succ_pos _)).mp (Nat.le_of_eq hlength)
  have hlow : 10 ^ length ≤ digits := by
    cases length with
    | zero => exact Nat.pos_of_ne_zero hdigits
    | succ length =>
        refine Nat.not_lt.mp fun hlt => ?_
        have hle := (Nat.length_toDigits_le_iff (by decide : 1 < 10) (Nat.succ_pos length)).mpr hlt
        omega
  have hpow : (0 : ℚ) < 10 ^ exponent := zpow_pos (by norm_num) _
  rw [hlength, decimalValue]
  push_cast
  rw [show (length : ℤ) + 1 + exponent - 1 = length + exponent by omega,
    show (length : ℤ) + exponent + 1 = (length + 1 : ℕ) + exponent by push_cast; omega,
    zpow_add₀ (by norm_num), zpow_add₀ (by norm_num), zpow_natCast, zpow_natCast]
  exact ⟨mul_le_mul_of_nonneg_right (by exact_mod_cast hlow) hpow.le,
    mul_lt_mul_of_pos_right (by exact_mod_cast hhigh) hpow⟩

/-- Decimals with one value are read alike, whether they are written with a
point, with an exponent, or with zeros that could be left out. -/
theorem ofDecimal_congr {digits digits' : ℕ} {exponent exponent' : ℤ} (h0 : digits ≠ 0)
    (h0' : digits' ≠ 0) (h : decimalValue digits exponent = decimalValue digits' exponent') :
    ofDecimal digits exponent = ofDecimal digits' exponent' := by
  have hlength : ((Nat.toDigits 10 digits).length : ℤ) + exponent =
      (Nat.toDigits 10 digits').length + exponent' := by
    obtain ⟨hlow, hhigh⟩ := decimalValue_between h0 exponent
    obtain ⟨hlow', hhigh'⟩ := decimalValue_between h0' exponent'
    rw [h] at hlow hhigh
    have hsame := eq_of_between_powers (by norm_num) hlow hhigh hlow' hhigh'
    omega
  have hround : round (decimalFraction digits exponent).1 (decimalFraction digits exponent).2 =
      round (decimalFraction digits' exponent').1 (decimalFraction digits' exponent').2 := by
    refine round_congr (decimalFraction_pos _ _) (decimalFraction_pos _ _) ?_
    show ratio (decimalFraction _ _) = ratio (decimalFraction _ _)
    rw [ratio_decimalFraction, ratio_decimalFraction, h]
  simp only [ofDecimal, h0, h0', if_false, hlength, hround]

/-- The largest magnitude has 309 digits in front of its point, so no
magnitude reaches the bound at which decimals are taken to be infinite. -/
theorem value_lt_ten_power (m : Magnitude) : m.value < (10 : ℚ) ^ (309 : ℤ) := by
  have hpow : (0 : ℚ) < 2 ^ m.exponent := zpow_pos two_pos _
  -- The powers are compared factor by factor, `2 ^ 93` with `10 ^ 28`.
  calc m.value < 2 ^ (53 : ℤ) * 2 ^ m.exponent :=
        mul_lt_mul_of_pos_right m.mantissa_lt_power hpow
    _ ≤ 2 ^ (53 : ℤ) * 2 ^ (971 : ℤ) :=
        mul_le_mul_of_nonneg_left (zpow_le_zpow_right₀ one_le_two m.exponent_le) (by positivity)
    _ = 2 * ((2 : ℚ) ^ 93) ^ 11 := by
        rw [← zpow_add₀ two_ne_zero, ← pow_mul, ← pow_succ', ← zpow_natCast]
        congr 1
    _ ≤ 10 * ((10 : ℚ) ^ 28) ^ 11 := by gcongr <;> norm_num
    _ = 10 ^ (309 : ℤ) := by
        rw [← pow_mul, ← pow_succ', ← zpow_natCast]
        congr 1

/-- The least magnitude but zero begins within 324 digits behind its
point. -/
theorem ten_power_lt_value {m : Magnitude} (hm : m.mantissa ≠ 0) :
    (10 : ℚ) ^ (-324 : ℤ) < m.value := by
  have hpow : (0 : ℚ) < 2 ^ m.exponent := zpow_pos two_pos _
  have hone : (1 : ℚ) ≤ m.mantissa := by exact_mod_cast Nat.pos_of_ne_zero hm
  have hpowers : (2 : ℚ) ^ (1074 : ℤ) < 10 ^ (324 : ℤ) := by
    calc (2 : ℚ) ^ (1074 : ℤ) = (2 ^ 93) ^ 11 * 2 ^ 51 := by
          rw [← pow_mul, ← pow_add, ← zpow_natCast]
          congr 1
      _ ≤ (10 ^ 28) ^ 11 * 2 ^ 51 := by gcongr; norm_num
      _ < (10 ^ 28) ^ 11 * 10 ^ 16 := by gcongr; norm_num
      _ = 10 ^ (324 : ℤ) := by
          rw [← pow_mul, ← pow_add, ← zpow_natCast]
          congr 1
  calc (10 : ℚ) ^ (-324 : ℤ) = (10 ^ (324 : ℤ))⁻¹ := zpow_neg 10 324
    _ < (2 ^ (1074 : ℤ))⁻¹ := inv_strictAnti₀ (by positivity) hpowers
    _ = 2 ^ (-1074 : ℤ) := (zpow_neg 2 1074).symm
    _ ≤ 2 ^ m.exponent := zpow_le_zpow_right₀ one_le_two m.le_exponent
    _ ≤ m.value := le_mul_of_one_le_left hpow.le hone

/-- A decimal with the value of a magnitude is read as the magnitude:
no magnitude but zero is so large or so small that the answer is known
without its power. -/
theorem ofDecimal_exact {m : Magnitude} (hm : m.mantissa ≠ 0) {digits : ℕ} {exponent : ℤ}
    (h : decimalValue digits exponent = m.value) : ofDecimal digits exponent = some m := by
  have hleast := ten_power_lt_value hm
  have hdigits : digits ≠ 0 := by
    rintro rfl
    have hzero : decimalValue 0 exponent = 0 := by rw [decimalValue, Nat.cast_zero, zero_mul]
    have hpos : (0 : ℚ) < 10 ^ (-324 : ℤ) := by positivity
    linarith
  obtain ⟨hlow, hhigh⟩ := decimalValue_between hdigits exponent
  rw [h] at hlow hhigh
  -- The place of the first digit, from both sides.
  have hshort := (zpow_lt_zpow_iff_right₀ (by norm_num : (1 : ℚ) < 10)).mp
    (hlow.trans_lt m.value_lt_ten_power)
  have hlong := (zpow_lt_zpow_iff_right₀ (by norm_num : (1 : ℚ) < 10)).mp (hleast.trans hhigh)
  have hround : round (decimalFraction digits exponent).1 (decimalFraction digits exponent).2
      = some m :=
    round_exact hm (decimalFraction_pos digits exponent)
      (show ratio (decimalFraction digits exponent) = _ by rw [ratio_decimalFraction, h])
  have hsmall : ¬ 310 < ((Nat.toDigits 10 digits).length : ℤ) + exponent := by omega
  have hlarge : ¬ ((Nat.toDigits 10 digits).length : ℤ) + exponent < -330 := by omega
  simp only [ofDecimal, hdigits, hsmall, hlarge, if_false, hround]

/-! ### The decimal that is written -/

/-- The exact decimal has the value of its magnitude: two is half of ten, so
every power of it has finitely many digits. -/
theorem decimalValue_exactDecimal (m : Magnitude) :
    decimalValue m.exactDecimal.digits m.exactDecimal.exponent = m.value := by
  have htwo : ((2 : ℕ) : ℚ) = 2 := rfl
  rw [exactDecimal, decimalValue, value]
  split
  · next he =>
    rw [Nat.cast_mul, zpow_zero, mul_one, ← htwo, zpow_eq_power he]
  · next he =>
    have hfive : ((5 : ℕ) : ℚ) ^ (-m.exponent) = (power 5 (-m.exponent).toNat : ℕ) :=
      zpow_eq_power (by omega)
    show ((m.mantissa * power 5 (-m.exponent).toNat : ℕ) : ℚ) * 10 ^ m.exponent = _
    rw [Nat.cast_mul, ← hfive, mul_assoc, zpow_neg, ← inv_zpow, ← mul_zpow]
    norm_num

/-- Without a mantissa there is only zero: without a leading digit the
exponent is the least one. -/
theorem eq_zero_of_mantissa {m : Magnitude} (h : m.mantissa = 0) : m = zero := by
  obtain ⟨mantissa, exponent, _, _, _, hnormal⟩ := m
  obtain rfl : mantissa = 0 := h
  obtain rfl : exponent = -1074 := hnormal.resolve_left (by decide)
  rfl

/-- The decimal that is written for a magnitude is read as the
magnitude. -/
theorem ofDecimal_shortest (m : Magnitude) :
    ofDecimal m.shortest.digits m.shortest.exponent = some m := by
  rw [shortest]
  split
  · next hm =>
    rw [eq_zero_of_mantissa hm]
    rfl
  · next hm =>
    cases hgrid : ((List.range 17).map (· + 1)).findSome? m.onGrid with
    | none =>
        rw [Option.getD_none]
        exact ofDecimal_exact hm m.decimalValue_exactDecimal
    | some d =>
        -- What a grid gives has been tried.
        obtain ⟨count, -, hfound⟩ := List.exists_of_findSome?_eq_some hgrid
        have hread : m.isReadFrom d = true := List.find?_some hfound
        rw [Option.getD_some]
        exact of_decide_eq_true hread

/-- Zero is written with a zero, and nothing else is: digits that are worth
nothing would not be read as the magnitude. -/
theorem shortest_digits_eq_zero {m : Magnitude} (h : m.shortest.digits = 0) :
    m.shortest = ⟨0, 0⟩ := by
  by_cases hm : m.mantissa = 0
  · rw [shortest, if_pos hm]
  · have hread := m.ofDecimal_shortest
    rw [h] at hread
    have hzero : ofDecimal 0 m.shortest.exponent = some zero := by
      rw [ofDecimal, if_pos rfl]
    exact absurd (congrArg mantissa (Option.some.inj (hread.symm.trans hzero))) hm

end Magnitude

end DocScribe
