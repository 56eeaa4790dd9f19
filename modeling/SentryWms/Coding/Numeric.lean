import Mathlib.Algebra.Order.Field.Power
import Mathlib.Algebra.Order.Ring.Rat
import Mathlib.Data.Rat.Cast.Defs
import Mathlib.Tactic.Linarith
import Mathlib.Tactic.Positivity
import Mathlib.Tactic.Ring

/-!
# Fixed-point decimals

A decimal column holds whole multiples of a power of ten, up to a number of digits.  A
number given as a coefficient and an exponent fits such a column if the coefficient has the
zeros that the column has no places for, and the digits left are not too many.
-/

namespace Coding

/-- How many digits the number is written with; zero has one. -/
def digitCount (coefficient : ℕ) : ℕ := (Nat.toDigits 10 coefficient).length

/-- The number can be held with so many digits, so many of them after the point. -/
def FitsNumeric (digits places : ℤ) (number : ℚ) : Prop :=
  ∃ unscaled : ℤ, number * 10 ^ places = unscaled ∧ |(unscaled : ℚ)| < 10 ^ digits

theorem digitCount_le_iff {coefficient count : ℕ} (hpos : 0 < count) :
    digitCount coefficient ≤ count ↔ coefficient < 10 ^ count :=
  Nat.length_toDigits_le_iff (by decide) hpos

theorem digitCount_pos (coefficient : ℕ) : 0 < digitCount coefficient := Nat.length_toDigits_pos

/-- The digits of a number are how many powers of ten it is below. -/
theorem lt_zpow_iff {coefficient : ℕ} (hne : coefficient ≠ 0) (count : ℤ) :
    (coefficient : ℚ) < 10 ^ count ↔ (digitCount coefficient : ℤ) ≤ count := by
  have hdigits := digitCount_pos coefficient
  rcases le_or_gt count 0 with hsmall | hlarge
  · have hone : (1 : ℚ) ≤ coefficient := by exact_mod_cast Nat.one_le_iff_ne_zero.mpr hne
    have hpower : (10 : ℚ) ^ count ≤ 1 := zpow_le_one_of_nonpos₀ (by norm_num) hsmall
    constructor
    · intro hlt
      linarith
    · intro hle
      omega
  · obtain ⟨power, rfl⟩ := Int.eq_ofNat_of_zero_le hlarge.le
    have hcast : (coefficient : ℚ) < 10 ^ (power : ℤ) ↔ coefficient < 10 ^ power := by
      rw [zpow_natCast]
      exact_mod_cast Iff.rfl
    rw [hcast, ← digitCount_le_iff (by omega)]
    exact Int.ofNat_le.symm

/-- A scaled coefficient is whole if it has the zeros that the scale takes. -/
theorem whole_iff (coefficient : ℕ) (shift : ℤ) :
    (∃ unscaled : ℤ, (coefficient : ℚ) * 10 ^ shift = unscaled) ↔
      0 ≤ shift ∨ 10 ^ (-shift).toNat ∣ coefficient := by
  rcases le_or_gt 0 shift with hup | hdown
  · obtain ⟨power, rfl⟩ := Int.eq_ofNat_of_zero_le hup
    refine iff_of_true ⟨coefficient * 10 ^ power, ?_⟩ (Or.inl hup)
    push_cast
    rw [zpow_natCast]
  · obtain ⟨power, hpower⟩ := Int.eq_ofNat_of_zero_le (neg_nonneg.mpr hdown.le)
    have hshift : shift = -(power : ℤ) := by omega
    have hne : (10 : ℚ) ^ power ≠ 0 := pow_ne_zero power (by norm_num)
    have htoNat : (-shift).toNat = power := by omega
    rw [htoNat, hshift, zpow_neg, zpow_natCast]
    constructor
    · rintro ⟨unscaled, hwhole⟩
      right
      have hproduct : (coefficient : ℚ) = unscaled * 10 ^ power :=
        (mul_inv_eq_iff_eq_mul₀ hne).mp hwhole
      have hcast : (coefficient : ℤ) = unscaled * 10 ^ power := by exact_mod_cast hproduct
      exact Int.natCast_dvd_natCast.mp ⟨unscaled, by rw [hcast]; push_cast; ring⟩
    · rintro (hnonneg | ⟨quotient, hquotient⟩)
      · omega
      · refine ⟨quotient, (mul_inv_eq_iff_eq_mul₀ hne).mpr ?_⟩
        rw [hquotient]
        push_cast
        ring

theorem fitsNumeric_neg {digits places : ℤ} {number : ℚ} :
    FitsNumeric digits places (-number) ↔ FitsNumeric digits places number := by
  have hforward : ∀ value : ℚ, FitsNumeric digits places value →
      FitsNumeric digits places (-value) := by
    rintro value ⟨unscaled, hwhole, hbound⟩
    refine ⟨-unscaled, ?_, ?_⟩
    · rw [neg_mul, hwhole]
      push_cast
      rfl
    · push_cast
      rwa [abs_neg]
  constructor
  · intro hfits
    have hagain := hforward _ hfits
    rwa [neg_neg] at hagain
  · exact hforward number

/-- When a coefficient and an exponent fit a column. -/
theorem fitsNumeric_iff {digits places : ℤ} (coefficient : ℕ) (exponent : ℤ) :
    FitsNumeric digits places (coefficient * 10 ^ exponent) ↔
      (0 ≤ exponent + places ∨ 10 ^ (-(exponent + places)).toNat ∣ coefficient) ∧
        (coefficient = 0 ∨ digitCount coefficient + exponent + places ≤ digits) := by
  have hten : (10 : ℚ) ≠ 0 := by norm_num
  have hscaled : (coefficient : ℚ) * 10 ^ exponent * 10 ^ places =
      coefficient * 10 ^ (exponent + places) := by
    rw [mul_assoc, ← zpow_add₀ hten]
  have hbound : |(coefficient : ℚ) * 10 ^ (exponent + places)| < 10 ^ digits ↔
      coefficient = 0 ∨ (digitCount coefficient : ℤ) + exponent + places ≤ digits := by
    have hnonneg : (0 : ℚ) ≤ coefficient * 10 ^ (exponent + places) := by positivity
    rw [abs_of_nonneg hnonneg]
    by_cases hzero : coefficient = 0
    · rw [hzero]
      refine iff_of_true ?_ (Or.inl rfl)
      rw [Nat.cast_zero, zero_mul]
      positivity
    · have hpower : (0 : ℚ) < 10 ^ (exponent + places) := by positivity
      rw [← lt_div_iff₀ hpower, ← zpow_sub₀ hten, lt_zpow_iff hzero]
      constructor
      · intro hle
        right
        omega
      · rintro (hno | hle)
        · exact (hzero hno).elim
        · omega
  rw [← whole_iff, ← hbound, FitsNumeric, hscaled]
  constructor
  · rintro ⟨unscaled, hwhole, hsmall⟩
    exact ⟨⟨unscaled, hwhole⟩, by rwa [hwhole]⟩
  · rintro ⟨⟨unscaled, hwhole⟩, hsmall⟩
    exact ⟨unscaled, hwhole, by rwa [← hwhole]⟩

end Coding
