import DeskCalc.Number.Nearest
import Mathlib.Algebra.Order.Field.Rat
import Mathlib.Algebra.Order.Field.Power
import Mathlib.Tactic.FieldSimp
import Mathlib.Tactic.Linarith
import Mathlib.Tactic.NormNum
import Mathlib.Tactic.Ring

/-! Rounding of ratios to integers, as a property of the rational number that the ratio denotes. -/

namespace DeskCalc.Number

/-- A rational is rounded to an integer within half a unit, which is even if it is just that far. -/
structure IsRounded (n : Nat) (x : ℚ) : Prop where
  near : |(n : ℚ) - x| ≤ 1 / 2
  even : |(n : ℚ) - x| = 1 / 2 → n % 2 = 0

namespace IsRounded

/-- Of two integers to which a rational is rounded none is less. -/
theorem not_lt {m n : Nat} {x : ℚ} (first : IsRounded m x) (second : IsRounded n x) : ¬ m < n := by
  intro less
  -- The greater one is at least a whole unit above the other.
  have gap : (m : ℚ) + 1 ≤ n := by exact_mod_cast less
  obtain ⟨-, above⟩ := abs_le.mp first.near
  obtain ⟨below, -⟩ := abs_le.mp first.near
  obtain ⟨-, high⟩ := abs_le.mp second.near
  -- Both are half a unit away, so they are neighbours, and both even.
  have next : (n : ℚ) = m + 1 := by linarith
  have even := first.even (by rw [abs_of_nonpos (by linarith)]; linarith)
  have evenNext := second.even (by rw [abs_of_nonneg (by linarith)]; linarith)
  have : n = m + 1 := by exact_mod_cast next
  omega

/-- A rational is rounded to one integer only. -/
theorem unique {m n : Nat} {x : ℚ} (first : IsRounded m x) (second : IsRounded n x) : m = n :=
  -- Neither is less than the other.
  Nat.le_antisymm (Nat.le_of_not_lt (second.not_lt first)) (Nat.le_of_not_lt (first.not_lt second))

/-- An integer is rounded to itself. -/
theorem self (n : Nat) : IsRounded n n where
  near := by simp
  even := by norm_num

/-- What is rounded is no more than an integer above the rational. -/
theorem le_of_le {n bound : Nat} {x : ℚ} (rounded : IsRounded n x) (below : x ≤ bound) :
    n ≤ bound := by
  -- Half a unit above the rational is less than a whole unit above the bound.
  obtain ⟨-, high⟩ := abs_le.mp rounded.near
  have less : (n : ℚ) < bound + 1 := by linarith
  exact Nat.lt_succ_iff.mp (by exact_mod_cast less)

/-- What is rounded is no less than an integer below the rational. -/
theorem ge_of_ge {n bound : Nat} {x : ℚ} (rounded : IsRounded n x) (above : (bound : ℚ) ≤ x) :
    bound ≤ n := by
  -- Half a unit below the rational is more than a whole unit below the bound.
  obtain ⟨low, -⟩ := abs_le.mp rounded.near
  have less : (bound : ℚ) < n + 1 := by linarith
  exact Nat.lt_succ_iff.mp (by exact_mod_cast less)

/-- No integer is nearer than the one to which a rational is rounded. -/
theorem nearest {n : Nat} {x : ℚ} (rounded : IsRounded n x) (other : Nat) :
    |(n : ℚ) - x| ≤ |(other : ℚ) - x| := by
  -- Any other integer is a whole unit away from this one, so half a unit from the rational.
  obtain ⟨low, high⟩ := abs_le.mp rounded.near
  rcases Nat.lt_trichotomy other n with less | rfl | more
  · have gap : (other : ℚ) + 1 ≤ n := by exact_mod_cast less
    rw [abs_of_nonpos (by linarith : (other : ℚ) - x ≤ 0)]
    exact abs_le.mpr ⟨by linarith, by linarith⟩
  · exact le_refl _
  · have gap : (n : ℚ) + 1 ≤ other := by exact_mod_cast more
    rw [abs_of_nonneg (by linarith : 0 ≤ (other : ℚ) - x)]
    exact abs_le.mpr ⟨by linarith, by linarith⟩

end IsRounded

/-- A ratio that is half a unit away from an integer is an odd number of halves. -/
theorem exists_of_tie {numerator denominator n : Nat} (positive : 0 < denominator)
    (tie : |(n : ℚ) - numerator / denominator| = 1 / 2) :
    ∃ whole, 2 * numerator = denominator + 2 * denominator * whole := by
  have positiveRat : (0 : ℚ) < denominator := by exact_mod_cast positive
  rcases eq_or_eq_neg_of_abs_eq tie with above | below
  · -- The integer is above the ratio, so it is at least one.
    field_simp at above
    have same : 2 * n * denominator = 2 * numerator + denominator := by
      have : 2 * (n : ℚ) * denominator = 2 * numerator + denominator := by linarith
      exact_mod_cast this
    cases n with
    | zero => omega
    | succ whole => exact ⟨whole, by linarith⟩
  · -- The integer is below the ratio, and counts the halves that come in pairs.
    field_simp at below
    have same : 2 * n * denominator + denominator = 2 * numerator := by
      have : 2 * (n : ℚ) * denominator + denominator = 2 * numerator := by linarith
      exact_mod_cast this
    exact ⟨n, by linarith⟩

/-- Rounding a ratio rounds the rational that it denotes. -/
theorem isRounded_roundHalfEven (numerator : Nat) {denominator : Nat} (positive : 0 < denominator) :
    IsRounded (roundHalfEven numerator denominator) (numerator / denominator) := by
  -- The bounds of the integer division are those of the rational one.
  have positiveRat : (0 : ℚ) < denominator := by exact_mod_cast positive
  obtain ⟨below, above⟩ := roundHalfEven_bounds numerator positive
  have belowRat : 2 * (numerator : ℚ) ≤
      (2 * (roundHalfEven numerator denominator : ℚ) + 1) * denominator := by exact_mod_cast below
  have aboveRat : 2 * (roundHalfEven numerator denominator : ℚ) * denominator ≤
      2 * numerator + denominator := by exact_mod_cast above
  refine ⟨abs_le.mpr ⟨?_, ?_⟩, fun tie => roundHalfEven_mod_two ?_⟩
  · have : (numerator : ℚ) / denominator ≤ roundHalfEven numerator denominator + 1 / 2 := by
      rw [div_le_iff₀ positiveRat]
      linarith
    linarith
  · have : (roundHalfEven numerator denominator : ℚ) - 1 / 2 ≤ numerator / denominator := by
      rw [le_div_iff₀ positiveRat]
      linarith
    linarith
  · -- A tie on either side leaves half of the denominator as the remainder.
    obtain ⟨whole, double⟩ := exists_of_tie positive tie
    rw [← Nat.mul_mod_mul_left, double, Nat.add_mul_mod_self_left, Nat.mod_eq_of_lt (by omega)]

/-- A power with a natural exponent on either side of the fraction bar. -/
theorem pow_toNat_div (base : ℚ) (exponent : ℤ) :
    base ^ exponent.toNat / base ^ (-exponent).toNat = base ^ exponent := by
  -- One of the two exponents is zero, and the other one is the size of the whole exponent.
  rcases le_total 0 exponent with positive | negative
  · obtain ⟨n, rfl⟩ := Int.eq_ofNat_of_zero_le positive
    simp
  · obtain ⟨n, rfl⟩ : ∃ n : ℕ, exponent = -n := ⟨exponent.natAbs, by omega⟩
    simp

theorem two_pow_toNat_div (exponent : ℤ) :
    (2 : ℚ) ^ exponent.toNat / 2 ^ (-exponent).toNat = 2 ^ exponent :=
  pow_toNat_div 2 exponent

/-- The ratio of a mantissa and an exponent denotes their product. -/
theorem Binary.ratio_eq (mantissa : Nat) (exponent : ℤ) :
    ((Binary.ratio mantissa exponent).1 : ℚ) / (Binary.ratio mantissa exponent).2 =
      mantissa * 2 ^ exponent := by
  -- A positive exponent multiplies the mantissa, and a negative one divides it.
  rw [← two_pow_toNat_div]
  simp [Binary.ratio, mul_div_assoc]

theorem Binary.ratio_pos (mantissa : Nat) (exponent : ℤ) :
    0 < (Binary.ratio mantissa exponent).2 :=
  Nat.two_pow_pos _

end DeskCalc.Number
