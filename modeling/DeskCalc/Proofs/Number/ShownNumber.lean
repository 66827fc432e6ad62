import DeskCalc.Proofs.Number.DecimalText
import DeskCalc.Proofs.Number.NearestDouble
import Mathlib.Algebra.Order.Floor.Semifield
import Mathlib.Data.Nat.Cast.Field
import Mathlib.Data.Rat.Floor

/-! Numbers as they are shown: the double nearest to what is shown for a double
is shown the same, although it may be another one. -/

namespace DeskCalc.Number

/-- A magnitude is that of no integer. -/
def IsBroken (mantissa : Nat) (exponent : ℤ) : Prop :=
  ∀ n : Nat, magnitude mantissa exponent ≠ n

section Integral

variable {mantissa : Nat} {exponent : ℤ} {negative : Bool}

/-- A double of the magnitude of a natural number is that number behind its sign. -/
theorem Binary.toInt?_of_eq {n : Nat} (whole : magnitude mantissa exponent = n) :
    (Binary.finite negative mantissa exponent).toInt? = some (if negative then -(n : Int) else n) := by
  -- The numerator is the multiple of the denominator that the magnitude says.
  have value := Binary.ratio_eq mantissa exponent
  have divides := Binary.ratio_pos mantissa exponent
  have dividesRat : ((Binary.ratio mantissa exponent).2 : ℚ) ≠ 0 := by exact_mod_cast divides.ne'
  rw [← magnitude, whole, div_eq_iff dividesRat] at value
  have multiple : (Binary.ratio mantissa exponent).1 = n * (Binary.ratio mantissa exponent).2 := by
    exact_mod_cast value
  have remainder : (Binary.ratio mantissa exponent).1 % (Binary.ratio mantissa exponent).2 = 0 := by
    rw [multiple, Nat.mul_mod_left]
  have quotient : ((Binary.ratio mantissa exponent).1 : Int) / (Binary.ratio mantissa exponent).2 =
      n := by
    rw [multiple]
    exact_mod_cast Nat.mul_div_cancel n divides
  simp [Binary.toInt?, remainder, quotient]

/-- A double of the magnitude of no natural number is no integer. -/
theorem Binary.toInt?_of_isBroken (broken : IsBroken mantissa exponent) :
    (Binary.finite negative mantissa exponent).toInt? = none := by
  -- A division without a remainder would give the natural number.
  have remainder :
      (Binary.ratio mantissa exponent).1 % (Binary.ratio mantissa exponent).2 ≠ 0 := by
    intro none
    have divides := Nat.dvd_of_mod_eq_zero none
    have positive : ((Binary.ratio mantissa exponent).2 : ℚ) ≠ 0 := by
      exact_mod_cast (Binary.ratio_pos mantissa exponent).ne'
    apply broken ((Binary.ratio mantissa exponent).1 / (Binary.ratio mantissa exponent).2)
    rw [Nat.cast_div divides positive, Binary.ratio_eq]
    rfl
  simp [Binary.toInt?, remainder]

/-- A whole number is shown with all its digits, whatever is asked for. -/
theorem Binary.display_of_eq {n places : Nat} (whole : magnitude mantissa exponent = n)
    (positive : 0 < places) (asked : Places) :
    (Binary.finite negative mantissa exponent).display asked =
      .ok (String.ofList (shownText negative (n * 10 ^ places) places)) := by
  rw [Binary.display, Binary.toInt?_of_eq whole, ← toString_eq_shownText negative positive n]

/-- Any other number is shown with its units at the useful places that are asked for. -/
theorem Binary.display_of_isBroken {count : Nat} (broken : IsBroken mantissa exponent)
    (positive : 0 < count) :
    (Binary.finite negative mantissa exponent).display (.count count) =
      .ok (String.ofList (shownText negative
        (unitsOf (Binary.ratio mantissa exponent).1 (Binary.ratio mantissa exponent).2 count)
        (min count usefulPlaces))) := by
  have useful : 0 < min count usefulPlaces := lt_min positive (by decide)
  rw [Binary.display, Binary.toInt?_of_isBroken broken]
  simp only [withPlaces, tidy_fixedPoint _ useful]

/-- A double that is no integer has places behind the point, so it is not large. -/
theorem IsCanonical.lt_of_isBroken (canonical : IsCanonical mantissa exponent)
    (broken : IsBroken mantissa exponent) : magnitude mantissa exponent < 2 ^ 53 := by
  -- With an exponent that is not negative the mantissa would be shifted to an integer.
  have fine : exponent < 0 := by
    by_contra coarse
    obtain ⟨power, rfl⟩ := Int.eq_ofNat_of_zero_le (not_lt.mp coarse)
    exact broken (mantissa * 2 ^ power) (by simp [magnitude])
  -- So the last place is at most one, and the mantissa has 53 bits.
  have small : (mantissa : ℚ) < 2 ^ 53 := by exact_mod_cast canonical.mantissa_lt
  have unit : (2 : ℚ) ^ exponent ≤ 1 := zpow_le_one_of_nonpos₀ (by norm_num) fine.le
  have positive : (0 : ℚ) ≤ mantissa := by positivity
  unfold magnitude
  nlinarith

/-- The magnitude of a double is at most that of the largest one. -/
theorem IsCanonical.magnitude_le (canonical : IsCanonical mantissa exponent) :
    magnitude mantissa exponent ≤ largest := by
  -- A double has at most 53 bits, at most at the highest last place.
  have small : (mantissa : ℚ) ≤ (2 ^ 53 - 1 : ℕ) := by
    exact_mod_cast Nat.le_sub_one_of_lt canonical.mantissa_lt
  have low : (2 : ℚ) ^ exponent ≤ 2 ^ (971 : ℤ) :=
    zpow_le_zpow_right₀ (by norm_num) canonical.exponent_le
  unfold largest magnitude
  gcongr

/-- A double is a whole number of units at the last useful place. -/
theorem IsCanonical.exists_units (canonical : IsCanonical mantissa exponent) :
    ∃ units : Nat, magnitude mantissa exponent * 10 ^ usefulPlaces = units := by
  -- The last place of a double is at least the power of two in the smallest unit.
  obtain ⟨more, exponent_eq⟩ := Int.le.dest canonical.exponent_ge
  refine ⟨mantissa * 2 ^ more * 5 ^ usefulPlaces, ?_⟩
  have power : (10 : ℚ) ^ usefulPlaces = 2 ^ (1074 : ℤ) * 5 ^ usefulPlaces := by
    rw [show (10 : ℚ) = 2 * 5 by norm_num, mul_pow]
    rfl
  have cancel : (2 : ℚ) ^ exponent * 2 ^ (1074 : ℤ) = 2 ^ more := by
    rw [← zpow_add₀ two_ne_zero, ← exponent_eq, minExponent, ← zpow_natCast]
    congr 1
    ring
  -- The power of two in the exponent cancels against that of the units.
  push_cast
  rw [magnitude, power, ← cancel]
  ring

end Integral

section Units

variable {mantissa other : Nat} {exponent place : ℤ} {count : Nat}

/-- Unless there are too many digits, the units are what the magnitude is rounded to. -/
theorem isRounded_unitsOf
    (few : hasTooManyDigits (Binary.ratio mantissa exponent).1 (Binary.ratio mantissa exponent).2
      count = false) :
    IsRounded (unitsOf (Binary.ratio mantissa exponent).1 (Binary.ratio mantissa exponent).2 count)
      (magnitude mantissa exponent * 10 ^ min count usefulPlaces) := by
  -- Moving the point turns the fraction into the ratio that the places ask for.
  have rounded := isRounded_roundHalfEven
    ((Binary.ratio mantissa exponent).1 * 10 ^ min count usefulPlaces)
    (Binary.ratio_pos mantissa exponent)
  have scaled : (((Binary.ratio mantissa exponent).1 * 10 ^ min count usefulPlaces : ℕ) : ℚ) /
      (Binary.ratio mantissa exponent).2 = magnitude mantissa exponent * 10 ^ min count usefulPlaces := by
    rw [magnitude, ← Binary.ratio_eq]
    push_cast
    ring
  rw [unitsOf, few, ← scaled]
  exact rounded

/-- The whole part of the ratio of a double is that of its magnitude. -/
theorem ratio_div_eq_floor (mantissa : Nat) (exponent : ℤ) :
    (Binary.ratio mantissa exponent).1 / (Binary.ratio mantissa exponent).2 =
      ⌊magnitude mantissa exponent⌋₊ := by
  -- Division of natural numbers rounds down.
  rw [magnitude, ← Binary.ratio_eq, Nat.floor_div_eq_div]

/-- Doubles of the same magnitude have too many digits together. -/
theorem hasTooManyDigits_congr (same : magnitude mantissa exponent = magnitude other place)
    (count : Nat) :
    hasTooManyDigits (Binary.ratio mantissa exponent).1 (Binary.ratio mantissa exponent).2 count =
      hasTooManyDigits (Binary.ratio other place).1 (Binary.ratio other place).2 count := by
  -- Only the whole part is looked at, and it does not depend on how a double is written.
  unfold hasTooManyDigits
  rw [ratio_div_eq_floor, ratio_div_eq_floor, same]

/-- A double that is no integer has few digits before the point, so that many places are left. -/
theorem hasTooManyDigits_of_isBroken (canonical : IsCanonical mantissa exponent)
    (broken : IsBroken mantissa exponent) (room : count ≤ usefulPlaces) :
    hasTooManyDigits (Binary.ratio mantissa exponent).1 (Binary.ratio mantissa exponent).2 count =
      false := by
  -- Below the power of two of the last lemma there are at most sixteen digits.
  have small : ⌊magnitude mantissa exponent⌋₊ < 10 ^ 16 := by
    rw [Nat.floor_lt (magnitude_nonneg _ _)]
    refine (canonical.lt_of_isBroken broken).trans ?_
    norm_num
  have length := length_toString_le (by decide) small
  -- A number below a power of ten has no more digits than its exponent.
  rw [String.length_toList] at length
  simp only [usefulPlaces] at room
  unfold hasTooManyDigits
  rw [ratio_div_eq_floor, Bool.and_eq_false_iff]
  refine .inr (decide_eq_false ?_)
  simp only [Places.maxCount]
  omega

/-- A double that is nearer to a number of units than another one is rounded to them as well. -/
theorem IsRounded.of_nearer {units : Nat} {v w : ℚ} {places : Nat}
    (rounded : IsRounded units (v * 10 ^ places))
    (nearer : |w - units / 10 ^ places| ≤ |v - units / 10 ^ places|) :
    IsRounded units (w * 10 ^ places) := by
  have power : (0 : ℚ) < 10 ^ places := by positivity
  -- Distances in units are distances times the power of ten.
  have scaled (x : ℚ) : |(units : ℚ) - x * 10 ^ places| = |x - units / 10 ^ places| * 10 ^ places := by
    rw [abs_sub_comm, ← abs_of_pos power, ← abs_mul, abs_of_pos power, sub_mul,
      div_mul_cancel₀ _ power.ne']
  have closer : |(units : ℚ) - w * 10 ^ places| ≤ |(units : ℚ) - v * 10 ^ places| := by
    rw [scaled, scaled]
    exact mul_le_mul_of_nonneg_right nearer power.le
  -- Half a unit away from the one, the units are half a unit away from the other.
  exact ⟨closer.trans rounded.near, fun tie =>
    rounded.even (le_antisymm rounded.near (tie.symm.trans_le closer))⟩

/-- The units of a double that is no integer denote no more than the largest double. -/
theorem IsRounded.div_le_largest {units places : Nat} (canonical : IsCanonical mantissa exponent)
    (broken : IsBroken mantissa exponent)
    (rounded : IsRounded units (magnitude mantissa exponent * 10 ^ places)) :
    (units / 10 ^ places : ℚ) ≤ largest := by
  have power : (0 : ℚ) < 10 ^ places := by positivity
  -- The double is below a power of two that stays one when it is written in units.
  have bound : units ≤ 2 ^ 53 * 10 ^ places := by
    apply rounded.le_of_le
    push_cast
    exact mul_le_mul_of_nonneg_right (canonical.lt_of_isBroken broken).le power.le
  have ratio : (units / 10 ^ places : ℚ) ≤ 2 ^ 53 := by
    rw [div_le_iff₀ power]
    exact_mod_cast bound
  have reached : IsCanonical (2 ^ 52) 1 := ⟨by decide, by decide, by decide, .inr le_rfl⟩
  refine ratio.trans (Eq.trans_le ?_ reached.magnitude_le)
  norm_num [magnitude]

/-- What has few digits before it has few digits behind it: the double nearest to the units
of another one, at the places asked for, has too many digits only where that one has. -/
theorem hasTooManyDigits_nearest (canonical : IsCanonical mantissa exponent)
    (few : hasTooManyDigits (Binary.ratio mantissa exponent).1 (Binary.ratio mantissa exponent).2
      count = false)
    (isNearest : IsNearest other place
      (unitsOf (Binary.ratio mantissa exponent).1 (Binary.ratio mantissa exponent).2 count /
        10 ^ min count usefulPlaces))
    (broken : IsBroken other place) :
    hasTooManyDigits (Binary.ratio other place).1 (Binary.ratio other place).2 count = false := by
  rcases le_or_gt count usefulPlaces with room | many
  · exact hasTooManyDigits_of_isBroken isNearest.canonical broken room
  · -- Behind the last useful place nothing is rounded, and the nearest double is the same.
    have useful : min count usefulPlaces = usefulPlaces := min_eq_right many.le
    obtain ⟨units, exact_units⟩ := canonical.exists_units
    have rounded := isRounded_unitsOf few
    rw [useful, exact_units] at rounded
    have same := rounded.unique (.self units)
    have value : (units : ℚ) / 10 ^ usefulPlaces = magnitude mantissa exponent := by
      rw [← exact_units, mul_div_assoc, div_self (by positivity), mul_one]
    rw [same, useful, value] at isNearest
    have nothing := isNearest.nearest canonical
    rw [sub_self, abs_zero, abs_nonpos_iff, sub_eq_zero] at nothing
    rw [hasTooManyDigits_congr nothing, few]

end Units

/-- A text that denotes some units, and that each double nearest to them is shown as. -/
def ShowsItself (asked : Places) (text : String) : Prop :=
  ∃ (negative : Bool) (units places : Nat), 0 < places ∧ (units / 10 ^ places : ℚ) ≤ largest ∧
    text = String.ofList (shownText negative units places) ∧
    ∀ mantissa exponent, IsNearest mantissa exponent (units / 10 ^ places) →
      (Binary.finite (negative && units != 0) mantissa exponent).display asked = .ok text

section Shown

variable {mantissa : Nat} {exponent : ℤ} {text : String}

/-- No units are shown as the zero that they are. -/
theorem showsItself_of_units_zero (negative : Bool) {places : Nat} (positive : 0 < places)
    (asked : Places) : ShowsItself asked (String.ofList (shownText negative 0 places)) := by
  -- Neither sign is shown in front of a zero, so both doubles of zero will do.
  refine ⟨negative, 0, places, positive, ?_, rfl, fun other place isNearest => ?_⟩
  · rw [Nat.cast_zero, zero_div]
    exact magnitude_nonneg _ _
  · -- The double nearest to zero is zero.
    have zero : IsCanonical 0 minExponent := ⟨by decide, le_refl _, by decide, .inl rfl⟩
    have nothing := isNearest.nearest zero
    have none : magnitude 0 minExponent = 0 := by simp [magnitude]
    rw [none, Nat.cast_zero, zero_div, sub_zero, sub_zero, abs_zero, abs_nonpos_iff] at nothing
    have whole : magnitude other place = (0 : ℕ) := by exact_mod_cast nothing
    rw [Binary.display_of_eq whole positive asked]
    simp [shownText]

/-- What is shown for an integer shows itself. -/
theorem showsItself_of_eq {n : Nat} (negative : Bool) (canonical : IsCanonical mantissa exponent)
    (whole : magnitude mantissa exponent = n) (asked : Places) :
    ShowsItself asked (String.ofList (shownText negative (n * 10 ^ 1) 1)) := by
  have value : ((n * 10 ^ 1 : ℕ) : ℚ) / 10 ^ 1 = n := by
    push_cast
    ring
  -- A zero has its own case, because its sign is not kept.
  rcases Nat.eq_zero_or_pos n with rfl | positive
  · exact showsItself_of_units_zero negative Nat.one_pos asked
  · refine ⟨negative, n * 10 ^ 1, 1, Nat.one_pos, ?_, rfl, fun other place isNearest => ?_⟩
    · rw [value, ← whole]
      exact canonical.magnitude_le
    · -- The double itself is at no distance, so the nearest one has its magnitude.
      rw [value] at isNearest
      have nothing := isNearest.nearest canonical
      rw [whole, sub_self, abs_zero, abs_nonpos_iff, sub_eq_zero] at nothing
      have sign : (negative && n * 10 ^ 1 != 0) = negative := by simp [positive.ne']
      rw [sign, Binary.display_of_eq nothing Nat.one_pos asked]

/-- What is shown for any other number shows itself. -/
theorem showsItself_of_isBroken {count : Nat} (negative : Bool)
    (canonical : IsCanonical mantissa exponent) (broken : IsBroken mantissa exponent)
    (positive : 0 < count) :
    ShowsItself (.count count) (String.ofList (shownText negative
      (unitsOf (Binary.ratio mantissa exponent).1 (Binary.ratio mantissa exponent).2 count)
      (min count usefulPlaces))) := by
  have useful : 0 < min count usefulPlaces := lt_min positive (by decide)
  -- The units are zero for one of two reasons, and otherwise they keep the sign.
  cases few : hasTooManyDigits (Binary.ratio mantissa exponent).1
    (Binary.ratio mantissa exponent).2 count with
  | true =>
    rw [unitsOf, few]
    exact showsItself_of_units_zero negative useful _
  | false =>
    have rounded := isRounded_unitsOf few
    have closed {other : Nat} {place : ℤ} := @hasTooManyDigits_nearest _ other _ place _ canonical few
    generalize unitsOf (Binary.ratio mantissa exponent).1 (Binary.ratio mantissa exponent).2 count =
      units at *
    rcases Nat.eq_zero_or_pos units with rfl | some
    · exact showsItself_of_units_zero negative useful _
    refine ⟨negative, units, min count usefulPlaces, useful, ?_, rfl, fun other place isNearest => ?_⟩
    · exact rounded.div_le_largest canonical broken
    · -- The double that was shown is not nearer to the units than the nearest one.
      have nearer := isNearest.nearest canonical
      have again := rounded.of_nearer nearer
      have sign : (negative && units != 0) = negative := by simp [some.ne']
      rw [sign]
      by_cases whole : ∃ n : Nat, magnitude other place = n
      · -- An integer is rounded to itself, so the units are those of the integer.
        obtain ⟨n, whole⟩ := whole
        have units_eq : units = n * 10 ^ min count usefulPlaces := by
          apply again.unique
          rw [whole]
          exact_mod_cast IsRounded.self (n * 10 ^ min count usefulPlaces)
        rw [Binary.display_of_eq whole useful, units_eq]
      · -- Any other double is rounded to the same units.
        have broken : IsBroken other place := not_exists.mp whole
        have same := (isRounded_unitsOf (closed isNearest broken)).unique again
        rw [Binary.display_of_isBroken broken positive, same]

end Shown

end DeskCalc.Number
