import DeskCalc.Number.Shortest
import DeskCalc.Proofs.Number.Bits
import DeskCalc.Proofs.Number.NearestDouble

/-! The interval of a double: every rational in it has the double as its nearest one. -/

namespace DeskCalc.Number

/-- A rational, in quarters of a last place, lies in an interval. -/
def Interval.Contains (interval : Interval) (x : ℚ) : Prop :=
  if interval.inclusive then (interval.low : ℚ) ≤ x ∧ x ≤ interval.high
  else (interval.low : ℚ) < x ∧ x < interval.high

section Around

variable {mantissa : Nat} {exponent : ℤ} {x : ℚ}

/-- The lower bound of an interval, which is nearer to a power of two. -/
theorem Interval.around_low (positive : 0 < mantissa) (exponent : ℤ) :
    ((Interval.around mantissa exponent).low : ℚ) = 4 * mantissa -
      if mantissa = 2 ^ 52 ∧ minExponent < exponent then 1 else 2 := by
  simp only [Interval.around, fractionBits, Bool.and_eq_true, beq_iff_eq, decide_eq_true_eq,
    gt_iff_lt]
  -- Four times the mantissa is enough to subtract from.
  split <;> rw [Nat.cast_sub (by omega)] <;> norm_num

/-- What lies in an interval lies between its bounds. -/
theorem Interval.Contains.bounds {interval : Interval} (inside : interval.Contains x) :
    (interval.low : ℚ) ≤ x ∧ x ≤ interval.high := by
  -- Whether the bounds are inside does not matter for this.
  unfold Interval.Contains at inside
  split at inside
  · exact inside
  · exact inside.imp le_of_lt le_of_lt

/-- A bound of the interval of a double lies in it only for an even mantissa. -/
theorem Interval.Contains.even (inside : (Interval.around mantissa exponent).Contains x)
    (bound : x = (Interval.around mantissa exponent).low ∨
      x = (Interval.around mantissa exponent).high) : mantissa % 2 = 0 := by
  -- For an odd one both bounds are outside.
  unfold Interval.Contains at inside
  split at inside
  · rename_i inclusive
    simpa [Interval.around] using inclusive
  · rcases bound with rfl | rfl
    · exact absurd inside.1 (lt_irrefl _)
    · exact absurd inside.2 (lt_irrefl _)

/-- What lies in the interval of a double is rounded to its mantissa. -/
theorem Interval.Contains.isRounded (positive : 0 < mantissa)
    (inside : (Interval.around mantissa exponent).Contains (4 * x)) : IsRounded mantissa x := by
  -- The upper bound is half a place away, and the lower one no more than that.
  obtain ⟨low, high⟩ := inside.bounds
  have even := inside.even
  have top : ((Interval.around mantissa exponent).high : ℚ) = 4 * mantissa + 2 := by
    simp [Interval.around]
  rw [Interval.around_low positive] at low even
  rw [top] at high even
  refine ⟨abs_le.mpr ⟨by linarith, ?_⟩, fun tie => ?_⟩
  · split at low <;> linarith
  · -- Half a place away is one of the bounds, unless the lower one is nearer.
    rcases eq_or_eq_neg_of_abs_eq tie with below | above
    · by_cases narrow : mantissa = 2 ^ 52 ∧ minExponent < exponent
      · rw [if_pos narrow] at low
        linarith
      · rw [if_neg narrow] at even
        exact even (.inl (by linarith))
    · exact even (.inr (by linarith))

end Around

section Place

variable {numerator denominator : Nat}

/-- The last place is the one in whose units a ratio has 53 bits, or the lowest one
where it has fewer. -/
theorem lastPlace_eq (positive : 0 < numerator) (divides : 0 < denominator) {place : ℤ}
    (lowest : minExponent ≤ place) (below : (numerator / denominator / 2 ^ place : ℚ) < 2 ^ 53)
    (leading : place = minExponent ∨ (2 : ℚ) ^ 52 ≤ numerator / denominator / 2 ^ place) :
    lastPlace numerator denominator = place := by
  -- The binade lies between the same powers of two as the ratio.
  have unit : (0 : ℚ) < 2 ^ place := by positivity
  have power (count : ℕ) : (2 : ℚ) ^ count * 2 ^ place = 2 ^ (count + place) := by
    rw [zpow_add₀ two_ne_zero, zpow_natCast]
  rw [div_lt_iff₀ unit, power] at below
  rw [le_div_iff₀ unit, power] at leading
  obtain ⟨low, high⟩ := binade_spec positive divides
  have atMost : binade numerator denominator < (53 : ℕ) + place :=
    (zpow_lt_zpow_iff_right₀ one_lt_two).mp (low.trans_lt below)
  simp only [lastPlace, fractionBits]
  rcases leading with rfl | reached
  · exact max_eq_right (by omega)
  · have atLeast : (52 : ℕ) + place < binade numerator denominator + 1 :=
      (zpow_lt_zpow_iff_right₀ one_lt_two).mp (reached.trans_lt high)
    rw [max_eq_left (by omega)]
    omega

/-- The bits nearest to a ratio that is rounded to a mantissa at its last place. -/
theorem nearestBits_eq_of_isRounded (positive : 0 < numerator) (divides : 0 < denominator)
    {place : ℕ} {mantissa : Nat}
    (below : (numerator / denominator / 2 ^ (place + minExponent) : ℚ) < 2 ^ 53)
    (leading : place = 0 ∨
      (2 : ℚ) ^ 52 ≤ numerator / denominator / 2 ^ (place + minExponent))
    (rounded : IsRounded mantissa (numerator / denominator / 2 ^ (place + minExponent)))
    (inside : place * 2 ^ 52 + mantissa ≤ infinityBits) :
    nearestBits numerator denominator = place * 2 ^ 52 + mantissa := by
  -- There is one way to round, and the bits do not reach their limit.
  have last := lastPlace_eq positive divides (by omega) below
    (leading.imp_left fun lowest => by simp [lowest])
  have same := (isRounded_at numerator divides (place + minExponent)).unique rounded
  rw [nearestBits, if_neg (by simpa using positive.ne'), last]
  simp only [same, fractionBits, add_sub_cancel_right, Int.toNat_natCast]
  exact min_eq_left inside

/-- Below a power of two the last place is one lower: a ratio is rounded up to the power from
a quarter of the higher place. -/
theorem nearestBits_below_power (positive : 0 < numerator) (divides : 0 < denominator) {place : ℕ}
    (near : (2 : ℚ) ^ 52 - 1 / 4 ≤ numerator / denominator / 2 ^ ((place + 1 : ℕ) + minExponent))
    (less : (numerator / denominator / 2 ^ ((place + 1 : ℕ) + minExponent) : ℚ) < 2 ^ 52)
    (inside : (place + 1) * 2 ^ 52 + 2 ^ 52 ≤ infinityBits) :
    nearestBits numerator denominator = (place + 1) * 2 ^ 52 + 2 ^ 52 := by
  -- At the lower place the ratio is twice as many units, and the power has one more bit.
  have twice : (numerator / denominator / 2 ^ (place + minExponent) : ℚ) =
      2 * (numerator / denominator / 2 ^ ((place + 1 : ℕ) + minExponent)) := by
    rw [show ((place + 1 : ℕ) : ℤ) + minExponent = 1 + (place + minExponent) by push_cast; ring,
      zpow_one_add₀ two_ne_zero]
    field_simp
  have carried : (place + 1) * 2 ^ 52 + 2 ^ 52 = place * 2 ^ 52 + 2 ^ 53 := by ring
  have wide : ((2 ^ 53 : ℕ) : ℚ) = 2 * 2 ^ 52 := by norm_num
  rw [carried] at inside ⊢
  generalize (numerator / denominator / 2 ^ ((place + 1 : ℕ) + minExponent) : ℚ) = units at *
  refine nearestBits_eq_of_isRounded positive divides ?_ (.inr ?_) ⟨?_, ?_⟩ inside
  · rw [twice]
    linarith
  · rw [twice]
    linarith
  · rw [twice, wide]
    exact abs_le.mpr ⟨by linarith, by linarith⟩
  · -- The power is even.
    exact fun _ => by decide

/-- A ratio in the interval of a double has the bits of the double as its nearest ones. -/
theorem nearestBits_of_contains {place mantissa : Nat} (positive : 0 < mantissa)
    (canonical : IsCanonical mantissa (place + minExponent)) (divides : 0 < denominator)
    (inside : (Interval.around mantissa (place + minExponent)).Contains
      (4 * (numerator / denominator / 2 ^ (place + minExponent)))) :
    nearestBits numerator denominator = place * 2 ^ 52 + mantissa := by
  have rounded := inside.isRounded positive
  obtain ⟨low, high⟩ := abs_le.mp rounded.near
  have small := canonical.mantissa_lt
  have highest := canonical.exponent_le
  have atLeast : (1 : ℚ) ≤ mantissa := by exact_mod_cast positive
  have fits : (mantissa : ℚ) + 1 ≤ 2 ^ 53 := by exact_mod_cast small
  have bound : place * 2 ^ 52 + mantissa ≤ infinityBits := by
    simp only [minExponent] at highest
    simp only [infinityBits, fractionBits]
    omega
  have some : 0 < numerator := by
    -- Half a place below a positive mantissa there is something left.
    refine Nat.pos_of_ne_zero fun none => ?_
    rw [none, Nat.cast_zero, zero_div, zero_div] at high
    linarith
  by_cases dense : place ≠ 0 ∧ (numerator / denominator / 2 ^ (place + minExponent) : ℚ) < 2 ^ 52
  · -- From any other mantissa than the least one half a place does not lead below the power.
    obtain ⟨more, less⟩ := dense
    obtain ⟨before, rfl⟩ := Nat.exists_eq_succ_of_ne_zero more
    have reached : 2 ^ 52 ≤ mantissa :=
      canonical.leading.resolve_left (by simp only [minExponent]; omega)
    have next : mantissa < 2 ^ 52 + 1 := by
      have : (mantissa : ℚ) < 2 ^ 52 + 1 := by linarith
      exact_mod_cast this
    obtain rfl : mantissa = 2 ^ 52 := by omega
    have lowest := inside.bounds.1
    rw [Interval.around_low positive, if_pos ⟨rfl, by push_cast; omega⟩] at lowest
    push_cast at lowest
    exact nearestBits_below_power some divides (by push_cast; linarith) less bound
  · refine nearestBits_eq_of_isRounded some divides (by linarith) ?_ rounded bound
    by_cases lowest : place = 0
    · exact .inl lowest
    · exact .inr (not_lt.mp fun less => dense ⟨lowest, less⟩)

end Place

/-- What is rounded to the mantissa of a positive double is neither below half of the least one
nor above the largest one by more than half a place. -/
theorem IsCanonical.range {mantissa : Nat} {exponent : ℤ} {x : ℚ}
    (canonical : IsCanonical mantissa exponent) (positive : 0 < mantissa)
    (rounded : IsRounded mantissa (x / 2 ^ exponent)) :
    (2 : ℚ) ^ (-1075 : ℤ) ≤ x ∧ x < 2 ^ (1024 : ℤ) := by
  -- The mantissa lies between one and 53 bits, and the exponent between its own bounds.
  have unit : (0 : ℚ) < 2 ^ exponent := by positivity
  obtain ⟨low, high⟩ := abs_le.mp rounded.near
  have atLeast : (1 : ℚ) ≤ mantissa := by exact_mod_cast positive
  have atMost : (mantissa : ℚ) + 1 ≤ 2 ^ 53 := by exact_mod_cast canonical.mantissa_lt
  have lowest := canonical.exponent_ge
  constructor
  · calc (2 : ℚ) ^ (-1075 : ℤ) ≤ 2 ^ (-1 + exponent) :=
          zpow_le_zpow_right₀ (by norm_num) (by simp only [minExponent] at lowest; omega)
      _ = 1 / 2 * 2 ^ exponent := by
          rw [zpow_add₀ two_ne_zero]
          norm_num
      _ ≤ x := (le_div_iff₀ unit).mp (by linarith)
  · calc x < 2 ^ (53 : ℕ) * 2 ^ exponent := (div_lt_iff₀ unit).mp (by linarith)
      _ = 2 ^ (53 + exponent) := by
          rw [zpow_add₀ two_ne_zero]
          norm_num
      _ ≤ 2 ^ (1024 : ℤ) := zpow_le_zpow_right₀ (by norm_num) (by
          have := canonical.exponent_le
          omega)

/-- A power of ten below half of the least double. -/
theorem ten_pow_lt_least : (10 : ℚ) ^ (-325 : ℤ) < 2 ^ (-1075 : ℤ) := by
  -- Thirteen decimal digits are more than 43 bits.
  have powers : (2 : ℚ) ^ 1075 < 10 ^ 325 :=
    calc (2 : ℚ) ^ 1075 = (2 ^ 43) ^ 25 := by rw [← pow_mul]
      _ < (10 ^ 13) ^ 25 := pow_lt_pow_left₀ (by norm_num) (by norm_num) (by decide)
      _ = 10 ^ 325 := by rw [← pow_mul]
  rw [zpow_neg, zpow_neg]
  exact inv_strictAnti₀ (by positivity) powers

/-- A power of ten above the largest double. -/
theorem largest_lt_ten_pow : (2 : ℚ) ^ (1024 : ℤ) < 10 ^ (310 : ℤ) :=
  calc (2 : ℚ) ^ (1024 : ℤ) < 2 ^ (1025 : ℤ) := zpow_lt_zpow_right₀ (by norm_num) (by decide)
    _ = (2 ^ (205 : ℤ)) ^ (5 : ℤ) := by rw [← zpow_mul]; rfl
    _ < (10 ^ (62 : ℤ)) ^ (5 : ℤ) := zpow_lt_zpow_left₀ (by positivity) (by norm_num) (by decide)
    _ = 10 ^ (310 : ℤ) := by rw [← zpow_mul]; rfl

section Nearest

variable {value : Float} {negative : Bool} {mantissa : Nat} {exponent : ℤ}

/-- Zero is the double nearest to nothing. -/
theorem nearest_zero_eq (finite : Binary.ofFloat value = .finite negative 0 exponent) :
    nearest negative 0 1 = value := by
  -- A mantissa of zero has no leading bit, so it has the lowest exponent.
  obtain ⟨place, rfl, same⟩ := eq_ofBits_of_ofFloat finite
  have canonical := isCanonical_of_ofFloat finite
  have lowest : place = 0 := by
    have := canonical.leading
    omega
  rw [same, lowest]
  rfl

/-- A double is the one nearest to every ratio in its interval. -/
theorem nearest_eq_of_contains (finite : Binary.ofFloat value = .finite negative mantissa exponent)
    (positive : 0 < mantissa) {numerator denominator : Nat} (divides : 0 < denominator)
    (inside : (Interval.around mantissa exponent).Contains
      (4 * (numerator / denominator / 2 ^ exponent))) :
    nearest negative numerator denominator = value := by
  -- Both have the same sign and the same bits below it.
  obtain ⟨place, rfl, same⟩ := eq_ofBits_of_ofFloat finite
  have canonical := isCanonical_of_ofFloat finite
  rw [same, nearest, nearestBits_of_contains positive canonical divides inside]
  rfl

/-- A double is the one nearest to every decimal in its interval. -/
theorem nearestDecimal_eq_of_contains
    (finite : Binary.ofFloat value = .finite negative mantissa exponent) (positive : 0 < mantissa)
    {coefficient width : Nat} {power : ℤ} (short : coefficient < 10 ^ width)
    (inside : (Interval.around mantissa exponent).Contains
      (4 * (coefficient * 10 ^ power / 2 ^ exponent))) :
    nearestDecimal negative coefficient width power = value := by
  obtain ⟨low, high⟩ := (isCanonical_of_ofFloat finite).range positive (inside.isRounded positive)
  have ten : (0 : ℚ) < 10 ^ power := by positivity
  have some : 0 < coefficient := by
    refine Nat.pos_of_ne_zero fun none => ?_
    rw [none, Nat.cast_zero, zero_mul] at low
    exact absurd low (not_le.mpr (by positivity))
  -- A decimal that is nearest to zero is below the least double.
  have notUnder : ¬ power + width < underflowExponent := by
    intro under
    have bound : (coefficient : ℚ) < 10 ^ width := by exact_mod_cast short
    have tiny : (coefficient : ℚ) * 10 ^ power < 2 ^ (-1075 : ℤ) :=
      calc (coefficient : ℚ) * 10 ^ power < 10 ^ width * 10 ^ power := by gcongr
        _ = 10 ^ (power + width) := by rw [zpow_add₀ (by norm_num), zpow_natCast, mul_comm]
        _ ≤ 10 ^ (-325 : ℤ) := zpow_le_zpow_right₀ (by norm_num) (by
            simp only [underflowExponent] at under
            omega)
        _ < 2 ^ (-1075 : ℤ) := ten_pow_lt_least
    exact absurd low (not_le.mpr tiny)
  -- One that is infinite is above the largest double.
  have notOver : ¬ power > overflowExponent := by
    intro beyond
    have atLeast : (1 : ℚ) ≤ coefficient := by exact_mod_cast some
    have huge : (2 : ℚ) ^ (1024 : ℤ) < coefficient * 10 ^ power :=
      calc (2 : ℚ) ^ (1024 : ℤ) < 10 ^ (310 : ℤ) := largest_lt_ten_pow
        _ ≤ 10 ^ power := zpow_le_zpow_right₀ (by norm_num) (by
            simp only [overflowExponent] at beyond
            omega)
        _ ≤ coefficient * 10 ^ power := le_mul_of_one_le_left ten.le atLeast
    exact absurd high (not_lt.mpr huge.le)
  rw [nearestDecimal, if_neg (by simpa [some.ne'] using notUnder), if_neg notOver]
  refine nearest_eq_of_contains finite positive (Nat.pow_pos (by decide)) ?_
  have ratio : ((coefficient * 10 ^ power.toNat : ℕ) : ℚ) / (10 ^ (-power).toNat : ℕ) =
      coefficient * 10 ^ power := by
    rw [← pow_toNat_div 10 power]
    push_cast
    rw [mul_div_assoc]
  rwa [ratio]

end Nearest

end DeskCalc.Number
