import DeskCalc.Proofs.Number.Double

/-! The double nearest to a ratio is one: no other double is nearer. -/

namespace DeskCalc.Number

/-- The rational that a mantissa and an exponent denote. -/
def magnitude (mantissa : Nat) (exponent : ℤ) : ℚ :=
  mantissa * 2 ^ exponent

theorem magnitude_nonneg (mantissa : Nat) (exponent : ℤ) : 0 ≤ magnitude mantissa exponent := by
  -- Neither factor can be negative.
  unfold magnitude
  positivity

/-- A power of two as a mantissa raises the exponent. -/
theorem magnitude_two_pow (count : Nat) (exponent : ℤ) :
    magnitude (2 ^ count) exponent = 2 ^ (exponent + count) := by
  -- Both sides are one product of powers, taken in the other order.
  unfold magnitude
  rw [zpow_add₀ two_ne_zero, zpow_natCast, mul_comm]
  push_cast
  rfl

/-- A double that no other one is nearer to a rational than. -/
structure IsNearest (mantissa : Nat) (exponent : ℤ) (x : ℚ) : Prop where
  canonical : IsCanonical mantissa exponent
  nearest {other : Nat} {place : ℤ} : IsCanonical other place →
    |magnitude mantissa exponent - x| ≤ |magnitude other place - x|

/-- The largest finite double. -/
def largest : ℚ :=
  magnitude (2 ^ 53 - 1) 971

/-- The largest double is less than the next power of two. -/
theorem largest_lt : largest < 2 ^ (1024 : ℤ) := by
  -- The mantissa falls short of its power of two, and the exponents of the two powers add up.
  have split : (2 : ℚ) ^ (1024 : ℤ) = 2 ^ (53 : ℤ) * 2 ^ (971 : ℤ) := by
    rw [← zpow_add₀ two_ne_zero]
    rfl
  rw [largest, magnitude, split]
  gcongr
  norm_num

/-- A positive number lies between the powers of two around its logarithm. -/
theorem two_pow_log2 {n : Nat} (positive : 0 < n) :
    (2 : ℚ) ^ (n.log2 : ℤ) ≤ n ∧ (n : ℚ) < 2 ^ ((n.log2 : ℤ) + 1) := by
  constructor
  · -- The logarithm is rounded down, so its power of two does not exceed the number.
    rw [zpow_natCast]
    exact_mod_cast Nat.log2_self_le positive.ne'
  · -- One more in the exponent exceeds it.
    have above := @Nat.lt_log2_self n
    rw [← Nat.cast_succ, zpow_natCast]
    exact_mod_cast above

section Ratio

variable {numerator denominator : Nat}

/-- The logarithms of a ratio tell its exponent but for one. -/
theorem ratio_bounds (positive : 0 < numerator) (divides : 0 < denominator) :
    (2 : ℚ) ^ ((numerator.log2 : ℤ) - denominator.log2 - 1) ≤ numerator / denominator ∧
      (numerator / denominator : ℚ) < 2 ^ ((numerator.log2 : ℤ) - denominator.log2 + 1) := by
  obtain ⟨numeratorLow, numeratorHigh⟩ := two_pow_log2 positive
  obtain ⟨denominatorLow, denominatorHigh⟩ := two_pow_log2 divides
  have dividesRat : (0 : ℚ) < denominator := by exact_mod_cast divides
  constructor
  · -- The ratio is least when its denominator reaches the next power of two.
    rw [le_div_iff₀ dividesRat]
    calc (2 : ℚ) ^ ((numerator.log2 : ℤ) - denominator.log2 - 1) * denominator
        ≤ 2 ^ ((numerator.log2 : ℤ) - denominator.log2 - 1) * 2 ^ ((denominator.log2 : ℤ) + 1) := by
          gcongr
      _ = 2 ^ (numerator.log2 : ℤ) := by
          rw [← zpow_add₀ two_ne_zero]
          congr 1
          ring
      _ ≤ numerator := numeratorLow
  · -- The ratio is greatest when its numerator reaches the next power of two.
    rw [div_lt_iff₀ dividesRat]
    calc (numerator : ℚ) < 2 ^ ((numerator.log2 : ℤ) + 1) := numeratorHigh
      _ = 2 ^ ((numerator.log2 : ℤ) - denominator.log2 + 1) * 2 ^ (denominator.log2 : ℤ) := by
          rw [← zpow_add₀ two_ne_zero]
          congr 1
          ring
      _ ≤ 2 ^ ((numerator.log2 : ℤ) - denominator.log2 + 1) * denominator := by
          gcongr

/-- A ratio is compared with a power of two without any fractions. -/
theorem ratio_lt_two_pow_iff (divides : 0 < denominator) (exponent : ℤ) :
    numerator * 2 ^ (-exponent).toNat < denominator * 2 ^ exponent.toNat ↔
      (numerator / denominator : ℚ) < 2 ^ exponent := by
  -- The power goes to the numerator or to the denominator of the other side.
  have dividesRat : (0 : ℚ) < denominator := by exact_mod_cast divides
  rw [← two_pow_toNat_div, div_lt_div_iff₀ dividesRat (by positivity), mul_comm (2 ^ _)]
  exact_mod_cast Iff.rfl

/-- The powers of two around a ratio. -/
theorem binade_spec (positive : 0 < numerator) (divides : 0 < denominator) :
    (2 : ℚ) ^ binade numerator denominator ≤ numerator / denominator ∧
      (numerator / denominator : ℚ) < 2 ^ (binade numerator denominator + 1) := by
  obtain ⟨low, high⟩ := ratio_bounds positive divides
  -- Two exponents are left by the logarithms, and a comparison decides between them.
  unfold binade
  simp only [ratio_lt_two_pow_iff divides]
  split
  · -- The lower of the two exponents starts where the logarithms put it.
    rename_i below
    exact ⟨low, by rwa [sub_add_cancel]⟩
  · -- The higher one is taken only when the ratio has reached its power.
    rename_i above
    exact ⟨not_lt.mp above, high⟩

end Ratio

/-- The last place of a double near a ratio, between that of the smallest and of the largest one. -/
theorem lastPlace_spec {numerator denominator : Nat} (positive : 0 < numerator)
    (divides : 0 < denominator) (bound : (numerator / denominator : ℚ) ≤ largest) :
    minExponent ≤ lastPlace numerator denominator ∧ lastPlace numerator denominator ≤ 971 ∧
      (numerator / denominator : ℚ) < 2 ^ (lastPlace numerator denominator + 53) ∧
      (lastPlace numerator denominator = minExponent ∨
        (2 : ℚ) ^ (lastPlace numerator denominator + 52) ≤ numerator / denominator) := by
  obtain ⟨low, high⟩ := binade_spec positive divides
  -- A binade above 1023 would start beyond the largest double.
  have room : binade numerator denominator < 1024 := by
    have below : (2 : ℚ) ^ binade numerator denominator < 2 ^ (1024 : ℤ) :=
      low.trans_lt (bound.trans_lt largest_lt)
    exact (zpow_lt_zpow_iff_right₀ (by norm_num)).mp below
  simp only [lastPlace, fractionBits, minExponent]
  refine ⟨le_max_right _ _, by omega, high.trans_le ?_, ?_⟩
  · -- The last place is at least 52 below the binade, so 53 above it the binade has ended.
    exact zpow_le_zpow_right₀ (by norm_num) (by omega)
  · rcases le_total (-1074) (binade numerator denominator - (52 : ℕ)) with above | below
    · -- In the normal range the leading bit of the mantissa is that of the ratio.
      right
      rw [max_eq_left above]
      exact (zpow_le_zpow_right₀ (by norm_num) (by omega)).trans low
    · -- Below it the place stays at that of the smallest double.
      exact .inl (max_eq_right below)

/-- The mantissa of a ratio at a place is what the ratio is rounded to in units of that place. -/
theorem isRounded_at (numerator : Nat) {denominator : Nat} (divides : 0 < denominator) (place : ℤ) :
    IsRounded (roundHalfEven (numerator * 2 ^ (-place).toNat) (denominator * 2 ^ place.toNat))
      (numerator / denominator / 2 ^ place) := by
  -- The powers that make the numerator and the denominator integral are those of the place.
  have rounded := isRounded_roundHalfEven (numerator * 2 ^ (-place).toNat)
    (Nat.mul_pos divides (Nat.two_pow_pos place.toNat))
  have scaled : ((numerator * 2 ^ (-place).toNat : ℕ) : ℚ) / (denominator * 2 ^ place.toNat : ℕ) =
      numerator / denominator / 2 ^ place := by
    rw [← two_pow_toNat_div]
    push_cast
    field_simp
  rwa [scaled] at rounded

/-- A rounded mantissa denotes a double that no other one is nearer than. -/
theorem IsRounded.nearest_magnitude {mantissa : Nat} {r : ℚ} {place : ℤ}
    (rounded : IsRounded mantissa (r / 2 ^ place))
    (leading : place = minExponent ∨ (2 : ℚ) ^ (place + 52) ≤ r) {other : Nat} {exponent : ℤ}
    (canonical : IsCanonical other exponent) :
    |magnitude mantissa place - r| ≤ |magnitude other exponent - r| := by
  have unit : (0 : ℚ) < 2 ^ place := by positivity
  -- Among the multiples of the last place the rounded one is nearest.
  have grid (multiple : Nat) : |magnitude mantissa place - r| ≤ |magnitude multiple place - r| := by
    have scaled (n : Nat) : |magnitude n place - r| = |(n : ℚ) - r / 2 ^ place| * 2 ^ place := by
      rw [← abs_of_pos unit, ← abs_mul, abs_of_pos unit, sub_mul, div_mul_cancel₀ _ unit.ne']
      rfl
    rw [scaled, scaled]
    exact mul_le_mul_of_nonneg_right (rounded.nearest multiple) unit.le
  rcases le_or_gt place exponent with coarse | fine
  · -- A double with a higher last place is a multiple of this one.
    obtain ⟨more, rfl⟩ := Int.le.dest coarse
    have same : magnitude other (place + more) = magnitude (other * 2 ^ more) place := by
      unfold magnitude
      rw [zpow_add₀ two_ne_zero, zpow_natCast]
      push_cast
      ring
    rw [same]
    exact grid _
  · -- A double with a lower last place is less than the power of two below the ratio.
    have low : (2 : ℚ) ^ (place + 52) ≤ r := by
      rcases leading with lowest | low
      · have := canonical.exponent_ge
        omega
      · exact low
    have power : magnitude (2 ^ 52) place = 2 ^ (place + 52) := magnitude_two_pow 52 place
    have less : magnitude other exponent ≤ 2 ^ (place + 52) := by
      calc magnitude other exponent ≤ 2 ^ (53 : ℤ) * 2 ^ exponent := by
            unfold magnitude
            gcongr
            have := canonical.mantissa_lt
            norm_cast
            omega
        _ = 2 ^ (53 + exponent) := (zpow_add₀ two_ne_zero _ _).symm
        _ ≤ 2 ^ (place + 52) := zpow_le_zpow_right₀ (by norm_num) (by omega)
    refine (grid (2 ^ 52)).trans ?_
    rw [power, abs_of_nonpos (by linarith), abs_of_nonpos (by linarith)]
    linarith

/-- The mantissa of a ratio at its last place has 53 bits, or is rounded up to one more. -/
theorem IsRounded.mantissa_bounds {mantissa : Nat} {r : ℚ} {place : ℤ}
    (rounded : IsRounded mantissa (r / 2 ^ place)) (below : r < 2 ^ (place + 53))
    (leading : place = minExponent ∨ (2 : ℚ) ^ (place + 52) ≤ r) :
    mantissa ≤ 2 ^ 53 ∧ (place = minExponent ∨ 2 ^ 52 ≤ mantissa) := by
  -- Powers of two are integers, and rounding does not pass an integer.
  have unit : (0 : ℚ) < 2 ^ place := by positivity
  constructor
  · apply rounded.le_of_le
    rw [div_le_iff₀ unit]
    exact below.le.trans_eq (magnitude_two_pow 53 place).symm
  · refine leading.imp_right fun low => rounded.ge_of_ge ?_
    rw [le_div_iff₀ unit]
    exact (magnitude_two_pow 52 place).trans_le low

/-- At the highest place no mantissa is rounded up beyond the largest double. -/
theorem IsRounded.mantissa_lt_of_le_largest {mantissa : Nat} {r : ℚ}
    (rounded : IsRounded mantissa (r / 2 ^ (971 : ℤ))) (bound : r ≤ largest) :
    mantissa < 2 ^ 53 := by
  -- The largest mantissa is an integer too.
  have short : mantissa ≤ 2 ^ 53 - 1 := by
    apply rounded.le_of_le
    rw [div_le_iff₀ (by positivity)]
    refine bound.trans_eq ?_
    norm_num [largest, magnitude]
  omega

/-- The bits of a place and a mantissa, which may be rounded up to one more bit,
are those of a double of their magnitude. -/
theorem ofBits_rounded {place mantissa : Nat} (negative : Bool) (highest : place ≤ 2045)
    (small : mantissa ≤ 2 ^ 53) (leading : place = 0 ∨ 2 ^ 52 ≤ mantissa)
    (short : place = 2045 → mantissa < 2 ^ 53) :
    place * 2 ^ 52 + mantissa < infinityBits ∧ ∃ found exponent,
      Binary.ofBits (signBits negative + (place * 2 ^ 52 + mantissa)) =
        .finite negative found exponent ∧
      magnitude found exponent = magnitude mantissa (place + minExponent) := by
  -- The place and the mantissa are carried into the exponent field, which stays below infinity.
  have inside : place * 2 ^ 52 + mantissa < infinityBits := by
    simp only [infinityBits, fractionBits]
    omega
  refine ⟨inside, ?_⟩
  rcases small.lt_or_eq with fits | rfl
  · -- A mantissa of 53 bits shares its leading bit with the place.
    exact ⟨_, _, ofBits_place negative highest fits leading, rfl⟩
  · -- The double with one more place has half the mantissa.
    refine ⟨_, _, ofBits_carry negative (by omega), ?_⟩
    unfold magnitude
    rw [show (place : ℤ) + 1 + minExponent = 1 + (place + minExponent) by ring,
      zpow_add₀ two_ne_zero]
    norm_num
    ring

/-- The nearest bits are those of a double that no other one is nearer than. -/
theorem ofBits_nearestBits (negative : Bool) (numerator : Nat) {denominator : Nat}
    (divides : 0 < denominator) (bound : (numerator / denominator : ℚ) ≤ largest) :
    nearestBits numerator denominator < infinityBits ∧ ∃ mantissa exponent,
      Binary.ofBits (signBits negative + nearestBits numerator denominator) =
        .finite negative mantissa exponent ∧
      IsNearest mantissa exponent (numerator / denominator) := by
  rcases Nat.eq_zero_or_pos numerator with rfl | positive
  · -- Nothing is nearer to zero than zero.
    have zero := @ofBits_place 0 0 negative (by decide) (by decide) (.inl rfl)
    refine ⟨by simp [nearestBits, infinityBits, fractionBits], 0, minExponent, ?_, ?_, ?_⟩
    · simpa [nearestBits] using zero
    · exact isCanonical_of_ofBits (by simpa using zero)
    · intro other place _
      simpa [magnitude] using magnitude_nonneg other place
  · obtain ⟨lowest, highest, below, leading⟩ := lastPlace_spec positive divides bound
    have rounded := isRounded_at numerator divides (lastPlace numerator denominator)
    -- A positive ratio is written as its mantissa above the bits of its place.
    have bits_eq : nearestBits numerator denominator = min
        ((lastPlace numerator denominator - minExponent).toNat * 2 ^ fractionBits +
          roundHalfEven (numerator * 2 ^ (-lastPlace numerator denominator).toNat)
            (denominator * 2 ^ (lastPlace numerator denominator).toNat)) infinityBits := by
      rw [nearestBits, if_neg (by simpa using positive.ne')]
    generalize lastPlace numerator denominator = place at *
    generalize roundHalfEven (numerator * 2 ^ (-place).toNat) (denominator * 2 ^ place.toNat) =
      mantissa at *
    obtain ⟨small, large⟩ := rounded.mantissa_bounds below leading
    -- Places are counted from the smallest one.
    obtain ⟨count, rfl⟩ : ∃ count : ℕ, place = count + minExponent :=
      ⟨(place - minExponent).toNat, by omega⟩
    simp only [fractionBits, add_sub_cancel_right, Int.toNat_natCast] at bits_eq
    -- Only at the highest place could rounding up reach infinity.
    have short : count = 2045 → mantissa < 2 ^ 53 := by
      intro same
      subst same
      exact rounded.mantissa_lt_of_le_largest bound
    obtain ⟨inside, found, exponent, taken, same⟩ := ofBits_rounded negative
      (by simp only [minExponent] at highest; omega) small (large.imp_left (by omega)) short
    -- The limit on the bits is not reached, so they are those of the rounded mantissa.
    rw [bits_eq, min_eq_left inside.le]
    refine ⟨inside, found, exponent, taken, isCanonical_of_ofBits taken, fun canonical => ?_⟩
    rw [same]
    exact rounded.nearest_magnitude leading canonical

/-- No double is nearer to a ratio than the one that is called nearest. -/
theorem ofFloat_nearest (negative : Bool) (numerator : Nat) {denominator : Nat}
    (divides : 0 < denominator) (bound : (numerator / denominator : ℚ) ≤ largest) :
    ∃ mantissa exponent, Binary.ofFloat (nearest negative numerator denominator) =
      .finite negative mantissa exponent ∧ IsNearest mantissa exponent (numerator / denominator) := by
  -- The double keeps these bits through its own packing, since they are below those of infinity.
  obtain ⟨inside, mantissa, exponent, taken, isNearest⟩ :=
    ofBits_nearestBits negative numerator divides bound
  refine ⟨mantissa, exponent, ?_, isNearest⟩
  rw [← taken]
  simp only [infinityBits, fractionBits] at inside
  apply Binary.ofFloat_ofBits
  · -- The bits of either sign fit in a word.
    cases negative <;> simp only [signBit, infinityBits, fractionBits, if_true, if_false,
      Bool.false_eq_true] <;> omega
  · -- Those of infinity and of no number are above them.
    cases negative <;> simp only [signBit, if_true, if_false, Bool.false_eq_true] <;> omega

/-- The nearest double changes its sign with the ratio. -/
theorem neg_nearest (numerator denominator : Nat) :
    -nearest false numerator denominator = nearest true numerator denominator := by
  -- The bits without the sign are limited by those of infinity.
  have bound : nearestBits numerator denominator ≤ infinityBits := by
    unfold nearestBits
    split
    · exact Nat.zero_le _
    · exact min_le_right _ _
  simpa [nearest] using neg_ofBits bound

end DeskCalc.Number
