import DeskCalc.Proofs.Number.DecimalText
import DeskCalc.Proofs.Number.Interval

/-! The shortest decimal of a double lies in the interval of the double: seventeen digits are
always enough for that, so the search for fewer digits ends with a decimal that reads back. -/

namespace DeskCalc.Number

section Grid

/-- A step of a grid in quarters of a last place. -/
theorem Grid.step_eq (place exponent : ℤ) :
    ((Grid.at place exponent).step : ℚ) =
      4 * (10 ^ place / 2 ^ exponent) * (Grid.at place exponent).quarter := by
  -- Both powers are split into a numerator and a denominator.
  have ten := pow_toNat_div 10 place
  have two := pow_toNat_div 2 (2 - exponent)
  rw [neg_sub, zpow_sub₀ two_ne_zero] at two
  rw [div_eq_iff (by positivity)] at ten two
  simp only [Grid.at]
  push_cast
  rw [ten, two]
  ring

/-- The unit of a grid is not zero. -/
theorem Grid.quarter_pos (place exponent : ℤ) : 0 < (Grid.at place exponent).quarter :=
  Nat.mul_pos (Nat.pow_pos (by decide)) (Nat.pow_pos (by decide))

/-- The step of a grid is not zero. -/
theorem Grid.step_pos (place exponent : ℤ) : 0 < (Grid.at place exponent).step :=
  Nat.mul_pos (Nat.pow_pos (by decide)) (Nat.pow_pos (by decide))

/-- A multiple of a grid reads back when it lies in the interval. -/
theorem Grid.readsBack_iff (place exponent : ℤ) (interval : Interval) (multiple : Nat) :
    (Grid.at place exponent).readsBack interval multiple = true ↔
      interval.Contains (4 * (multiple * 10 ^ place / 2 ^ exponent)) := by
  -- The bounds are compared in the common unit of the grid.
  have positive : (0 : ℚ) < (Grid.at place exponent).quarter := by
    exact_mod_cast Grid.quarter_pos place exponent
  have position : (4 * (multiple * 10 ^ place / 2 ^ exponent) : ℚ) =
      (multiple * (Grid.at place exponent).step : ℕ) / (Grid.at place exponent).quarter := by
    push_cast
    rw [Grid.step_eq]
    field_simp
  rw [position, Grid.readsBack, Interval.Contains]
  split
  · rw [le_div_iff₀ positive, div_le_iff₀ positive, Bool.and_eq_true, decide_eq_true_iff,
      decide_eq_true_iff]
    norm_cast
  · rw [lt_div_iff₀ positive, div_lt_iff₀ positive, Bool.and_eq_true, decide_eq_true_iff,
      decide_eq_true_iff]
    norm_cast

/-- The multiple that is chosen reads back. -/
theorem Grid.readsBack_of_nearest? {grid : Grid} {interval : Interval} {multiple : Nat}
    (chosen : grid.nearest? interval = some multiple) :
    grid.readsBack interval multiple = true := by
  simp only [Grid.nearest?] at chosen
  split at chosen
  · -- Where both do, either of them may be chosen.
    rename_i below above
    cases chosen
    split <;> assumption
  · cases chosen
    assumption
  · cases chosen
    assumption
  · cases chosen

/-- What lies strictly between the bounds reads back. -/
theorem Grid.readsBack_of_lt {grid : Grid} {interval : Interval} {multiple : Nat}
    (low : interval.low * grid.quarter < multiple * grid.step)
    (high : multiple * grid.step < interval.high * grid.quarter) :
    grid.readsBack interval multiple = true := by
  -- It does so whether the bounds are inside or not.
  unfold Grid.readsBack
  split <;> simp only [Bool.and_eq_true, decide_eq_true_iff]
  · exact ⟨low.le, high.le⟩
  · exact ⟨low, high⟩

/-- A grid with a step of less than twice the way to either bound has a multiple in between. -/
theorem Grid.exists_nearest? {grid : Grid} {interval : Interval} (positive : 0 < grid.step)
    (low : 2 * (interval.low * grid.quarter) + grid.step < 2 * (interval.value * grid.quarter))
    (high : 2 * (interval.value * grid.quarter) + grid.step < 2 * (interval.high * grid.quarter)) :
    ∃ multiple, grid.nearest? interval = some multiple := by
  -- Of the two multiples around the value one is no more than half a step away.
  have below := Nat.div_mul_le_self (interval.value * grid.quarter) grid.step
  have above := Nat.lt_mul_div_succ (interval.value * grid.quarter) positive
  rw [Nat.mul_comm grid.step] at above
  simp only [Grid.nearest?]
  generalize interval.value * grid.quarter = value at *
  generalize value / grid.step = multiple at *
  have next : (multiple + 1) * grid.step = multiple * grid.step + grid.step := Nat.succ_mul _ _
  have reads : grid.readsBack interval multiple = true ∨
      grid.readsBack interval (multiple + 1) = true := by
    rcases Nat.le_total (2 * value) (2 * (multiple * grid.step) + grid.step) with near | far
    · exact .inl (Grid.readsBack_of_lt (by omega) (by omega))
    · exact .inr (Grid.readsBack_of_lt (by omega) (by omega))
  split
  · exact ⟨_, rfl⟩
  · exact ⟨_, rfl⟩
  · exact ⟨_, rfl⟩
  · rename_i noBelow noAbove
    simp [noBelow, noAbove] at reads

end Grid

/-- The search ends with a decimal in the interval, if one of the grids that it tries has one. -/
theorem shortestFrom_contains {interval : Interval} {exponent top : ℤ} {limit count extra : Nat}
    (tried : extra < limit)
    (found : ∃ multiple, (Grid.at (top - (count + extra : ℕ)) exponent).nearest? interval =
      some multiple) :
    interval.Contains (4 * ((shortestFrom interval exponent top limit count).1 *
      10 ^ (shortestFrom interval exponent top limit count).2 / 2 ^ exponent)) := by
  -- Induction on the limit; each grid without a multiple leaves one digit less to go.
  induction limit generalizing count extra with
  | zero => exact absurd tried (Nat.not_lt_zero extra)
  | succ limit ih =>
    simp only [shortestFrom]
    split
    · rename_i multiple chosen
      exact (Grid.readsBack_iff _ _ _ _).mp (Grid.readsBack_of_nearest? chosen)
    · rename_i none
      cases extra with
      | zero =>
        obtain ⟨multiple, found⟩ := found
        simp [none] at found
      | succ extra =>
        refine ih (Nat.lt_of_succ_lt_succ tried) ?_
        rwa [Nat.add_right_comm, Nat.add_assoc]

/-- The zeros behind the point of a ratio below one are followed by another digit. -/
theorem zerosBehindPoint_spec {limit numerator denominator : Nat}
    (reached : denominator ≤ 10 ^ limit * numerator) :
    denominator ≤ 10 ^ (zerosBehindPoint limit numerator denominator + 1) * numerator := by
  -- Each zero that is counted multiplies the numerator by ten.
  induction limit generalizing numerator with
  | zero =>
    rw [zerosBehindPoint]
    omega
  | succ limit ih =>
    rw [zerosBehindPoint]
    split
    · have more := @ih (10 * numerator) (by rw [pow_succ] at reached; linarith)
      rw [pow_succ]
      linarith
    · omega

/-- A positive number has its first digit at the power of ten that counts the others. -/
theorem pow_length_toString_le {n : Nat} (positive : 0 < n) :
    10 ^ ((toString n).toList.length - 1) ≤ n := by
  -- A single digit is no less than one.
  have some := List.length_pos_iff.mpr (toString_ne_nil n)
  rcases Nat.eq_zero_or_pos ((toString n).toList.length - 1) with single | more
  · rw [single]
    exact positive
  · -- Below that power there would be one digit less.
    refine Nat.le_of_not_lt fun less => ?_
    have short := length_toString_le more less
    omega

/-- The first digit of a ratio does not exceed it. -/
theorem pow_pointPosition_le {numerator denominator : Nat} (divides : 0 < denominator)
    (reached : denominator ≤ 10 ^ 400 * numerator) :
    (10 : ℚ) ^ (pointPosition numerator denominator - 1) ≤ numerator / denominator := by
  have dividesRat : (0 : ℚ) < denominator := by exact_mod_cast divides
  rw [le_div_iff₀ dividesRat]
  unfold pointPosition
  split
  · -- Below one the zeros behind the point are counted.
    rename_i small
    have next := zerosBehindPoint_spec reached
    generalize zerosBehindPoint 400 numerator denominator = zeros at *
    have nextRat : (denominator : ℚ) ≤ 10 ^ (zeros + 1) * numerator := by exact_mod_cast next
    have power : (10 : ℚ) ^ (-(zeros : ℤ) - 1) = (10 ^ (zeros + 1))⁻¹ := by
      rw [← zpow_natCast, ← zpow_neg]
      congr 1
      push_cast
      ring
    rw [power, inv_mul_le_iff₀ (by positivity)]
    exact nextRat
  · -- From one on the digits of the whole part are counted.
    rename_i large
    have whole : 0 < numerator / denominator := Nat.div_pos (Nat.le_of_not_lt large) divides
    have first := pow_length_toString_le whole
    have some := List.length_pos_iff.mpr (toString_ne_nil (numerator / denominator))
    rw [String.length_toList] at first some
    generalize (toString (numerator / denominator)).length = length at *
    have product : 10 ^ (length - 1) * denominator ≤ numerator :=
      (Nat.mul_le_mul_right denominator first).trans (Nat.div_mul_le_self numerator denominator)
    have power : (10 : ℚ) ^ ((length : ℤ) - 1) = 10 ^ (length - 1) := by
      rw [← zpow_natCast]
      congr 1
      omega
    rw [power]
    exact_mod_cast product

section Search

variable {mantissa : Nat} {exponent : ℤ}

/-- A positive double is not so small that some zeros behind its point were not counted. -/
theorem IsCanonical.ratio_le (canonical : IsCanonical mantissa exponent) (positive : 0 < mantissa) :
    (Binary.ratio mantissa exponent).2 ≤ 10 ^ 400 * (Binary.ratio mantissa exponent).1 := by
  -- Three bits are less than a decimal digit, and the denominator has less than 1200 bits.
  have lowest := canonical.exponent_ge
  have numerator : 0 < (Binary.ratio mantissa exponent).1 :=
    Nat.mul_pos positive (Nat.two_pow_pos _)
  calc (Binary.ratio mantissa exponent).2 ≤ 2 ^ (3 * 400) :=
        Nat.pow_le_pow_right (by decide) (by simp only [minExponent] at lowest; omega)
    _ = (2 ^ 3) ^ 400 := pow_mul 2 3 400
    _ ≤ 10 ^ 400 := pow_le_pow_left₀ (by decide) (by decide) 400
    _ ≤ 10 ^ 400 * (Binary.ratio mantissa exponent).1 := Nat.le_mul_of_pos_right _ numerator

/-- The grid with seventeen digits has a multiple in the interval of a double. -/
theorem IsCanonical.exists_nearest? (canonical : IsCanonical mantissa exponent)
    (positive : 0 < mantissa) {top : ℤ}
    (first : (10 : ℚ) ^ (top - 1) ≤ magnitude mantissa exponent) :
    ∃ multiple, (Grid.at (top - (17 : ℕ)) exponent).nearest?
      (Interval.around mantissa exponent) = some multiple := by
  have unit : (0 : ℚ) < 2 ^ exponent := by positivity
  have quarter : (0 : ℚ) < (Grid.at (top - (17 : ℕ)) exponent).quarter := by
    exact_mod_cast Grid.quarter_pos _ _
  have low := Interval.around_low positive exponent
  have step := Grid.step_eq (top - (17 : ℕ)) exponent
  have positiveStep := Grid.step_pos (top - (17 : ℕ)) exponent
  -- A step is the magnitude of the double over the sixteen digits behind the first one.
  have fine : (10 : ℚ) ^ (top - (17 : ℕ)) / 2 ^ exponent ≤ mantissa / 10 ^ 16 := by
    rw [show top - (17 : ℕ) = top - 1 - (16 : ℕ) by push_cast; ring, zpow_sub₀ (by norm_num),
      zpow_natCast, div_div, mul_comm, ← div_div]
    exact div_le_div_of_nonneg_right ((div_le_iff₀ unit).mpr first) (by positivity)
  generalize (10 : ℚ) ^ (top - (17 : ℕ)) / 2 ^ exponent = size at *
  generalize Grid.at (top - (17 : ℕ)) exponent = grid at *
  have atMost : (mantissa : ℚ) + 1 ≤ 2 ^ 53 := by exact_mod_cast canonical.mantissa_lt
  have value : ((Interval.around mantissa exponent).value : ℚ) = 4 * mantissa := by
    simp [Interval.around]
  have high : ((Interval.around mantissa exponent).high : ℚ) = 4 * mantissa + 2 := by
    simp [Interval.around]
  apply Grid.exists_nearest? positiveStep
  · -- A step is less than a place, and less than half of one at a power of two.
    have narrow : ((Interval.around mantissa exponent).low : ℚ) + 2 * size < 4 * mantissa := by
      rw [low]
      split
      · rename_i power
        rw [power.1] at fine
        norm_num at fine
        linarith
      · linarith
    have goal : 2 * (((Interval.around mantissa exponent).low : ℚ) * grid.quarter) + grid.step <
        2 * ((Interval.around mantissa exponent).value * grid.quarter) := by
      rw [step, value]
      have scaled := mul_lt_mul_of_pos_right narrow quarter
      linarith
    exact_mod_cast goal
  · -- The upper bound is always half a place away.
    have wide : 4 * (mantissa : ℚ) + 2 * size < 4 * mantissa + 2 := by linarith
    have goal : 2 * (((Interval.around mantissa exponent).value : ℚ) * grid.quarter) + grid.step <
        2 * ((Interval.around mantissa exponent).high * grid.quarter) := by
      rw [step, value, high]
      have scaled := mul_lt_mul_of_pos_right wide quarter
      linarith
    exact_mod_cast goal

/-- What the search for the shortest decimal ends with lies in the interval of the double. -/
theorem IsCanonical.shortestFrom_contains (canonical : IsCanonical mantissa exponent)
    (positive : 0 < mantissa) {top : ℤ}
    (first : (10 : ℚ) ^ (top - 1) ≤ magnitude mantissa exponent) :
    (Interval.around mantissa exponent).Contains
      (4 * ((shortestFrom (Interval.around mantissa exponent) exponent top 17 1).1 *
        10 ^ (shortestFrom (Interval.around mantissa exponent) exponent top 17 1).2 /
          2 ^ exponent)) :=
  -- The seventeenth grid is the last one that is tried.
  Number.shortestFrom_contains (by decide : 16 < 17) (canonical.exists_nearest? positive first)

end Search

section Digits

/-- Only zero is written with a zero in front. -/
theorem head?_toString_ne_zero {n : Nat} (positive : 0 < n) :
    (toString n).toList.head? ≠ some '0' := by
  intro zero
  obtain ⟨rest, split⟩ := List.head?_eq_some_iff.mp zero
  have value := ofDigits_toString n
  have first := pow_length_toString_le positive
  have digits : ∀ c ∈ rest, c.isDigit = true := fun c member =>
    isDigit_of_mem_toString (split ▸ List.mem_cons_of_mem _ member)
  rw [split] at value first
  -- Without the zero there are too few digits for the number.
  have less := ofDigits_lt digits
  rw [← List.singleton_append, ofDigits_append] at value
  rw [List.length_cons, Nat.add_sub_cancel] at first
  have nothing : ofDigits ['0'] = 0 := rfl
  rw [nothing, Nat.zero_mul, Nat.zero_add] at value
  exact absurd (value ▸ less) (not_lt.mpr first)

end Digits

/-- The rational that a decimal denotes. -/
def Decimal.value (decimal : Decimal) : ℚ :=
  ofDigits decimal.digits * 10 ^ (decimal.point - decimal.digits.length)

/-- A decimal has digits, and the first one of them counts. -/
structure Decimal.IsProper (decimal : Decimal) : Prop where
  isDigit {c : Char} : c ∈ decimal.digits → c.isDigit = true
  occupied : decimal.digits ≠ []
  first : decimal.digits.head? ≠ some '0'

/-- The digits of a positive number without the zeros at their end are those of a proper decimal,
which denotes the number times its power of ten. -/
theorem proper_of_toString {n : Nat} (positive : 0 < n) (place : ℤ) :
    Decimal.IsProper ⟨dropTrailing (· == '0') (toString n).toList,
        place + (toString n).toList.length⟩ ∧
      Decimal.value ⟨dropTrailing (· == '0') (toString n).toList,
        place + (toString n).toList.length⟩ = n * 10 ^ place := by
  -- The digits of the number are the short ones with some zeros behind them.
  obtain ⟨zeros, whole⟩ := dropTrailing_zero_append (toString n).toList
  have value := ofDigits_toString n
  have first := head?_toString_ne_zero positive
  have digits {c : Char} (member : c ∈ (toString n).toList) : c.isDigit = true :=
    isDigit_of_mem_toString member
  generalize (toString n).toList = text at *
  generalize dropTrailing (· == '0') text = short at *
  subst whole
  rw [ofDigits_append, ofDigits_replicate_zero, List.length_replicate, Nat.add_zero] at value
  have occupied : short ≠ [] := by
    rintro rfl
    have nothing : ofDigits [] = 0 := rfl
    rw [nothing, Nat.zero_mul] at value
    omega
  refine ⟨⟨fun member => digits (List.mem_append_left _ member), occupied, ?_⟩, ?_⟩
  · rwa [List.head?_append_of_ne_nil _ occupied] at first
  · simp only [Decimal.value, List.length_append, List.length_replicate, ← value]
    push_cast
    rw [show place + (short.length + zeros) - short.length = place + (zeros : ℤ) by ring,
      zpow_add₀ (by norm_num), zpow_natCast]
    ring

/-- The shortest decimal of a double is a proper one that lies in its interval. -/
theorem shortest_spec {mantissa : Nat} {exponent : ℤ} (canonical : IsCanonical mantissa exponent)
    (positive : 0 < mantissa) :
    (shortest mantissa exponent).IsProper ∧
      (Interval.around mantissa exponent).Contains
        (4 * ((shortest mantissa exponent).value / 2 ^ exponent)) := by
  -- The search starts at the first digit of the double, where seventeen digits are enough.
  have first := pow_pointPosition_le (Binary.ratio_pos mantissa exponent)
    (canonical.ratio_le positive)
  have found := canonical.shortestFrom_contains positive
    (first.trans_eq (Binary.ratio_eq mantissa exponent))
  unfold shortest
  simp only
  generalize shortestFrom (Interval.around mantissa exponent) exponent
    (pointPosition (Binary.ratio mantissa exponent).1 (Binary.ratio mantissa exponent).2) 17 1 =
      search at *
  obtain ⟨multiple, place⟩ := search
  -- Nothing is below the interval of a positive double.
  have some : 0 < multiple := by
    refine Nat.pos_of_ne_zero fun nothing => ?_
    have atLeast : (1 : ℚ) ≤ mantissa := by exact_mod_cast positive
    obtain ⟨-, near⟩ := abs_le.mp (found.isRounded positive).near
    simp only [nothing, Nat.cast_zero, zero_mul, zero_div, sub_zero] at near
    linarith
  obtain ⟨proper, value⟩ := proper_of_toString some place
  refine ⟨proper, ?_⟩
  have same : Decimal.value
      ⟨((toString multiple).toList.reverse.dropWhile (· == '0')).reverse,
        place + (toString multiple).toList.length⟩ = multiple * 10 ^ place := value
  rw [same]
  exact found

end DeskCalc.Number
