import DeskCalc.Proofs.Number.Layout
import DeskCalc.Proofs.ShownResult

/-! Rounded results: what is shown for a finite double is the canonical text of the decimal nearest
to it at the places asked for, and of two that are as near, the even one. -/

namespace DeskCalc.Number

/-- The rational that a finite double is. -/
def Binary.number : Binary → ℚ
  | finite negative mantissa exponent =>
    if negative then -magnitude mantissa exponent else magnitude mantissa exponent
  | _ => 0

/-- A number is the multiple of `10 ^ -places` nearest to a rational, and the even one of two that
are as near. -/
def IsNearestMultiple (places : Nat) (number x : ℚ) : Prop :=
  ∃ units : ℤ, number = units / 10 ^ places ∧
    ∀ other : ℤ, |number - x| ≤ |other / 10 ^ places - x| ∧
      (other ≠ units → |number - x| = |other / 10 ^ places - x| → Even units)

/-- A text is a number written out: a minus just where it is negative, a whole part without
superfluous zeros, and a fraction of at most so many places, which does not end with a zero and has
no point when it is empty. -/
def IsWrittenOut (places : Nat) (number : ℚ) (text : List Char) : Prop :=
  ∃ (negative : Bool) (whole fraction : List Char),
    text = signed negative (whole ++ if fraction = [] then [] else '.' :: fraction) ∧
    (negative = true ↔ number < 0) ∧ Denotes whole fraction 0 |number| ∧
    fraction.length ≤ places ∧ fraction.getLast? ≠ some '0'

section Nearest

variable {places : Nat} {number x : ℚ}

/-- A whole number of units at fewer places is the multiple nearest to itself. -/
theorem isNearestMultiple_self {few : Nat} (units : ℤ) (whole : number * 10 ^ few = units)
    (le : few ≤ places) : IsNearestMultiple places number number := by
  have power : (10 : ℚ) ^ places ≠ 0 := by positivity
  -- At more places it is more units, by a power of ten.
  have multiple : number = (units * 10 ^ (places - few) : ℤ) / 10 ^ places := by
    rw [eq_div_iff power, Int.cast_mul, ← whole, ← Nat.add_sub_of_le le]
    push_cast
    rw [Nat.add_sub_cancel_left, pow_add, mul_assoc]
  -- No multiple is nearer to the number than it is itself.
  refine ⟨_, multiple, fun other => ?_⟩
  rw [sub_self, abs_zero]
  refine ⟨abs_nonneg _, fun different same => absurd ?_ different⟩
  -- Two multiples at no distance are the same.
  rw [eq_comm, abs_eq_zero, sub_eq_zero, multiple, div_left_inj' power] at same
  exact_mod_cast same

/-- Units within half a unit of a rational, and even if they are just that far from it, are those of
the nearest multiple. -/
theorem isNearestMultiple_of_near (units : ℤ) (near : |(units : ℚ) - x * 10 ^ places| ≤ 1 / 2)
    (even : |(units : ℚ) - x * 10 ^ places| = 1 / 2 → Even units) :
    IsNearestMultiple places (units / 10 ^ places) x := by
  have power : (0 : ℚ) < 10 ^ places := by positivity
  -- Distances are distances in units over the power of ten.
  have scaled (n : ℤ) :
      |(n : ℚ) / 10 ^ places - x| = |(n : ℚ) - x * 10 ^ places| / 10 ^ places := by
    rw [← abs_of_pos power, ← abs_div, abs_of_pos power, sub_div, mul_div_cancel_right₀ _ power.ne']
  refine ⟨units, rfl, fun other => ?_⟩
  rw [scaled, scaled, div_le_div_iff_of_pos_right power, div_left_inj' power.ne']
  by_cases same : other = units
  · exact ⟨(congrArg _ (by rw [same])).le, fun different => absurd same different⟩
  · -- Any others are a whole unit away from these.
    have gap : (1 : ℚ) ≤ |(other : ℚ) - units| := by
      have apart : 1 ≤ |other - units| := Int.one_le_abs (sub_ne_zero.mpr same)
      exact_mod_cast apart
    have path := abs_sub_le (other : ℚ) (x * 10 ^ places) units
    rw [abs_sub_comm (x * 10 ^ places) (units : ℚ)] at path
    exact ⟨by linarith, fun _ tie => even (by linarith)⟩

/-- The units that a magnitude is rounded to are those of the multiple nearest to it, and so are
the opposite ones for the opposite number. -/
theorem IsRounded.isNearestMultiple {units : Nat} (rounded : IsRounded units (x * 10 ^ places))
    (negative : Bool) : IsNearestMultiple places
      (if negative then -(units / 10 ^ places) else units / 10 ^ places)
      (if negative then -x else x) := by
  -- Where another multiple is as near, the units are even.
  have even (tie : |(units : ℚ) - x * 10 ^ places| = 1 / 2) : Even (units : ℤ) := by
    exact_mod_cast Nat.even_iff.mpr (rounded.even tie)
  cases negative with
  | false =>
    have nearest := isNearestMultiple_of_near units (by exact_mod_cast rounded.near)
      (by exact_mod_cast even)
    simpa using nearest
  | true =>
    -- The opposite distance is the same.
    have opposite : |((-units : ℤ) : ℚ) - -x * 10 ^ places| = |(units : ℚ) - x * 10 ^ places| := by
      rw [← abs_neg]
      push_cast
      ring_nf
    have near : |((-units : ℤ) : ℚ) - -x * 10 ^ places| ≤ 1 / 2 := opposite ▸ rounded.near
    have nearest := isNearestMultiple_of_near (-units) near fun tie => (even (opposite ▸ tie)).neg
    simpa [neg_div] using nearest

/-- A zero is not nearest to a number that is one or more away from it. -/
theorem not_isNearestMultiple_zero (large : 1 ≤ |x|) : ¬ IsNearestMultiple places 0 x := by
  rintro ⟨units, -, nearest⟩
  have power : (10 : ℚ) ^ places ≠ 0 := by positivity
  -- The one on its side of zero is nearer.
  rcases le_total 0 x with above | below
  · -- That is a whole one above zero, in front of the number.
    rw [abs_of_nonneg above] at large
    have near := (nearest (10 ^ places)).1
    push_cast at near
    rw [div_self power, zero_sub, abs_neg, abs_of_nonneg above, abs_sub_comm,
      abs_of_nonneg (sub_nonneg.mpr large)] at near
    linarith
  · -- That is a whole one below zero.
    rw [abs_of_nonpos below] at large
    have near := (nearest (-10 ^ places)).1
    push_cast at near
    rw [neg_div, div_self power, zero_sub, abs_neg, abs_of_nonpos below,
      abs_of_nonneg (by linarith)] at near
    linarith

end Nearest

section WrittenOut

variable {units places : Nat}

/-- Without the zeros at its end a text does not end with a zero. -/
theorem getLast?_dropTrailing (text : List Char) :
    (dropTrailing (· == '0') text).getLast? ≠ some '0' := by
  -- The character at which the dropping has stopped is no zero.
  intro zero
  obtain ⟨occupied, last⟩ := List.mem_getLast?_eq_getLast zero
  have kept := List.rdropWhile_last_not (· == '0') text occupied
  exact kept (beq_iff_eq.mpr last.symm)

/-- What is shown for some units is their number written out, with no more than all its places. -/
theorem isWrittenOut_shownText (negative : Bool) (positive : 0 < places) :
    IsWrittenOut places (if negative then -(units / 10 ^ places) else units / 10 ^ places)
      (shownText negative units places) := by
  have power : (0 : ℚ) < 10 ^ places := by positivity
  rcases Nat.eq_zero_or_pos units with rfl | some
  · -- A zero has neither a sign nor a fraction.
    refine ⟨false, ['0'], [], by simp [shownText, signed], by simp, ?_, by simp, by simp⟩
    exact ⟨isWholePart_toString 0, by simp, by simp [ofDigits, Nat.ofDigitChars]⟩
  · -- Otherwise the whole part has its digits, and the fraction those that are left without zeros.
    have value : (0 : ℚ) < units / 10 ^ places := by positivity
    obtain ⟨zeros, whole⟩ := shortFraction_append units places
    have length := congrArg List.length whole
    rw [length_fractionDigits positive, List.length_append] at length
    refine ⟨negative, wholeDigits units places, shortFraction units places,
      by rw [shownText, if_neg some.ne']; rfl, ?_, ⟨isWholePart_toString _,
        fun c => isDigit_of_mem_shortFraction, ?_⟩, by omega, getLast?_dropTrailing _⟩
    · -- The sign is that of the number, which is not zero.
      cases negative with
      | true => simpa using value
      | false => simpa using value.le
    · -- The digits denote the number without its sign.
      have size : |if negative then -((units : ℚ) / 10 ^ places) else units / 10 ^ places| =
          units / 10 ^ places := by
        cases negative with
        | true => simpa using value.le
        | false => simpa using value.le
      rw [size, ← ofDigits_short positive, zero_sub, zpow_neg, zpow_natCast, div_eq_mul_inv]

/-- What is written out with some places is written out with more of them. -/
theorem IsWrittenOut.mono {number : ℚ} {text : List Char} {more : Nat}
    (written : IsWrittenOut places number text) (le : places ≤ more) :
    IsWrittenOut more number text := by
  -- Only the bound on the fraction asks for the places.
  obtain ⟨negative, whole, fraction, layout, sign, denotes, length, last⟩ := written
  exact ⟨negative, whole, fraction, layout, sign, denotes, length.trans le, last⟩

/-- A bare zero is no other number written out. -/
theorem IsWrittenOut.eq_zero {number : ℚ} (written : IsWrittenOut places number ['0']) :
    number = 0 := by
  obtain ⟨negative, whole, fraction, layout, -, ⟨isWhole, -, value⟩, -, -⟩ := written
  -- With a sign there would be two characters.
  cases negative with
  | true => simp [signed] at layout
  | false =>
    -- There is no room for a point behind the whole part.
    obtain ⟨rfl, none⟩ := (List.append_eq_singleton_iff.mp layout.symm).resolve_left
      fun empty => isWhole.occupied empty.1
    have nothing : fraction = [] := by
      by_contra occupied
      rw [if_neg occupied] at none
      exact List.cons_ne_nil _ _ none
    rw [nothing] at value
    simpa [ofDigits, Nat.ofDigitChars] using value.symm

end WrittenOut

section Doubles

variable {negative : Bool} {mantissa : Nat} {exponent : ℤ}

theorem Binary.abs_number :
    |(Binary.finite negative mantissa exponent).number| = magnitude mantissa exponent := by
  have size := abs_of_nonneg (magnitude_nonneg mantissa exponent)
  -- A magnitude is not negative, so the sign is all that is lost.
  cases negative with
  | true => rw [number, if_pos rfl, abs_neg, size]
  | false => rw [number, if_neg Bool.false_ne_true, size]

/-- A double is an integer when its magnitude is one. -/
theorem Binary.exists_number_eq_iff :
    (∃ n : ℤ, (Binary.finite negative mantissa exponent).number = n) ↔
      ∃ n : Nat, magnitude mantissa exponent = n := by
  -- The sign does not matter for being an integer.
  constructor
  · rintro ⟨n, whole⟩
    refine ⟨n.natAbs, ?_⟩
    rw [← @abs_number negative, whole, Nat.cast_natAbs, Int.cast_abs]
  · rintro ⟨n, whole⟩
    cases negative with
    | true => exact ⟨-n, by simp [number, whole]⟩
    | false => exact ⟨n, by simp [number, whole]⟩

/-- The integer that a double is taken for is its number. -/
theorem Binary.toInt?_eq_some_iff {n : ℤ} :
    (Binary.finite negative mantissa exponent).toInt? = some n ↔
      (Binary.finite negative mantissa exponent).number = n := by
  by_cases whole : ∃ n : Nat, magnitude mantissa exponent = n
  · obtain ⟨size, value⟩ := whole
    -- On both sides the sign stands before the same magnitude.
    rw [toInt?_of_eq value, Option.some.injEq]
    cases negative with
    | true =>
      rw [number, if_pos rfl, if_pos rfl, value]
      norm_cast
    | false =>
      rw [number, if_neg Bool.false_ne_true, if_neg Bool.false_ne_true, value]
      norm_cast
  · -- Without an integer magnitude neither side is an integer.
    rw [toInt?_of_isBroken (not_exists.mp whole)]
    exact iff_of_false (Option.some_ne_none n).symm fun same =>
      whole (exists_number_eq_iff.mp ⟨n, same⟩)

/-- A number that is no integer has too many digits for some places when those of its whole part,
which are not counted for a zero, cannot be counted together with the places. -/
def HasTooManyDigits (places : ℤ) (x : ℚ) : Prop :=
  (¬ ∃ n : ℤ, x = n) ∧ 1 ≤ |x| ∧
    (Places.maxCount : ℤ) < places + (toString ⌊|x|⌋₊).length

/-- The digits that are counted are those of the ratio of the double. -/
theorem hasTooManyDigits_iff (broken : IsBroken mantissa exponent) {places : ℤ}
    (positive : 1 ≤ places) :
    HasTooManyDigits places (Binary.finite negative mantissa exponent).number ↔
      hasTooManyDigits (Binary.ratio mantissa exponent).1 (Binary.ratio mantissa exponent).2
        places.toNat = true := by
  -- The places are counted as a natural number.
  have count : (places.toNat : ℤ) = places := Int.toNat_of_nonneg (by omega)
  have occupied : ⌊magnitude mantissa exponent⌋₊ ≠ 0 ↔ 1 ≤ magnitude mantissa exponent := by
    rw [← Nat.one_le_iff_ne_zero, Nat.one_le_floor_iff]
  rw [HasTooManyDigits, Binary.exists_number_eq_iff, Binary.abs_number]
  simp only [hasTooManyDigits, ratio_div_eq_floor, Bool.and_eq_true, bne_iff_ne, occupied,
    decide_eq_true_eq, not_exists]
  constructor
  · -- What is large has digits in front of the point, and these are counted.
    rintro ⟨-, large, long⟩
    exact ⟨large, by omega⟩
  · rintro ⟨large, long⟩
    exact ⟨broken, large, by omega⟩

/-- An integer is written out as it is, whatever is asked for. -/
theorem Binary.display_of_isWhole {places : Nat} (positive : 0 < places)
    (whole : ∃ n : Nat, magnitude mantissa exponent = n) (asked : Places) :
    ∃ text, (Binary.finite negative mantissa exponent).display asked = .ok text ∧
      IsWrittenOut places (Binary.finite negative mantissa exponent).number text.toList ∧
      IsNearestMultiple places (Binary.finite negative mantissa exponent).number
        (Binary.finite negative mantissa exponent).number := by
  obtain ⟨n, value⟩ := whole
  have power : (10 : ℚ) ^ places ≠ 0 := by positivity
  -- An integer is as many units at any places, times a power of ten.
  have units : ((n * 10 ^ places : ℕ) : ℚ) / 10 ^ places = magnitude mantissa exponent := by
    rw [value]
    push_cast
    exact mul_div_cancel_right₀ _ power
  refine ⟨_, Binary.display_of_eq value positive asked, ?_, ?_⟩
  · -- It is written out as so many units.
    have written := @isWrittenOut_shownText (n * 10 ^ places) places negative positive
    rw [units] at written
    rw [String.toList_ofList]
    exact written
  · -- It is the multiple nearest to itself.
    obtain ⟨integer, same⟩ := (@exists_number_eq_iff negative _ _).mpr ⟨n, value⟩
    exact isNearestMultiple_self integer (by rw [pow_zero, mul_one, same]) (Nat.zero_le places)

/-- Behind the last useful place nothing is rounded. -/
theorem Binary.isNearestMultiple_number {places : Nat} (canonical : IsCanonical mantissa exponent)
    (useful : usefulPlaces ≤ places) :
    IsNearestMultiple places (Binary.finite negative mantissa exponent).number
      (Binary.finite negative mantissa exponent).number := by
  -- A canonical double is a whole number of units at the last useful place.
  obtain ⟨units, value⟩ := canonical.exists_units
  cases negative with
  | true =>
    refine isNearestMultiple_self (-units) ?_ useful
    simp [number, ← value]
  | false =>
    refine isNearestMultiple_self units ?_ useful
    simp [number, ← value]

/-- Any other double is written out as the nearest multiple, unless it has too many digits. -/
theorem Binary.display_of_few {places : Nat} (positive : 0 < places)
    (canonical : IsCanonical mantissa exponent) (broken : IsBroken mantissa exponent)
    (few : hasTooManyDigits (Binary.ratio mantissa exponent).1 (Binary.ratio mantissa exponent).2
      places = false) :
    ∃ text number,
      (Binary.finite negative mantissa exponent).display (.count places) = .ok text ∧
      IsWrittenOut places number text.toList ∧
      IsNearestMultiple places number (Binary.finite negative mantissa exponent).number := by
  have useful : 0 < min places usefulPlaces := lt_min positive (by decide)
  have rounded := isRounded_unitsOf few
  have shown := @Binary.display_of_isBroken _ _ negative _ broken positive
  generalize unitsOf (Binary.ratio mantissa exponent).1 (Binary.ratio mantissa exponent).2 places =
    units at *
  refine ⟨_, if negative then -((units : ℚ) / 10 ^ min places usefulPlaces)
    else units / 10 ^ min places usefulPlaces, shown, ?_, ?_⟩
  · -- The units are written out, with no more than all the places.
    rw [String.toList_ofList]
    exact (isWrittenOut_shownText negative useful).mono (min_le_left _ _)
  · rcases le_or_gt places usefulPlaces with room | many
    · rw [min_eq_left room] at rounded ⊢
      exact rounded.isNearestMultiple negative
    · -- The units at the last useful place are the double itself.
      obtain ⟨exactly, value⟩ := canonical.exists_units
      rw [min_eq_right many.le] at rounded ⊢
      rw [value] at rounded
      rw [rounded.unique (.self exactly), ← value, mul_div_cancel_right₀ _ (by positivity)]
      exact isNearestMultiple_number canonical many.le

end Doubles

end DeskCalc.Number

namespace DeskCalc

open DeskCalc.Number

section Results

variable {value : Float} {places : ℤ} {text : String}

/-- A double with too many digits is shown as a zero. -/
theorem display_eq_zero (positive : 1 ≤ places) (finite : value.isFinite = true)
    (many : HasTooManyDigits places (Binary.ofFloat value).number)
    (shown : display value (Settings.placesOf (.int places)) = .ok text) : text = "0" := by
  obtain ⟨negative, mantissa, exponent, taken⟩ := isFinite_iff.mp finite
  rw [taken] at many
  -- Only a double that is no integer has too many digits.
  have broken : IsBroken mantissa exponent :=
    not_exists.mp (mt Binary.exists_number_eq_iff.mpr many.1)
  have counted := (hasTooManyDigits_iff broken positive).mp many
  rw [display, taken] at shown
  -- The places are used, and then the digits are too many, or they are refused.
  rcases placesOf_int positive with ⟨-, asked, some⟩ | ⟨-, fault, refused⟩
  · rw [asked, Binary.display_of_isBroken broken some, unitsOf, if_pos counted] at shown
    exact (Except.ok.inj shown).symm
  · rw [refused, Binary.display, Binary.toInt?_of_isBroken broken] at shown
    cases shown

/-- Any other double is shown as the number written out that is the multiple nearest to it. -/
theorem display_isWrittenOut (positive : 1 ≤ places) (finite : value.isFinite = true)
    (few : ¬ HasTooManyDigits places (Binary.ofFloat value).number)
    (shown : display value (Settings.placesOf (.int places)) = .ok text) :
    ∃ number, IsWrittenOut places.toNat number text.toList ∧
      IsNearestMultiple places.toNat number (Binary.ofFloat value).number ∧
      ((∃ n : ℤ, (Binary.ofFloat value).number = n) → number = (Binary.ofFloat value).number) := by
  have some : 0 < places.toNat := Int.pos_iff_toNat_pos.mp positive
  obtain ⟨negative, mantissa, exponent, taken⟩ := isFinite_iff.mp finite
  -- The mantissa and the exponent decide whether the double is an integer.
  have canonical := isCanonical_of_ofBits taken
  rw [taken] at few ⊢
  rw [display, taken] at shown
  by_cases whole : ∃ n : Nat, magnitude mantissa exponent = n
  · -- An integer is written out at any places.
    obtain ⟨same, displayed, written, nearest⟩ := Binary.display_of_isWhole some whole
      (Settings.placesOf (.int places))
    obtain rfl := Except.ok.inj (displayed.symm.trans shown)
    exact ⟨_, written, nearest, fun _ => rfl⟩
  · -- Anything else is rounded, unless the places are refused.
    have broken : IsBroken mantissa exponent := not_exists.mp whole
    rw [hasTooManyDigits_iff broken positive, Bool.not_eq_true] at few
    rcases placesOf_int positive with ⟨-, asked, -⟩ | ⟨-, fault, refused⟩
    · obtain ⟨same, number, displayed, written, nearest⟩ :=
        Binary.display_of_few some canonical broken few
      rw [asked, displayed] at shown
      obtain rfl := Except.ok.inj shown
      exact ⟨number, written, nearest, fun integral => absurd integral
        (mt Binary.exists_number_eq_iff.mp whole)⟩
    · rw [refused, Binary.display, Binary.toInt?_of_isBroken broken] at shown
      cases shown

/-- A finite double is taken for an integer just when its number is one. -/
theorem toInt?_isSome_iff (finite : value.isFinite = true) :
    (Binary.ofFloat value).toInt?.isSome = true ↔ ∃ n : ℤ, (Binary.ofFloat value).number = n := by
  obtain ⟨negative, mantissa, exponent, taken⟩ := isFinite_iff.mp finite
  rw [taken, Binary.exists_number_eq_iff]
  -- Only the magnitude decides, on both sides.
  by_cases whole : ∃ n : Nat, magnitude mantissa exponent = n
  · obtain ⟨n, value⟩ := whole
    simp [Binary.toInt?_of_eq value, value]
  · simp [Binary.toInt?_of_isBroken (not_exists.mp whole), whole]

end Results

/-- A finite double is shown unless it is no integer and too many places are asked for.
What is shown is the number written out that is the multiple nearest to it, an integer as it is,
and a zero where there are too many digits. -/
theorem display_nearestMultiple {places : ℤ} (positive : 1 ≤ places) (value : Float)
    (finite : value.isFinite = true) :
    ((∃ text, display value (Settings.placesOf (.int places)) = .ok text) ↔
      (∃ n : ℤ, (Binary.ofFloat value).number = n) ∨ places ≤ Places.maxCount) ∧
    ∀ text, display value (Settings.placesOf (.int places)) = .ok text →
      (HasTooManyDigits places (Binary.ofFloat value).number → text = "0") ∧
      (¬ HasTooManyDigits places (Binary.ofFloat value).number →
        ∃ number, IsWrittenOut places.toNat number text.toList ∧
          IsNearestMultiple places.toNat number (Binary.ofFloat value).number ∧
          ((∃ n : ℤ, (Binary.ofFloat value).number = n) →
            number = (Binary.ofFloat value).number)) := by
  constructor
  · rw [display_isOk_iff positive finite, toInt?_isSome_iff finite]
  · intro text shown
    exact ⟨fun many => display_eq_zero positive finite many shown,
      fun few => display_isWrittenOut positive finite few shown⟩

/-- Minus two thirds at two places. -/
theorem display_nearestMultiple_thirds :
    ∃ number, IsWrittenOut 2 number "-0.67".toList ∧
      IsNearestMultiple 2 number (Binary.ofFloat (Float.ofBits 0xbfe5555555555555)).number := by
  have finite : (Float.ofBits 0xbfe5555555555555).isFinite = true := by decide +kernel
  have shown : display (Float.ofBits 0xbfe5555555555555) (Settings.placesOf (.int 2)) =
      .ok "-0.67" := by decide +kernel
  have positive : (1 : ℤ) ≤ 2 := by decide
  obtain ⟨rounded, zero⟩ := (display_nearestMultiple positive _ finite).2 _ shown |>.symm
  -- With too many digits a zero would be shown.
  obtain ⟨number, written, nearest, -⟩ := rounded fun many => absurd (zero many) (by decide)
  exact ⟨number, written, nearest⟩

/-- At too many places a quarter is not shown at all, and at some fewer ones ten and a half is
shown as a zero, which is not nearest to it. -/
theorem display_quarter_refused :
    ((Float.ofBits 0x3fd0000000000000).isFinite = true ∧ ∀ text,
      display (Float.ofBits 0x3fd0000000000000) (Settings.placesOf (.int 2147483648)) ≠ .ok text) ∧
    (Float.ofBits 0x4025000000000000).isFinite = true ∧
      display (Float.ofBits 0x4025000000000000) (Settings.placesOf (.int 2147483646)) = .ok "0" ∧
      ∀ number, IsWrittenOut 2147483646 number "0".toList →
        ¬ IsNearestMultiple 2147483646 number
          (Binary.ofFloat (Float.ofBits 0x4025000000000000)).number := by
  have refused : display (Float.ofBits 0x3fd0000000000000) (Settings.placesOf (.int 2147483648)) =
      .error .tooBig := by decide +kernel
  have taken : Binary.ofFloat (Float.ofBits 0x4025000000000000) =
      .finite false 0x15000000000000 (-49) := by decide +kernel
  refine ⟨⟨by decide +kernel, fun text shown => ?_⟩, by decide +kernel, by decide +kernel, ?_⟩
  · -- At these places the quarter is refused.
    rw [refused] at shown
    cases shown
  · -- A zero is no multiple nearest to ten and a half.
    intro number written
    rw [written.eq_zero, taken]
    exact not_isNearestMultiple_zero (by norm_num [Binary.number, magnitude])

end DeskCalc
