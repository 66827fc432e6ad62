import DeskCalc.Proofs.Json.Numbers
import DeskCalc.Proofs.RoundedResult

/-! Results without places: an integer is shown as it is, but any other double is rounded to an
integer whose own zeros are taken for those of a fraction. -/

namespace DeskCalc.Number

/-- A digit that denotes nothing is a zero. -/
theorem eq_zero_of_ofDigits {c : Char} (digit : c.isDigit = true) (nothing : ofDigits [c] = 0) :
    c = '0' := by
  simp only [Char.isDigit, Bool.and_eq_true, decide_eq_true_eq, UInt32.le_iff_toNat_le] at digit
  have low : 48 ≤ c.toNat := digit.1
  -- The value of a digit is how far it stands behind the zero.
  simp only [ofDigits, Nat.ofDigitChars, List.foldl_cons, List.foldl_nil] at nothing
  have code : c.toNat = '0'.toNat := by
    simp at nothing ⊢
    omega
  exact Char.toNat_inj.mp code

/-- The last digit of a multiple of ten is a zero. -/
theorem ten_dvd_iff (n : Nat) : 10 ∣ n ↔ (toString n).toList.getLast? = some '0' := by
  obtain ⟨front, last, split⟩ := (List.eq_nil_or_concat _).resolve_left (toString_ne_nil n)
  rw [List.concat_eq_append] at split
  have value := ofDigits_toString n
  have digit : last.isDigit = true :=
    isDigit_of_mem_toString (n := n) (split ▸ List.mem_append_right _ List.mem_cons_self)
  have all : ∀ c ∈ [last], c.isDigit = true := by simpa using digit
  have small : ofDigits [last] < 10 := ofDigits_lt all
  -- The digits before the last one count for tens.
  rw [split, ofDigits_append, List.length_singleton, pow_one] at value
  rw [split, List.getLast?_concat, Option.some_inj]
  constructor
  · intro divides
    exact eq_zero_of_ofDigits digit (by omega)
  · rintro rfl
    have zero : ofDigits ['0'] = 0 := rfl
    omega

/-- An integer without places is its digits behind its sign. -/
theorem fixedPoint_zero (negative : Bool) (units : Nat) :
    fixedPoint negative units 0 = signed negative (toString units).toList := by
  cases negative <;> simp [fixedPoint, wholeDigits, fractionDigits, signed]

/-- Zeros at the end of a text are no part of its sign. -/
theorem dropTrailing_signed (negative : Bool) (text : List Char) :
    dropTrailing (· == '0') (signed negative text) =
      signed negative (dropTrailing (· == '0') text) := by
  cases negative with
  | true => exact dropTrailing_append_cons (by decide) [] text
  | false => rfl

/-- Of an integer without places the zeros at its end are left out, and a zero is left out as a
whole: what stays is its sign, or a zero where nothing stays. -/
theorem tidy_fixedPoint_zero (negative : Bool) (units : Nat) :
    tidy (fixedPoint negative units 0) =
      if units = 0 then [if negative then '-' else '0']
      else dropTrailing (· == '0') (signed negative (toString units).toList) := by
  rw [fixedPoint_zero]
  rcases Nat.eq_zero_or_pos units with rfl | positive
  · cases negative <;> rfl
  obtain ⟨isDigit, occupied, first⟩ := (proper_of_toString positive 0).1
  simp only at isDigit occupied first
  -- The first digit is no zero and no point, so something stays behind the sign.
  have kept : dropTrailing (· == '.')
      (signed negative (dropTrailing (· == '0') (toString units).toList)) =
      signed negative (dropTrailing (· == '0') (toString units).toList) := by
    have stays := fun front => dropTrailing_append_of_kept occupied
      (fun c member => not_point_of_isDigit (isDigit member)) front
    cases negative with
    | true => exact stays ['-']
    | false => exact stays []
  rw [if_neg positive.ne', tidy, dropTrailing_signed, kept]
  refine if_neg ?_
  generalize dropTrailing (· == '0') (toString units).toList = text at *
  obtain ⟨digit, rest, rfl⟩ := List.exists_cons_of_ne_nil occupied
  cases negative with
  | true =>
    have noZero : digit ≠ '0' := by simpa using first
    simp [signed, noZero]
  | false =>
    have noDash : digit ≠ '-' := by
      rintro rfl
      exact absurd (isDigit List.mem_cons_self) (by decide)
    simp [signed, noDash]

/-- A text is an integer without the zeros at its end; of a zero only the sign of what was rounded
to it stays. -/
def IsCutShort (negative : Bool) (n : ℤ) (text : List Char) : Prop :=
  if n = 0 then text = [if negative then '-' else '0']
  else ∃ zeros, (toString n).toList = text ++ List.replicate zeros '0' ∧
    text.getLast? ≠ some '0'

/-- The integer that units behind a sign are. -/
theorem toString_signed (negative : Bool) {units : Nat} (positive : 0 < units) :
    (toString (if negative then -(units : ℤ) else units)).toList =
      signed negative (toString units).toList := by
  rw [Json.toString_eq_signed]
  -- The units are not zero, so the sign of the integer is the one before them.
  cases negative with
  | true =>
    have below : -(units : ℤ) < 0 := by omega
    rw [if_pos rfl, decide_eq_true below, Int.natAbs_neg, Int.natAbs_natCast]
  | false =>
    have above : ¬ (units : ℤ) < 0 := by omega
    rw [if_neg Bool.false_ne_true, decide_eq_false above, Int.natAbs_natCast]

/-- What is shown for units without places is their integer cut short. -/
theorem isCutShort_tidy (negative : Bool) (units : Nat) :
    IsCutShort negative (if negative then -(units : ℤ) else units)
      (tidy (fixedPoint negative units 0)) := by
  rw [tidy_fixedPoint_zero]
  -- Of zero units only the sign may be left.
  rcases Nat.eq_zero_or_pos units with rfl | positive
  · simp [IsCutShort]
  -- Any others lose the zeros at their end.
  have other : (if negative then -(units : ℤ) else units) ≠ 0 := by
    cases negative <;> simp [positive.ne']
  rw [IsCutShort, if_neg other, if_neg positive.ne', toString_signed negative positive]
  obtain ⟨zeros, whole⟩ := dropTrailing_zero_append (signed negative (toString units).toList)
  exact ⟨zeros, whole, getLast?_dropTrailing _⟩

/-- An integer that is cut short is whole when there is nothing to be cut off: it is no multiple
of ten, or a zero without a sign. -/
theorem IsCutShort.eq_iff {negative : Bool} {n : ℤ} {text : List Char}
    (short : IsCutShort negative n text) :
    text = (toString n).toList ↔ (n = 0 ∧ negative = false) ∨ ¬ 10 ∣ n := by
  rw [IsCutShort] at short
  by_cases zero : n = 0
  · subst zero
    rw [if_pos rfl] at short
    rw [short]
    cases negative <;> decide
  rw [if_neg zero] at short
  obtain ⟨zeros, whole, last⟩ := short
  -- The last digit does not depend on the sign, and with it the zeros go on to the end.
  have digit : 10 ∣ n ↔ (toString n).toList.getLast? = some '0' := by
    have occupied := toString_ne_nil n.natAbs
    rw [show (10 : ℤ) = (10 : ℕ) from rfl, Int.natCast_dvd, ten_dvd_iff, Json.toString_eq_signed]
    cases decide (n < 0) with
    | true => rw [signed, if_pos rfl, List.getLast?_cons_of_ne_nil occupied]
    | false => rfl
  rw [digit, or_iff_right fun both => zero both.1]
  constructor
  · intro same
    rwa [← same]
  · intro other
    cases zeros with
    | zero => rw [whole, List.replicate_zero, List.append_nil]
    | succ zeros =>
      refine absurd ?_ other
      rw [whole, List.replicate_succ', ← List.append_assoc, List.getLast?_concat]

section Doubles

variable {negative : Bool} {mantissa : Nat} {exponent : ℤ}

/-- The sign of a double that is no integer is that of its number. -/
theorem Binary.number_neg_iff (broken : IsBroken mantissa exponent) :
    (Binary.finite negative mantissa exponent).number < 0 ↔ negative = true := by
  have positive : 0 < magnitude mantissa exponent :=
    (magnitude_nonneg mantissa exponent).lt_of_ne' (by exact_mod_cast broken 0)
  cases negative with
  | true => simpa [number] using positive
  | false => simpa [number] using positive.le

/-- A double that is no integer is shown without places as the nearest integer cut short. -/
theorem Binary.isCutShort_display (canonical : IsCanonical mantissa exponent)
    (broken : IsBroken mantissa exponent) :
    ∃ (n : ℤ) (text : String),
      (Binary.finite negative mantissa exponent).display (.count 0) = .ok text ∧
      IsNearestMultiple 0 n (Binary.finite negative mantissa exponent).number ∧
      IsCutShort negative n text.toList := by
  -- There are few digits before the point, so none of them is given up.
  have few := hasTooManyDigits_of_isBroken canonical broken (Nat.zero_le usefulPlaces)
  have rounded := isRounded_unitsOf few
  rw [Binary.display, Binary.toInt?_of_isBroken broken]
  simp only [withPlaces, Nat.zero_min] at rounded ⊢
  generalize unitsOf (Binary.ratio mantissa exponent).1 (Binary.ratio mantissa exponent).2 0 =
    units at *
  refine ⟨if negative then -(units : ℤ) else units, _, rfl, ?_, ?_⟩
  · have nearest := rounded.isNearestMultiple negative
    cases negative with
    | true => simpa [number] using nearest
    | false => simpa [number] using nearest
  · rw [String.toList_ofList]
    exact isCutShort_tidy negative units

end Doubles

end DeskCalc.Number

namespace DeskCalc

open DeskCalc.Number

/-- Without places a finite double is shown as the nearest integer just when it is an integer
itself, or that one has no zeros at its end to be cut off and is no zero with a sign. -/
theorem display_noPlaces (value : Float) (finite : value.isFinite = true) :
    ∃ (n : ℤ) (text : String), display value (Settings.placesOf (.int 0)) = .ok text ∧
      IsNearestMultiple 0 n (Binary.ofFloat value).number ∧
      ((∃ m : ℤ, (Binary.ofFloat value).number = m) → text = toString n) ∧
      ((¬ ∃ m : ℤ, (Binary.ofFloat value).number = m) →
        IsCutShort (decide ((Binary.ofFloat value).number < 0)) n text.toList) ∧
      (text = toString n ↔ (∃ m : ℤ, (Binary.ofFloat value).number = m) ∨
        (n = 0 ∧ 0 < (Binary.ofFloat value).number) ∨ ¬ 10 ∣ n) := by
  obtain ⟨negative, mantissa, exponent, taken⟩ := isFinite_iff.mp finite
  have canonical := isCanonical_of_ofFloat taken
  rw [display, taken]
  by_cases integral : ∃ n : ℤ, (Binary.finite negative mantissa exponent).number = n
  · obtain ⟨n, same⟩ := integral
    have shown : (Binary.finite negative mantissa exponent).display
        (Settings.placesOf (.int 0)) = .ok (toString n) := by
      rw [Binary.display, Binary.toInt?_eq_some_iff.mpr same]
    refine ⟨n, _, shown, ?_, fun _ => rfl, fun other => absurd ⟨n, same⟩ other,
      iff_of_true rfl (.inl ⟨n, same⟩)⟩
    rw [same]
    exact isNearestMultiple_self n (by simp) (Nat.zero_le 0)
  · have broken : IsBroken mantissa exponent :=
      not_exists.mp (mt Binary.exists_number_eq_iff.mpr integral)
    obtain ⟨n, text, shown, nearest, short⟩ :=
      @Binary.isCutShort_display negative _ _ canonical broken
    have sign := @Binary.number_neg_iff negative _ _ broken
    refine ⟨n, text, shown, nearest, fun whole => absurd whole integral, fun _ => ?_, ?_⟩
    · have negative_eq : decide ((Binary.finite negative mantissa exponent).number < 0) =
          negative := Bool.eq_iff_iff.mpr (decide_eq_true_iff.trans sign)
      rwa [negative_eq]
    · -- A number without a sign is above zero, since zero is an integer.
      have above : 0 < (Binary.finite negative mantissa exponent).number ↔ negative = false := by
        rw [← Bool.not_eq_true, ← sign, not_lt, lt_iff_le_and_ne, and_iff_left]
        exact fun zero => integral ⟨0, by rw [← zero, Int.cast_zero]⟩
      rw [← String.toList_inj, short.eq_iff, or_iff_right integral, above]

/-- What is shown for minus twelve and a half is the nearest integer cut short. -/
theorem display_noPlaces_twelve :
    display (Float.ofBits 0xc029000000000000) (Settings.placesOf (.int 0)) = .ok "-12" ∧
      ∃ n : ℤ, IsNearestMultiple 0 n (Binary.ofFloat (Float.ofBits 0xc029000000000000)).number ∧
        IsCutShort true n "-12".toList := by
  have finite : (Float.ofBits 0xc029000000000000).isFinite = true := by decide +kernel
  have shown : display (Float.ofBits 0xc029000000000000) (Settings.placesOf (.int 0)) =
      .ok "-12" := by decide +kernel
  have taken : Binary.ofFloat (Float.ofBits 0xc029000000000000) =
      .finite true 0x19000000000000 (-49) := by decide +kernel
  -- The general theorem gives the nearest integer, and that there is one.
  obtain ⟨n, text, again, nearest, -, short, -⟩ := display_noPlaces _ finite
  obtain rfl := Except.ok.inj (shown.symm.trans again)
  have number : (Binary.ofFloat (Float.ofBits 0xc029000000000000)).number = -(25 / 2) := by
    rw [taken]
    norm_num [Binary.number, magnitude]
  -- Twice an integer is even, which twenty-five is not.
  have broken : ¬ ∃ m : ℤ, (Binary.ofFloat (Float.ofBits 0xc029000000000000)).number = m := by
    rintro ⟨m, same⟩
    rw [number] at same
    have odd : (-25 : ℚ) = (2 * m : ℤ) := by
      push_cast
      linarith
    have twice : (-25 : ℤ) = 2 * m := by exact_mod_cast odd
    omega
  have negative : decide ((Binary.ofFloat (Float.ofBits 0xc029000000000000)).number < 0) = true := by
    rw [number]
    norm_num
  exact ⟨shown, n, nearest, negative ▸ short broken⟩

/-- Ten and a half loses the zero of the ten that it is rounded to, and minus a half the digit of
the zero. -/
theorem display_noPlaces_cut :
    ((Float.ofBits 0x4025000000000000).isFinite = true ∧
      IsNearestMultiple 0 10 (Binary.ofFloat (Float.ofBits 0x4025000000000000)).number ∧
      display (Float.ofBits 0x4025000000000000) (Settings.placesOf (.int 0)) = .ok "1") ∧
    (Float.ofBits 0xbfe0000000000000).isFinite = true ∧
      IsNearestMultiple 0 0 (Binary.ofFloat (Float.ofBits 0xbfe0000000000000)).number ∧
      display (Float.ofBits 0xbfe0000000000000) (Settings.placesOf (.int 0)) = .ok "-" := by
  have ten : Binary.ofFloat (Float.ofBits 0x4025000000000000) =
      .finite false 0x15000000000000 (-49) := by decide +kernel
  have half : Binary.ofFloat (Float.ofBits 0xbfe0000000000000) =
      .finite true 0x10000000000000 (-53) := by decide +kernel
  refine ⟨⟨by decide +kernel, ?_, by decide +kernel⟩, by decide +kernel, ?_, by decide +kernel⟩
  · -- Ten is half a unit away and even.
    rw [ten]
    have nearest := @isNearestMultiple_of_near 0
      (Binary.finite false 0x15000000000000 (-49)).number 10
      (by norm_num [Binary.number, magnitude, abs_le]) (fun _ => by decide)
    simpa using nearest
  · -- Zero is half a unit away and even.
    rw [half]
    have nearest := @isNearestMultiple_of_near 0
      (Binary.finite true 0x10000000000000 (-53)).number 0
      (by norm_num [Binary.number, magnitude, abs_le]) (fun _ => by decide)
    simpa using nearest

end DeskCalc
