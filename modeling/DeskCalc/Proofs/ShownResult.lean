import DeskCalc.Display
import DeskCalc.Proofs.Expression.Numeral
import DeskCalc.Proofs.Number.ShownNumber
import DeskCalc.Proofs.Number.SpelledPlaces
import DeskCalc.Settings.Store

/-! Shown results: a finite result is shown as a text that is evaluated to a double
which is shown the same, so that working it out again changes nothing. -/

namespace DeskCalc

open DeskCalc.Expression DeskCalc.Number

/-- The places that a positive integer asks for are as many, or more than can be asked for. -/
theorem placesOf_int {places : ℤ} (positive : 1 ≤ places) :
    (places ≤ Places.maxCount ∧
      Settings.placesOf (.int places) = .count places.toNat ∧ 0 < places.toNat) ∨
    (Places.maxCount < places ∧ ∃ fault, Settings.placesOf (.int places) = .unusable fault) := by
  obtain ⟨count, rfl⟩ := Int.eq_ofNat_of_zero_le (Int.le_trans (by decide) positive)
  -- A setting that is an integer is written with its digits.
  have spelled : Settings.placesOf (.int count) = .ofText (toString count) := rfl
  rw [spelled]
  rcases Nat.lt_or_ge Places.maxCount count with many | few
  · -- Beyond the largest number the digits are refused.
    exact .inr ⟨by exact_mod_cast many, Places.ofText_toString_of_lt many⟩
  · refine .inl ⟨by exact_mod_cast few, Places.ofText_toString_of_le few, ?_⟩
    exact Int.pos_iff_toNat_pos.mp positive

section Doubles

variable {value : Float} {places : ℤ} {text : String}

/-- What is shown for a finite double shows itself. -/
theorem showsItself_of_display (positive : 1 ≤ places) (finite : value.isFinite = true)
    (shown : display value (Settings.placesOf (.int places)) = .ok text) :
    ShowsItself (Settings.placesOf (.int places)) text := by
  -- A finite double is one that has a mantissa and an exponent.
  obtain ⟨negative, mantissa, exponent, taken⟩ := isFinite_iff.mp finite
  have canonical := isCanonical_of_ofBits taken
  rw [display, taken] at shown
  by_cases whole : ∃ n : Nat, magnitude mantissa exponent = n
  · -- An integer is shown with all its digits at any places.
    obtain ⟨n, whole⟩ := whole
    rw [Binary.display_of_eq whole Nat.one_pos] at shown
    obtain rfl := Except.ok.inj shown
    exact showsItself_of_eq negative canonical whole _
  · -- Only an integer is shown at places that are refused.
    have broken : IsBroken mantissa exponent := not_exists.mp whole
    rcases placesOf_int positive with ⟨-, asked, some⟩ | ⟨-, fault, refused⟩
    · rw [asked, Binary.display_of_isBroken broken some] at shown
      obtain rfl := Except.ok.inj shown
      rw [asked]
      exact showsItself_of_isBroken negative canonical broken some
    · rw [refused, Binary.display, Binary.toInt?_of_isBroken broken] at shown
      cases shown

/-- A finite double is shown unless it is no integer and too many places are asked for. -/
theorem display_isOk_iff (positive : 1 ≤ places) (finite : value.isFinite = true) :
    (∃ text, display value (Settings.placesOf (.int places)) = .ok text) ↔
      (Binary.ofFloat value).toInt?.isSome = true ∨ places ≤ Places.maxCount := by
  -- The mantissa and the exponent of the double tell whether it is an integer.
  obtain ⟨negative, mantissa, exponent, taken⟩ := isFinite_iff.mp finite
  rw [display, taken]
  by_cases whole : ∃ n : Nat, magnitude mantissa exponent = n
  · obtain ⟨n, whole⟩ := whole
    rw [Binary.display_of_eq whole Nat.one_pos, Binary.toInt?_of_eq whole]
    simp
  · -- Anything else is shown at the places, which may be refused.
    have broken : IsBroken mantissa exponent := not_exists.mp whole
    rcases placesOf_int positive with ⟨few, asked, some⟩ | ⟨many, fault, refused⟩
    · rw [asked, Binary.display_of_isBroken broken some]
      simp [few]
    · rw [refused, Binary.display, Binary.toInt?_of_isBroken broken]
      simp [many]

/-- A text that shows itself is evaluated to a double that is shown as this text. -/
theorem Number.ShowsItself.evaluate {asked : Places} (itself : ShowsItself asked text) :
    ∃ again, evaluate text = .ok again ∧ display again asked = .ok text := by
  obtain ⟨negative, units, count, positive, bound, rfl, all⟩ := itself
  obtain ⟨again, mantissa, exponent, evaluates, taken, isNearest⟩ :=
    evaluate_shownText negative positive bound
  refine ⟨again, evaluates, ?_⟩
  -- The double that the text comes to is nearest to the units that the text denotes.
  rw [display, taken]
  exact all mantissa exponent isNearest

end Doubles

/-- A text that comes to a value is not blank. -/
theorem not_allBlank_of_evaluate {text : String} {value : Float}
    (evaluates : evaluate text = .ok value) : ¬ Text.allBlank text = true := by
  intro blank
  obtain ⟨tree, ⟨-, stop, derived, done⟩, -⟩ := exists_isSyntaxTree_of_evaluate_eq_ok evaluates
  -- A derivation takes characters, and without blanks none are left.
  have occupied := derived.length_lt
  rw [Text.withoutBlanks_eq_nil_iff.mpr blank] at occupied
  exact Nat.not_lt_zero _ occupied

/-- A text that comes to a value is calculated to it. -/
theorem calculate_of_evaluate {text : String} {value : Float}
    (evaluates : evaluate text = .ok value) :
    (calculate (some text)).outcome = .ok (.value value) := by
  rw [calculate, if_neg (not_allBlank_of_evaluate evaluates)]
  -- Its evaluation is all that a text which is not blank is calculated by.
  unfold evaluate at evaluates
  unfold Calculation.ofText
  simp only [evaluates]

/-- A value that is worked out is shown and becomes the expression too, or the places are refused. -/
theorem Display.press_equals (before : Display) (places : Places) {value : Float}
    (outcome : (calculate (some before.expression)).outcome = .ok (.value value)) :
    before.press "=" places = match display value places with
      | .ok text => .ok ⟨text, text, true⟩
      | .error fault => .error (.places fault) := by
  -- A blank expression would have been a fault.
  have solid : ¬ Text.allBlank before.expression = true := by
    intro blank
    simp [calculate, blank] at outcome
  show before.equals places = _
  rw [equals, if_neg solid, outcome]
  -- Either the value is shown or its places are refused, and nothing else can happen.
  cases shown : Number.display value places with
  | ok text => simp [applyOutcome, shown, Except.map]
  | error fault => simp [applyOutcome, shown, Except.map]

/-- A shown result is a fixed point: unless it is refused for too many places, a finite double
is shown as a text that is evaluated to a double which is shown the same,
and after a finite result the equals button changes nothing any more. -/
theorem display_fixedPoint {places : ℤ} (positive : 1 ≤ places) :
    (∀ value : Float, value.isFinite = true →
      ((∃ text, display value (Settings.placesOf (.int places)) = .ok text) ↔
        (Binary.ofFloat value).toInt?.isSome = true ∨ places ≤ Places.maxCount) ∧
      ∀ text, display value (Settings.placesOf (.int places)) = .ok text →
        ∃ again, evaluate text = .ok again ∧
          display again (Settings.placesOf (.int places)) = .ok text) ∧
    ∀ (before after : Display) (value : Float), value.isFinite = true →
      (calculate (some before.expression)).outcome = .ok (.value value) →
      before.press "=" (Settings.placesOf (.int places)) = .ok after →
      after.press "=" (Settings.placesOf (.int places)) = .ok after := by
  constructor
  · intro value finite
    refine ⟨display_isOk_iff positive finite, fun text shown => ?_⟩
    exact (showsItself_of_display positive finite shown).evaluate
  · intro before after value finite outcome pressed
    rw [before.press_equals _ outcome] at pressed
    cases shown : display value (Settings.placesOf (.int places)) with
    | error fault =>
      rw [shown] at pressed
      cases pressed
    | ok text =>
      rw [shown] at pressed
      obtain rfl := Except.ok.inj pressed
      -- The display holds the text as its expression, so the same text comes out of it.
      obtain ⟨again, evaluates, same⟩ := (showsItself_of_display positive finite shown).evaluate
      rw [Display.press_equals ⟨text, text, true⟩ _ (calculate_of_evaluate evaluates), same]

/-- A third at two places, and the display that works it out. -/
theorem display_fixedPoint_third :
    (∃ again, evaluate "0.33" = .ok again ∧
      display again (Settings.placesOf (.int 2)) = .ok "0.33") ∧
    Display.press ⟨"0.33", "0.33", true⟩ "=" (Settings.placesOf (.int 2)) =
      .ok ⟨"0.33", "0.33", true⟩ := by
  -- The third is worked out once, and shown as the theorem asks.
  have positive : (1 : ℤ) ≤ 2 := by decide
  have finite : (Float.ofBits 0x3fd5555555555555).isFinite = true := by decide +kernel
  have shown : display (Float.ofBits 0x3fd5555555555555) (Settings.placesOf (.int 2)) =
      .ok "0.33" := by decide +kernel
  have outcome : (calculate (some "1/3")).outcome = .ok (.value (Float.ofBits 0x3fd5555555555555)) :=
    rfl
  have pressed : Display.press ⟨"1/3", "0", false⟩ "=" (Settings.placesOf (.int 2)) =
      .ok ⟨"0.33", "0.33", true⟩ := by
    rw [Display.press_equals ⟨"1/3", "0", false⟩ _ outcome, shown]
  constructor
  · exact ((display_fixedPoint positive).1 _ finite).2 _ shown
  · exact (display_fixedPoint positive).2 _ _ _ finite outcome pressed

/-- A half is not shown at all where too many places are asked for. -/
theorem display_half_refused :
    (Float.ofBits 0x3fe0000000000000).isFinite = true ∧ ∀ text,
      display (Float.ofBits 0x3fe0000000000000) (Settings.placesOf (.int 2147483648)) ≠ .ok text := by
  have refused : display (Float.ofBits 0x3fe0000000000000) (Settings.placesOf (.int 2147483648)) =
      .error .tooBig := by decide +kernel
  refine ⟨by decide +kernel, fun text shown => ?_⟩
  rw [refused] at shown
  cases shown

end DeskCalc
