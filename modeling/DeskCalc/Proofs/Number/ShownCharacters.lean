import DeskCalc.Number.FixedPoint
import DeskCalc.Proofs.Json.Numbers
import DeskCalc.Settings.Store

/-! Shown characters: whatever integer of places the settings ask for, a result that is a number
is made of digits, points and a sign. -/

namespace DeskCalc.Number

/-- The characters of a number that is shown. -/
def isShownChar (c : Char) : Bool :=
  c.isDigit || c == '-' || c == '.'

/-- An integer that is written out consists of digits behind a sign. -/
theorem isShownChar_toString (n : ℤ) : ∀ c ∈ (toString n).toList, isShownChar c = true := by
  intro c member
  rw [Json.toString_eq_signed] at member
  have digit {m : Nat} (member : c ∈ (toString m).toList) : isShownChar c = true := by
    simp [isShownChar, isDigit_of_mem_toString member]
  -- Only a negative integer has a sign.
  unfold signed at member
  split at member
  · rcases List.mem_cons.mp member with rfl | behind
    · decide
    · exact digit behind
  · exact digit member

/-- Nothing is added to a text by dropping the end of it. -/
theorem dropTrailing_subset (drop : Char → Bool) (text : List Char) :
    dropTrailing drop text ⊆ text := by
  intro c member
  exact List.mem_reverse.mp ((List.dropWhile_suffix drop).subset (List.mem_reverse.mp member))

/-- A ratio with places consists of digits, at most one point and a sign. -/
theorem isShownChar_withPlaces (negative : Bool) (numerator denominator places : Nat) :
    ∀ c ∈ tidy (withPlaces negative numerator denominator places), isShownChar c = true := by
  intro c member
  unfold tidy at member
  dsimp only at member
  split at member
  · obtain rfl := List.mem_singleton.mp member
    decide
  · -- What is dropped at the end does not matter.
    replace member := dropTrailing_subset _ _ (dropTrailing_subset _ _ member)
    simp only [withPlaces, fixedPoint, List.mem_append] at member
    rcases member with ((sign | whole) | point) | fraction
    · split at sign
      · obtain rfl := List.mem_singleton.mp sign
        decide
      · cases sign
    · simp [isShownChar, isDigit_of_mem_toString whole]
    · split at point
      · cases point
      · obtain rfl := List.mem_singleton.mp point
        decide
    · simp [isShownChar, isDigit_of_mem_fractionDigits fraction]

/-- A setting that does not start with an alignment is no field. -/
theorem Places.ofText_ne_field {setting : String}
    (bare : setting.toList.head?.bind Alignment.ofChar? = none) (layout : Field) :
    ofText setting ≠ .field layout := by
  unfold ofText readSetting
  rw [bare]
  dsimp only
  -- Without an alignment the setting is a number of places, with or without something behind it.
  cases readPlaces setting.toList with
  | error fault => simp [Except.map]
  | ok read =>
    obtain ⟨places, rest⟩ := read
    cases rest with
    | cons c rest => simp [Except.map]
    | nil =>
      simp only [Except.map, bounded]
      split <;> simp

/-- An integer as a setting is no field. -/
theorem placesOf_int_ne_field (places : ℤ) (layout : Field) :
    Settings.placesOf (.int places) ≠ .field layout := by
  have spelled : Settings.placesOf (.int places) = .ofText (toString places) := rfl
  rw [spelled]
  refine Places.ofText_ne_field ?_ layout
  -- It starts with a sign or with a digit.
  cases first : (toString places).toList.head? with
  | none => rfl
  | some c =>
    have shown := isShownChar_toString places c (List.mem_of_head? first)
    rw [Option.bind_some]
    unfold Alignment.ofChar?
    -- None of these starts a field.
    split
    case h_5 => rfl
    all_goals cases shown

/-- What is shown for a value at any integer of places is a number, or says that it is none. -/
theorem display_chars {value : Float} {places : ℤ} {text : String}
    (shown : Number.display value (Settings.placesOf (.int places)) = .ok text) :
    text ∈ ["NaN", "Infinity", "-Infinity"] ∨ ∀ c ∈ text.toList, isShownChar c = true := by
  unfold Number.display at shown
  -- What is not finite is shown by a name of its own.
  cases taken : Number.Binary.ofFloat value with
  | nan =>
    rw [taken] at shown
    obtain rfl := Except.ok.inj shown
    exact .inl (by decide)
  | infinity negative =>
    rw [taken] at shown
    obtain rfl := Except.ok.inj shown
    exact .inl (by cases negative <;> decide)
  | finite negative mantissa exponent =>
    right
    rw [taken, Binary.display] at shown
    split at shown
    · -- An integer is shown with its digits.
      obtain rfl := Except.ok.inj shown
      exact isShownChar_toString _
    · dsimp only at shown
      split at shown
      · obtain rfl := Except.ok.inj shown
        rw [String.toList_ofList]
        exact isShownChar_withPlaces _ _ _ _
      · -- The places are an integer, so there is no field.
        rename_i layout asked
        exact absurd asked (placesOf_int_ne_field places layout)
      · cases shown

end DeskCalc.Number
