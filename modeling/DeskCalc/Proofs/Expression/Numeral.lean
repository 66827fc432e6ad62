import DeskCalc.Proofs.Expression.SyntaxTree
import DeskCalc.Proofs.Number.NearestDouble
import DeskCalc.Proofs.Number.DecimalText

/-! Numerals as expressions: a decimal text is evaluated to the double nearest to it. -/

namespace DeskCalc.Expression

open DeskCalc.Number

/-- Numeral characters are not blank. -/
theorem isBlank_of_isNumeralChar {c : Char} (member : isNumeralChar c = true) :
    Text.isBlank c = false := by
  simp only [isNumeralChar, Char.isDigit, Bool.or_eq_true, Bool.and_eq_true, beq_iff_eq,
    decide_eq_true_eq, UInt32.le_iff_toNat_le] at member
  rcases member with ⟨low, high⟩ | rfl
  · -- The digits stand between two ranges of blanks.
    have lowNat : 48 ≤ c.toNat := low
    have highNat : c.toNat ≤ 57 := high
    simp only [Text.isBlank, Bool.or_eq_false_iff, Bool.and_eq_false_iff, decide_eq_false_iff_not,
      beq_eq_false_iff_ne]
    omega
  · decide

/-- A numeral is made of numeral characters. -/
theorem IsNumeral.isNumeralChar_of_mem {text whole fraction : List Char}
    (numeral : IsNumeral text whole fraction) {c : Char} (member : c ∈ text) :
    isNumeralChar c = true := by
  have digit {digits : List Char} (all : digits.all Char.isDigit = true) (inside : c ∈ digits) :
      isNumeralChar c = true := by
    simp [isNumeralChar, List.all_eq_true.mp all c inside]
  -- The digits and the point are all there is in one of the three forms.
  cases numeral with
  | whole _ all => exact digit all member
  | point _ allWhole allFraction =>
    rcases List.mem_append.mp member with before | behind
    · exact digit allWhole before
    · rcases List.mem_cons.mp behind with rfl | behind
      · rfl
      · exact digit allFraction behind
  | fraction _ all =>
    rcases List.mem_cons.mp member with rfl | behind
    · rfl
    · exact digit all behind

section Numerals

variable {text whole fraction : List Char}

/-- A numeral is a base up to its end. -/
theorem IsNumeral.derives (numeral : IsNumeral text whole fraction) {start : Place}
    (here : start.rest = text) :
    Derives .base start (.number whole fraction) (start.skipRun isNumeralChar) ∧
      (start.skipRun isNumeralChar).rest = [] := by
  -- The run of numeral characters takes the whole numeral, and nothing is behind it.
  have all : ∀ c ∈ text, isNumeralChar c = true := fun c => numeral.isNumeralChar_of_mem
  have run : start.run isNumeralChar = text := by
    rw [Place.run, here, List.takeWhile_eq_self_iff.mpr all]
  refine ⟨.number (run.symm ▸ numeral), ?_⟩
  rw [Place.skipRun, here, List.dropWhile_eq_nil_iff.mpr all]

/-- A numeral comes to the double nearest to it. -/
theorem IsNumeral.evaluate_eq (numeral : IsNumeral text whole fraction) :
    evaluate (String.ofList text) =
      .ok (nearest false (ofDigits (whole ++ fraction)) (10 ^ fraction.length)) := by
  -- Nothing is dropped from the text, because none of its characters is blank.
  have solid : Text.withoutBlanks (String.ofList text) = text :=
    Text.withoutBlanks_ofList fun c member =>
      isBlank_of_isNumeralChar (numeral.isNumeralChar_of_mem member)
  obtain ⟨derived, done⟩ := numeral.derives (show (Place.start text).rest = text from rfl)
  have parses : IsSyntaxTree text (.number whole fraction) :=
    ⟨trivial, _, .term (.factor (.power (.base derived))), done⟩
  rw [← solid] at parses
  exact parses.evaluate_eq (by simp [Tree.nesting, Rule.rank, maxDepth])

/-- A numeral behind a minus sign comes to the double nearest to the negative number. -/
theorem IsNumeral.evaluate_negative (numeral : IsNumeral text whole fraction) :
    evaluate (String.ofList ('-' :: text)) =
      .ok (nearest true (ofDigits (whole ++ fraction)) (10 ^ fraction.length)) := by
  have solid : Text.withoutBlanks (String.ofList ('-' :: text)) = '-' :: text := by
    -- The minus sign is not blank either.
    refine Text.withoutBlanks_ofList fun c member => ?_
    rcases List.mem_cons.mp member with rfl | behind
    · decide
    · exact isBlank_of_isNumeralChar (numeral.isNumeralChar_of_mem behind)
  -- The sign is a factor of its own, with the numeral as its operand.
  obtain ⟨derived, done⟩ := numeral.derives
    (show (Place.start ('-' :: text)).advance.rest = text from rfl)
  have parses : IsSyntaxTree ('-' :: text) (.negative (.number whole fraction)) :=
    ⟨trivial, _, .term (.factor (.negative rfl (.power (.base derived)))), done⟩
  rw [← solid] at parses
  rw [parses.evaluate_eq (by simp [Tree.nesting, Rule.rank, maxDepth]), ← neg_nearest]
  rfl

end Numerals

/-- A decimal text is a numeral. -/
theorem isNumeral_decimalText (units places : Nat) :
    IsNumeral (decimalText units places) (wholeDigits units places) (shortFraction units places) := by
  -- Both parts are made of digits, and the whole part is not empty.
  have whole : (wholeDigits units places).all Char.isDigit = true :=
    List.all_eq_true.mpr fun c => isDigit_of_mem_toString
  have fraction : (shortFraction units places).all Char.isDigit = true :=
    List.all_eq_true.mpr fun c => isDigit_of_mem_shortFraction
  have occupied : wholeDigits units places ≠ [] := toString_ne_nil _
  unfold decimalText
  -- Without a fraction the point is missing too.
  by_cases nothing : shortFraction units places = []
  · rw [if_pos nothing, nothing, List.append_nil]
    exact .whole occupied whole
  · rw [if_neg nothing]
    exact .point occupied whole fraction

/-- What is shown for some units comes to a double, and none is nearer to the units. -/
theorem evaluate_shownText (negative : Bool) {units places : Nat} (positive : 0 < places)
    (bound : (units / 10 ^ places : ℚ) ≤ largest) :
    ∃ value mantissa exponent,
      evaluate (String.ofList (shownText negative units places)) = .ok value ∧
      Binary.ofFloat value = .finite (negative && units != 0) mantissa exponent ∧
      IsNearest mantissa exponent (units / 10 ^ places) := by
  have numeral := isNumeral_decimalText units places
  have value := @ofDigits_short units places positive
  have divides : 0 < 10 ^ (shortFraction units places).length := Nat.pow_pos (by decide)
  -- The digits denote the units, so the double nearest to the digits is nearest to the units.
  have spec (sign : Bool) := ofFloat_nearest sign
    (ofDigits (wholeDigits units places ++ shortFraction units places)) divides
    (by push_cast; rwa [value])
  push_cast at spec
  rw [value] at spec
  -- A zero has no sign, so it is the numeral without one.
  by_cases none : units = 0
  · have sign : (negative && units != 0) = false := by simp [none]
    obtain ⟨mantissa, exponent, taken, isNearest⟩ := spec false
    rw [sign, shownText, if_pos none, ← (decimalText_eq_zero_iff positive).mpr none]
    exact ⟨_, mantissa, exponent, numeral.evaluate_eq, taken, isNearest⟩
  · have sign : (negative && units != 0) = negative := by simp [none]
    obtain ⟨mantissa, exponent, taken, isNearest⟩ := spec negative
    rw [sign, shownText, if_neg none]
    refine ⟨_, mantissa, exponent, ?_, taken, isNearest⟩
    -- The sign decides between the numeral and the numeral behind a minus sign.
    cases negative with
    | false => exact numeral.evaluate_eq
    | true => exact numeral.evaluate_negative

end DeskCalc.Expression
