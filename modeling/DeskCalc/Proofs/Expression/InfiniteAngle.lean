import DeskCalc.Calculation
import DeskCalc.Proofs.Expression.Failing

/-! Infinite angles: the only thing that keeps a calculation from an outcome
is a trigonometric function of an infinite number. -/

namespace DeskCalc.Expression

open DeskCalc.Number

/-- The functions of an angle. -/
def NamedFunction.takesAngle : NamedFunction → Bool
  | sin | cos | tan => true
  | sqrt | log | ln => false

/-- An angle has no value when it is infinite, also in radians. -/
theorem NamedFunction.ofAngle_eq_error_iff {apply : Float → Float} {degrees : Float}
    {failure : Failure} : ofAngle apply degrees = .error failure ↔
      (degrees * degree).isInf = true ∧ failure = .angleWithoutValue := by
  -- Whether the angle is infinite is all that is asked.
  simp only [ofAngle]
  split
  · rename_i infinite
    simp [infinite, eq_comm]
  · rename_i finite
    simp [finite]

/-- Applied to an infinite angle a function fails without a fault, and in no other case. -/
theorem NamedFunction.apply_eq_angleWithoutValue_iff {function : NamedFunction} {argument : Float}
    {position : Option Int} : function.apply argument position = .error .angleWithoutValue ↔
      function.takesAngle = true ∧ (argument * degree).isInf = true := by
  -- Square roots and logarithms fail with faults, for which the cause is not asked.
  have fault (outside : Bool) (found : Fault) (value : Float) :
      (if outside = true then Except.error (Failure.fault found) else .ok value) ≠
        .error .angleWithoutValue := by
    cases outside <;> simp
  cases function with
  | sin | cos | tan => simp [apply, takesAngle, ofAngle_eq_error_iff]
  | sqrt =>
    simp only [apply, takesAngle, Bool.false_eq_true, false_and, iff_false]
    exact fun fails => fault (decide (argument < 0)) _ _ (by simpa [squareRoot] using fails)
  | log | ln =>
    simp only [apply, takesAngle, Bool.false_eq_true, false_and, iff_false]
    exact fun fails => fault (decide (argument ≤ 0)) _ _
      (by simpa [commonLog, naturalLog, logarithm] using fails)

/-- Operators fail with faults only. -/
theorem Operator.apply_ne_angleWithoutValue (operator : Operator) (left right : Float)
    (position : Nat) : operator.apply left right position ≠ .error .angleWithoutValue := by
  -- A division by zero is a fault.
  cases operator with
  | plus | minus | times => simp [Operator.apply]
  | slash =>
    simp only [Operator.apply, divide]
    split <;> simp

/-- A text meets an infinite angle: reading it leads to a function of an angle
whose argument has an infinite value. -/
def MeetsInfiniteAngle (text : List Char) : Prop :=
  ∃ (depth : Nat) (place stop : Place) (function : NamedFunction) (argument : Tree)
      (degrees : Float),
    Opening.LeadsTo ⟨maxDepth, .expression, .start text⟩ ⟨depth + 1, .base, place⟩ ∧
    place.run Text.isLetter = function.name.toList ∧ function.takesAngle = true ∧
    Opening.Yields ⟨depth, .factor, place.skipRun Text.isLetter⟩ argument degrees stop ∧
    (degrees * NamedFunction.degree).isInf = true

/-- A rule that fails by itself without a fault or a limit calls a function of an infinite angle. -/
theorem Opening.Fails.exists_call {opening : Opening}
    (fails : opening.Fails .angleWithoutValue) :
    ∃ (depth : Nat) (place stop : Place) (function : NamedFunction) (argument : Tree)
        (degrees : Float), opening = ⟨depth + 1, .base, place⟩ ∧
      place.run Text.isLetter = function.name.toList ∧ function.takesAngle = true ∧
      Opening.Yields ⟨depth, .factor, place.skipRun Text.isLetter⟩ argument degrees stop ∧
      (degrees * NamedFunction.degree).isInf = true := by
  -- Every other way of failing names a fault.
  cases fails with
  | operation _ _ _ _ applied => exact absurd applied (Operator.apply_ne_angleWithoutValue _ _ _ _)
  | call named yields applied =>
    obtain ⟨takesAngle, infinite⟩ := NamedFunction.apply_eq_angleWithoutValue_iff.mp applied
    exact ⟨_, _, _, _, _, _, rfl, named, takesAngle, yields, infinite⟩

/-- An evaluation fails without a fault or a limit exactly where it meets an infinite angle. -/
theorem evaluate_eq_angleWithoutValue_iff {expression : String} :
    evaluate expression = .error .angleWithoutValue ↔
      MeetsInfiniteAngle (Text.withoutBlanks expression) := by
  -- The whole text is read as an expression, and then nothing may be left over.
  have whole : evaluate expression = .error .angleWithoutValue ↔
      (read maxDepth .expression (Scanner.start expression)).outcome =
        .error .angleWithoutValue := by
    rcases readAll_cases (Scanner.start expression) with ⟨same, -⟩ | ⟨_, _, _, reads, -, same⟩
    · rw [evaluate, same]
    · -- What is left over behind a value is a fault.
      simp [evaluate, same, reads, Reading.value, Reading.fault, Reading.failure]
  rw [whole, read_fails_iff]
  constructor
  · intro failing
    obtain ⟨inner, leads, fails⟩ := failing
    obtain ⟨depth, place, stop, function, argument, degrees, rfl, call⟩ := fails.exists_call
    exact ⟨depth, place, stop, function, argument, degrees, leads, call⟩
  · intro meets
    obtain ⟨depth, place, stop, function, argument, degrees, leads, named, takesAngle, yields,
      infinite⟩ := meets
    refine ⟨_, leads, .call named yields ?_⟩
    exact NamedFunction.apply_eq_angleWithoutValue_iff.mpr ⟨takesAngle, infinite⟩

end DeskCalc.Expression

namespace DeskCalc

open DeskCalc.Expression

/-- A calculation of a text that is not blank fails as its evaluation does,
unless that is a fault or the limit of nesting. -/
theorem Calculation.ofText_eq_error_iff {text : String} {failure : Failure} :
    (ofText text).outcome = .error failure ↔
      failure = .angleWithoutValue ∧ evaluate text = .error .angleWithoutValue := by
  -- Faults become outcomes, and so does too deep nesting; only the angle is left to fail.
  unfold ofText evaluate
  cases readAll (Scanner.start text) with
  | mk outcome scanner =>
    cases outcome with
    | ok value => simp
    | error found => cases found <;> simp [eq_comm]

/-- A blank text meets nothing. -/
theorem not_meetsInfiniteAngle_of_allBlank {text : String} (blank : Text.allBlank text = true) :
    ¬ MeetsInfiniteAngle (Text.withoutBlanks text) := by
  -- The evaluation of a blank text ends with a fault at its first character.
  rw [← evaluate_eq_angleWithoutValue_iff, evaluate, Scanner.start,
    Text.withoutBlanks_eq_nil_iff.mpr blank]
  rintro ⟨⟩

/-- A calculation comes to exactly one value or fault,
unless the expression meets an infinite angle, which is the only way in which it fails. -/
theorem calculate_outcome_eq_error_iff (expression : Option String) (failure : Failure) :
    (calculate expression).outcome = .error failure ↔ failure = .angleWithoutValue ∧
      ∃ text, expression = some text ∧ MeetsInfiniteAngle (Text.withoutBlanks text) := by
  -- A blank text and a missing one are faults before anything is evaluated.
  cases expression with
  | none => simp [calculate]
  | some text =>
    by_cases blank : Text.allBlank text = true
    · simp [calculate, blank, not_meetsInfiniteAngle_of_allBlank blank]
    · simp [calculate, blank, Calculation.ofText_eq_error_iff, evaluate_eq_angleWithoutValue_iff]

/-- A sine of a numeral that is beyond all doubles. -/
def overflowingSine : List Char :=
  's' :: 'i' :: 'n' :: List.replicate 310 '9'

/-- None of its characters is blank. -/
theorem withoutBlanks_overflowingSine :
    Text.withoutBlanks (String.ofList overflowingSine) = overflowingSine := by
  -- All characters are letters of the name or nines.
  refine Text.withoutBlanks_ofList fun c member => ?_
  simp only [overflowingSine, List.mem_cons, List.mem_replicate] at member
  rcases member with rfl | rfl | rfl | ⟨-, rfl⟩ <;> rfl

/-- The evaluation of such a sine meets its infinite angle. -/
theorem evaluate_overflowingSine :
    evaluate (String.ofList overflowingSine) = .error .angleWithoutValue := by
  have start : Scanner.start (String.ofList overflowingSine) =
      ⟨overflowingSine, 0, overflowingSine, []⟩ := by
    rw [Scanner.start, withoutBlanks_overflowingSine]
  -- The characters are all known, so the reading can be worked out.
  have fails : ((readAll ⟨overflowingSine, 0, overflowingSine, []⟩).outcome matches
      .error .angleWithoutValue) = true := by
    decide +kernel
  rw [evaluate, start]
  cases outcome : (readAll ⟨overflowingSine, 0, overflowingSine, []⟩).outcome with
  | ok value => simp [outcome] at fails
  | error failure => cases failure <;> simp [outcome] at fails ⊢

/-- The calculation of an infinite angle comes to neither a value nor a fault. -/
theorem calculate_overflowingSine_fails :
    ¬ ∃ outcome, (calculate (some (String.ofList overflowingSine))).outcome = .ok outcome := by
  -- The text is not blank, so it is evaluated.
  have solid : ¬ Text.allBlank (String.ofList overflowingSine) = true := by
    rw [← Text.withoutBlanks_eq_nil_iff, withoutBlanks_overflowingSine]
    exact List.cons_ne_nil _ _
  intro delivers
  obtain ⟨outcome, ok⟩ := delivers
  rw [calculate, if_neg solid,
    Calculation.ofText_eq_error_iff.mpr ⟨rfl, evaluate_overflowingSine⟩] at ok
  cases ok

end DeskCalc
