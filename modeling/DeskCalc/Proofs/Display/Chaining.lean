import DeskCalc.Proofs.Display.Typing
import DeskCalc.Proofs.Expression.Displacement
import DeskCalc.Proofs.Expression.Spelling

/-! Chaining: an operator behind a result goes on with the result as a whole, as if it stood in
parentheses, whatever is put behind the operator. -/

namespace DeskCalc

namespace Expression

open DeskCalc.Number

section Grouped

variable {text whole fraction tail : List Char} {c : Char}

/-- In front of a character that does not prolong it a numeral is read by any rule that is done
there. -/
theorem IsNumeral.read_eq (numeral : IsNumeral text whole fraction) {scanner : Scanner}
    (here : scanner.rest = text ++ c :: tail) (ends : isNumeralChar c = false) (rule : Rule)
    (derives : Derives .base scanner.place (.number whole fraction)
        (scanner.place.skipRun isNumeralChar) →
      Derives rule scanner.place (.number whole fraction) (scanner.place.skipRun isNumeralChar))
    (done : rule ≠ .base → rule.goesOn c = false) {depth : Nat} (room : rule.rank ≤ depth) :
    ∃ after : Scanner, after.text = scanner.text ∧ after.rest = c :: tail ∧
      after.position = scanner.position + text.length ∧
      read depth rule scanner =
        .value (nearest false (ofDigits (whole ++ fraction)) (10 ^ fraction.length)) after := by
  obtain ⟨run, rest⟩ := Place.run_eq (show scanner.place.rest = _ from here)
    (fun d => numeral.isNumeralChar_of_mem) (by rintro d ⟨⟩; exact ends)
  have derived := derives (.number (run.symm ▸ numeral))
  -- What follows the numeral is a character with which the rule does not go on.
  have char : (scanner.place.skipRun isNumeralChar).char? = some c := by
    rw [Place.char?, rest, List.head?_cons]
  have yields : Opening.Yields ⟨depth, rule, scanner.place⟩ (.number whole fraction)
      (nearest false (ofDigits (whole ++ fraction)) (10 ^ fraction.length))
      (scanner.place.skipRun isNumeralChar) :=
    ⟨⟨derived, trivial, rfl, room⟩, fun loose => Place.ends_of_char char (done loose)⟩
  obtain ⟨after, there, reads⟩ := yields.read_eq rfl
  refine ⟨after, congrArg Place.text there, (congrArg Place.rest there).trans rest, ?_, reads⟩
  rw [← Scanner.place_position, there, ← run]
  rfl

/-- A numeral in parentheses is read as the numeral is, with all that follows two characters
further on. -/
theorem IsNumeral.evaluate_group (numeral : IsNumeral text whole fraction)
    (ends : isNumeralChar c = false) {bare grouped : String}
    (bare_eq : Text.withoutBlanks bare = text ++ c :: tail)
    (grouped_eq : Text.withoutBlanks grouped = '(' :: (text ++ ')' :: c :: tail)) :
    evaluate grouped = (evaluate bare).mapError (·.displaced 2) := by
  -- The two readings differ in the base that they begin with, and are displaced behind it.
  set first := Scanner.start bare with firstEq
  set second := Scanner.start grouped with secondEq
  have firstRest : first.rest = text ++ c :: tail := bare_eq
  have secondRest : second.rest = '(' :: (text ++ ')' :: c :: tail) := grouped_eq
  have opened : second.place.char? = some '(' := by
    simp [Scanner.char?, secondRest]
  have inside : second.advance.rest = text ++ ')' :: c :: tail := by
    simp [Scanner.advance, secondRest]
  -- Both bases come to the numeral, the second one behind its closing parenthesis.
  obtain ⟨after, afterText, afterRest, afterPosition, reads⟩ := numeral.read_eq firstRest ends
    .base id (absurd rfl) (show Rule.base.rank ≤ maxDepth - 4 by decide)
  obtain ⟨last, lastText, lastRest, lastPosition, readsInside⟩ := numeral.read_eq inside
    (by decide) .expression (fun base => .term (.factor (.power (.base base))))
    (fun _ => by decide) (show Rule.expression.rank ≤ maxDepth - 5 by decide)
  have closed : last.char? = some ')' := by simp [Scanner.char?, lastRest]
  have readsGroup : read (maxDepth - 4) .base second = .value
      (nearest false (ofDigits (whole ++ fraction)) (10 ^ fraction.length)) last.advance := by
    show read (maxDepth - 5 + 1) .base second = _
    simp only [read_group opened, readsInside, Reading.value_andThen, closed, beq_self_eq_true,
      if_true]
  -- From there on the same characters are left, two positions further on.
  have displaced : after.IsDisplaced 2 last.advance := by
    refine ⟨?_, by simp [Scanner.advance, lastRest, afterRest], ?_⟩
    · have position : second.advance.position = first.position + 1 := rfl
      simp only [Scanner.advance] at position ⊢
      simp only [lastPosition, afterPosition, Scanner.advance, position]
      omega
    · show last.text.isEmpty = after.text.isEmpty
      have occupied : second.advance.text = '(' :: (text ++ ')' :: c :: tail) := grouped_eq
      have firstText : first.text = text ++ c :: tail := bare_eq
      simp [lastText, afterText, occupied, firstText]
  -- Neither of them stands behind a sign of its own.
  obtain ⟨initial, others, split⟩ := numeral.exists_cons
  have member : isNumeralChar initial = true :=
    numeral.isNumeralChar_of_mem (split ▸ List.mem_cons_self)
  have unsigned : initial ≠ '+' ∧ initial ≠ '-' := by
    constructor <;> rintro rfl <;> cases member
  have here : first.char? = some initial := by simp [Scanner.char?, firstRest, split]
  exact (readAll_displaced here opened unsigned (by decide)
    (by rw [reads, readsGroup]; exact .value displaced _)).outcome

end Grouped

end Expression

open DeskCalc.Expression DeskCalc.Number

/-- What is shown for a number is a numeral, or a minus sign in front of one. -/
theorem Number.shownText_cases (negative : Bool) (units : Nat) {places : Nat}
    (positive : 0 < places) :
    (∃ whole fraction, IsNumeral (shownText negative units places) whole fraction) ∨
      ∃ text whole fraction, IsNumeral text whole fraction ∧
        shownText negative units places = '-' :: text := by
  have numeral := isNumeral_decimalText units places
  unfold shownText
  by_cases none : units = 0
  · -- The bare zero is the numeral of no units.
    rw [if_pos none, ← (decimalText_eq_zero_iff positive).mpr none]
    exact .inl ⟨_, _, numeral⟩
  · rw [if_neg none]
    cases negative with
    | true => exact .inr ⟨_, _, _, numeral, rfl⟩
    | false => exact .inl ⟨_, _, numeral⟩

namespace Display

section Chaining

variable {display : Display} {token : String}

/-- Behind a number that has been worked out an operator follows the number as an operand. -/
theorem appendToken_expression (evaluated : display.justEvaluated = true)
    (chainable : isChainable display.result = true) (operator : isOperatorToken token = true)
    {last : Char} (ends : (operand display.result).toList.getLast? = some last)
    (alone : isOperator last = false) :
    (display.appendToken token).expression = operand display.result ++ token := by
  -- The operand takes the place of the expression, and does not end with an operator.
  obtain ⟨noPoint, noFunction⟩ := other_of_isOperatorToken operator
  have before : display.beforeToken token =
      { expression := operand display.result, result := display.result } := by
    simp [beforeToken, evaluated, operator, chainable]
  simp [appendToken, before, noPoint, noFunction, operator, appendOperator, ends, alone, append]

/-- A result that is made of numeral characters and minus signs can be calculated with. -/
theorem isChainable_of_members {result : String}
    (members : ∀ c ∈ result.toList, isNumeralChar c = true ∨ c = '-') :
    isChainable result = true := by
  -- Each of the words that stand for no number has a capital letter.
  have differs {word : String} {capital : Char} (inside : capital ∈ word.toList)
      (other : isNumeralChar capital = false) (letter : capital ≠ '-') : result ≠ word := by
    rintro rfl
    rcases members capital inside with known | same
    · rw [other] at known
      cases known
    · exact letter same
  have error : result ≠ errorText := @differs errorText 'E' (by decide) (by decide) (by decide)
  have infinity : result ≠ "Infinity" := @differs _ 'I' (by decide) (by decide) (by decide)
  have negative : result ≠ "-Infinity" := @differs _ 'I' (by decide) (by decide) (by decide)
  have nan : result ≠ "NaN" := @differs _ 'N' (by decide) (by decide) (by decide)
  simp [isChainable, error, infinity, negative, nan]

/-- An operator behind a numeral that has been worked out is evaluated as behind the numeral
in parentheses, two characters further on. -/
theorem evaluate_chained_numeral {text whole fraction : List Char}
    (numeral : IsNumeral text whole fraction) (evaluated : display.justEvaluated = true)
    (result : display.result = String.ofList text) (isOperator : isOperatorToken token = true)
    (further : String) :
    evaluate ("(" ++ display.result ++ ")" ++ token ++ further) =
      (evaluate ((display.appendToken token).expression ++ further)).mapError
        (·.displaced 2) := by
  obtain ⟨c, same, isOp⟩ := exists_of_isOperatorToken isOperator
  have members (d : Char) (inside : d ∈ text) : isNumeralChar d = true :=
    numeral.isNumeralChar_of_mem inside
  have solid : text.filter (!Text.isBlank ·) = text :=
    List.filter_eq_self.mpr fun d inside => by
      simp [isBlank_of_isNumeralChar (members d inside)]
  -- Operators are no blanks and do not prolong a numeral.
  have solidOperator : Text.isBlank c = false ∧ isNumeralChar c = false := by
    simp only [Display.isOperator, Bool.or_eq_true, beq_iff_eq] at isOp
    rcases isOp with (((rfl | rfl) | rfl) | rfl) | rfl <;> decide
  -- The result starts without a minus sign and ends without an operator.
  obtain ⟨initial, others, split⟩ := numeral.exists_cons
  have bare : operand display.result = display.result := by
    have noMinus : initial ≠ '-' := by
      rintro rfl
      cases members '-' (split ▸ List.mem_cons_self)
    simp [operand, result, split, noMinus]
  have last : (operand display.result).toList.getLast? = some (text.getLast (by simp [split])) := by
    rw [bare, result, String.toList_ofList, List.getLast?_eq_some_getLast]
  have chainable : isChainable display.result = true :=
    isChainable_of_members fun d inside => .inl (members d (by simpa [result] using inside))
  rw [appendToken_expression evaluated chainable isOperator last
    (isOperator_of_isNumeralChar (members _ (List.getLast_mem _))), bare]
  refine numeral.evaluate_group solidOperator.2
    (?_ : Text.withoutBlanks _ = text ++ c :: Text.withoutBlanks further) ?_
  · simp [Text.withoutBlanks, result, same, solid, solidOperator.1]
  · have parentheses : Text.isBlank '(' = false ∧ Text.isBlank ')' = false := by decide
    simp [Text.withoutBlanks, result, same, solid, solidOperator.1, parentheses]

/-- Behind a result that is a number an operator goes on with all of the result: whatever follows,
the outcome is that of the result in parentheses, at the same positions if it is negative
and two characters before them if it is not. -/
theorem evaluate_chained {value : Float} {places : Int} {operator : String}
    (positive : 1 ≤ places) (finite : value.isFinite = true)
    (evaluated : display.justEvaluated = true)
    (shown : Number.display value (Settings.placesOf (.int places)) = .ok display.result)
    (isOperator : isOperatorToken operator = true) (further : String) :
    evaluate ("(" ++ display.result ++ ")" ++ operator ++ further) =
      (evaluate ((display.appendToken operator).expression ++ further)).mapError
        (·.displaced (if display.result.toList.head? = some '-' then 0 else 2)) := by
  obtain ⟨negative, units, count, some, -, text, -⟩ := showsItself_of_display positive finite shown
  rcases shownText_cases negative units some with
    ⟨whole, fraction, numeral⟩ | ⟨digits, whole, fraction, numeral, sign⟩
  · -- Without a sign the parentheses are what the two texts differ in.
    have noMinus : ¬ display.result.toList.head? = Option.some '-' := by
      obtain ⟨initial, others, split⟩ := numeral.exists_cons
      rw [text, String.toList_ofList, split, List.head?_cons, Option.some.injEq]
      rintro rfl
      cases numeral.isNumeralChar_of_mem (split ▸ List.mem_cons_self)
    rw [if_neg noMinus]
    exact evaluate_chained_numeral numeral evaluated text isOperator further
  · -- A negative result is in parentheses anyway.
    have minus : display.result.toList = '-' :: digits := by
      rw [text, String.toList_ofList, sign]
    have grouped : operand display.result = "(" ++ display.result ++ ")" := by
      simp [operand, minus]
    have chainable : isChainable display.result = true := by
      refine isChainable_of_members fun d inside => ?_
      rcases List.mem_cons.mp (minus ▸ inside) with rfl | behind
      · exact .inr rfl
      · exact .inl (numeral.isNumeralChar_of_mem behind)
    have last : (operand display.result).toList.getLast? = Option.some ')' := by
      rw [grouped, String.toList_append]
      exact List.getLast?_concat
    have expression := appendToken_expression evaluated chainable isOperator last (by decide)
    rw [expression, grouped, minus, List.head?_cons, if_pos rfl]
    cases evaluate ("(" ++ display.result ++ ")" ++ operator ++ further) with
    | ok found => rfl
    | error failure => simp [Except.mapError, Failure.displaced_zero]

/-- Behind a third at two places a division by zero is found two characters before the place
where it is found behind the third in parentheses. -/
theorem evaluate_chained_third :
    (Display.appendToken ⟨"0.33", "0.33", true⟩ "*").expression = "0.33*" ∧
      evaluate "0.33*1/0" = .error (.fault { cause := .divisionByZero, position := some 7 }) ∧
      evaluate "(0.33)*1/0" = (evaluate "0.33*1/0").mapError (·.displaced 2) := by
  -- The third has been worked out and is shown at two places.
  have shown : Number.display (Float.ofBits 0x3fd5555555555555) (Settings.placesOf (.int 2)) =
      .ok "0.33" := by decide +kernel
  have chained := @evaluate_chained ⟨"0.33", "0.33", true⟩ _ 2 "*" (by decide)
    (by decide +kernel) rfl shown rfl "1/0"
  exact ⟨rfl, rfl, chained⟩

end Chaining

end Display

end DeskCalc
