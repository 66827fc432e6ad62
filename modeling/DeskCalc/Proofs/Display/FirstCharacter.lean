import DeskCalc.Proofs.Display.Typing
import DeskCalc.Proofs.Number.ShownCharacters

/-! The first character: how an operator other than the minus sign comes to stand at the start of
an expression that is typed. On its own no button puts one there, but the minus sign that may
start an expression can be replaced. -/

namespace DeskCalc.Display

open DeskCalc.Number DeskCalc.Expression

/-- An operator that cannot do without an operand before it: any but the minus sign. -/
def needsOperand (c : Char) : Bool :=
  isOperator c && c != '-'

/-- An expression that starts with an operator other than the minus sign. -/
def startsWithOperator (expression : String) : Bool :=
  expression.toList.head?.any needsOperand

/-- A press of an operator that takes the place of a minus sign which is the whole expression. -/
structure ReplacesMinus (display : Display) (button : String) : Prop where
  editing : display.justEvaluated = false
  minus : display.expression = "-"
  operator : isOperatorToken button = true
  other : button ≠ "-"

section Texts

variable {text : String}

/-- A character that is shown for a number is no operator but a minus sign. -/
theorem needsOperand_of_isShownChar {c : Char} (shown : isShownChar c = true) :
    needsOperand c = false := by
  by_cases minus : c = '-'
  · simp [needsOperand, minus]
  · have member : isNumeralChar c = true := by simpa [isShownChar, isNumeralChar, minus] using shown
    rw [needsOperand, isOperator_of_isNumeralChar member, Bool.false_and]

/-- A text of plain characters starts with no operator. -/
theorem startsWithOperator_of_plain (plain : text.toList.all isPlain = true) :
    startsWithOperator text = false := by
  -- An empty text starts with nothing at all.
  unfold startsWithOperator
  cases first : text.toList.head? with
  | none => rfl
  | some c =>
    have member := List.all_eq_true.mp plain c (List.mem_of_head? first)
    have single : c ≠ '.' ∧ isOperator c = false := by simpa [isPlain] using member
    simp [needsOperand, single.2]

/-- What is shown for a value starts with no operator but a minus sign. -/
theorem startsWithOperator_display {value : Float} {places : ℤ}
    (shown : Number.display value (Settings.placesOf (.int places)) = .ok text) :
    startsWithOperator text = false := by
  -- It is a word or a number, and either may have a minus sign in front.
  rcases display_chars shown with word | number
  · simp only [List.mem_cons, List.not_mem_nil, or_false] at word
    rcases word with rfl | rfl | rfl <;> decide
  · unfold startsWithOperator
    cases first : text.toList.head? with
    | none => rfl
    | some c => exact needsOperand_of_isShownChar (number c (List.mem_of_head? first))

/-- Two texts together start with an operator where the first one does, or is empty and the second
one does. -/
theorem startsWithOperator_append {front back : String} :
    startsWithOperator (front ++ back) = true ↔
      startsWithOperator front = true ∨ front = "" ∧ startsWithOperator back = true := by
  -- The first character of both is that of the first text, if it has any.
  unfold startsWithOperator
  rw [String.toList_append]
  cases characters : front.toList with
  | nil => simp [String.toList_eq_nil_iff.mp characters]
  | cons c rest =>
    have occupied : front ≠ "" := by
      rintro rfl
      cases characters
    simp [occupied]

end Texts

section Tokens

variable {display : Display} {token : String}

/-- An expression without its last character starts as it did. -/
theorem startsWithOperator_dropLast
    (starts : startsWithOperator display.dropLast.expression = true) :
    startsWithOperator display.expression = true := by
  rw [Display.dropLast, startsWithOperator, String.toList_ofList, List.head?_dropLast] at starts
  split at starts
  · exact starts
  · cases starts

/-- In front of a token a coherent display has an operator at its start only where it had one. -/
theorem IsCoherent.startsWithOperator_beforeToken (coherent : display.IsCoherent)
    (starts : startsWithOperator (display.beforeToken token).expression = true) :
    startsWithOperator display.expression = true := by
  rcases display.beforeToken_cases token with ⟨-, same⟩ | ⟨evaluated, -, chains, same⟩ |
    ⟨-, same⟩ <;> rw [same] at starts
  · exact starts
  · -- What is followed up is the expression itself, or stands in parentheses.
    rw [← coherent.result_eq evaluated chains]
    unfold Display.operand at starts
    split at starts
    · rw [String.append_assoc, startsWithOperator_append] at starts
      rcases starts with opened | ⟨empty, -⟩
      · exact absurd opened (by decide)
      · exact absurd empty (by decide)
    · exact starts
  · cases starts

/-- In front of a token the expression is a minus sign only where it was one that is edited. -/
theorem beforeToken_minus (minus : (display.beforeToken token).expression = "-") :
    display.justEvaluated = false ∧ display.expression = "-" := by
  rcases display.beforeToken_cases token with ⟨editing, same⟩ | ⟨-, -, -, same⟩ | ⟨-, same⟩ <;>
    rw [same] at minus
  · exact ⟨editing, minus⟩
  · -- A negative operand starts with a parenthesis.
    unfold Display.operand at minus
    split at minus
    · have first := congrArg (·.toList.head?) minus
      simp at first
    · rename_i nonnegative
      have alone : display.result = "-" := minus
      simp [alone] at nonnegative
  · exact absurd minus (by decide)

/-- A text that starts with no operator puts none at the start of an expression. -/
theorem startsWithOperator_of_append {text : String} (plain : startsWithOperator text = false)
    (starts : startsWithOperator (display.append text).expression = true) :
    startsWithOperator display.expression = true := by
  simpa [Display.append, startsWithOperator_append, plain] using starts

/-- A decimal point puts no operator at the start. -/
theorem startsWithOperator_appendPoint
    (starts : startsWithOperator display.appendPoint.expression = true) :
    startsWithOperator display.expression = true := by
  rcases display.appendPoint_cases with ⟨-, same⟩ | ⟨-, text, put, same⟩ <;> rw [same] at starts
  · exact starts
  · refine startsWithOperator_of_append ?_ starts
    simp only [List.mem_cons, List.not_mem_nil, or_false] at put
    rcases put with rfl | rfl <;> decide

/-- A function name puts no operator at the start, since it is multiplied only behind a digit. -/
theorem startsWithOperator_appendFunction (function : NamedFunction)
    (starts : startsWithOperator (display.appendFunction function.name).expression = true) :
    startsWithOperator display.expression = true := by
  -- At the start of the expression the name comes first.
  by_cases empty : display.expression = ""
  · simp only [Display.appendFunction, Display.append, empty] at starts
    exact absurd starts (by cases function <;> decide)
  · simp only [Display.appendFunction, Display.append, startsWithOperator_append, empty,
      false_and, or_false] at starts
    exact starts

/-- An operator comes to stand at the start where one stood there, or in the place of a minus
sign that is the whole expression. -/
theorem startsWithOperator_appendOperator
    (starts : startsWithOperator (display.appendOperator token).expression = true) :
    startsWithOperator display.expression = true ∨ display.expression = "-" ∧ token ≠ "-" := by
  have other (starts : startsWithOperator token = true) : token ≠ "-" := by
    rintro rfl
    cases starts
  rcases display.appendOperator_cases token with ⟨-, same⟩ | ⟨last, isLast, lastOperator, same⟩ |
    ⟨-, onlyMinus, same⟩ <;> rw [same] at starts
  · exact .inl starts
  · rcases startsWithOperator_append.mp starts with shorter | ⟨empty, first⟩
    · exact .inl (startsWithOperator_dropLast shorter)
    · -- The operator that is replaced was the whole expression.
      have nothing : display.expression.toList.dropLast = [] := String.ofList_eq_empty_iff.mp empty
      have alone : display.expression.toList = [last] := by
        rw [← List.dropLast_append_getLast? last isLast, nothing, List.nil_append]
      by_cases minus : last = '-'
      · rw [minus] at alone
        exact .inr ⟨String.toList_injective alone, other first⟩
      · exact .inl (by simp [startsWithOperator, needsOperand, alone, lastOperator, minus])
  · rcases startsWithOperator_append.mp starts with stood | ⟨empty, first⟩
    · exact .inl stood
    · exact absurd (onlyMinus empty) (other first)

/-- The token of a button puts an operator at the start only by replacing a minus sign. -/
theorem IsCoherent.startsWithOperator_appendToken (coherent : display.IsCoherent)
    (known : token ∈ Window.inputButtons)
    (starts : startsWithOperator (display.appendToken token).expression = true) :
    startsWithOperator display.expression = true ∨ ReplacesMinus display token := by
  -- What was at the start before the token has been there all the time.
  have before (starts : startsWithOperator (display.beforeToken token).expression = true) :
      startsWithOperator display.expression = true ∨ ReplacesMinus display token :=
    .inl (coherent.startsWithOperator_beforeToken starts)
  rcases display.appendToken_cases token with ⟨-, same⟩ | ⟨function, rfl, same⟩ |
    ⟨operator, same⟩ | ⟨noPoint, -, noOperator, same⟩ <;> rw [same] at starts
  · exact before (startsWithOperator_appendPoint starts)
  · exact before (startsWithOperator_appendFunction function starts)
  · -- An operator may have replaced a minus sign.
    rcases startsWithOperator_appendOperator starts with stood | ⟨minus, other⟩
    · exact before stood
    · obtain ⟨editing, minus⟩ := beforeToken_minus minus
      exact .inr ⟨editing, minus, operator, other⟩
  · -- Any other token has no operator to put at the start.
    have plain := plain_of_button known noPoint noOperator
    exact before (startsWithOperator_of_append (startsWithOperator_of_plain plain) starts)

/-- Deleting puts no operator at the start. -/
theorem startsWithOperator_deleteLast
    (starts : startsWithOperator display.deleteLast.expression = true) :
    startsWithOperator display.expression = true := by
  rcases display.deleteLast_cases with same | same | ⟨-, ⟨-, same⟩ | same⟩ <;> rw [same] at starts
  · cases starts
  · exact starts
  · exact startsWithOperator_dropLast starts
  · exact startsWithOperator_dropLast starts

/-- Working the expression out puts no operator at the start. -/
theorem startsWithOperator_equals {next : Display} {places : ℤ}
    (pressed : display.equals (Settings.placesOf (.int places)) = .ok next)
    (starts : startsWithOperator next.expression = true) :
    startsWithOperator display.expression = true := by
  rcases equals_cases pressed with ⟨-, rfl⟩ | ⟨-, rfl⟩ | ⟨value, text, shown, rfl⟩
  · exact starts
  · exact starts
  · rw [startsWithOperator_display shown] at starts
    cases starts

/-- A press puts an operator at the start of an expression only by replacing a minus sign that is
the whole expression. -/
theorem IsCoherent.startsWithOperator_afterPress (coherent : display.IsCoherent) {press : Press}
    (starts : startsWithOperator (display.afterPress press).expression = true) :
    startsWithOperator display.expression = true ∨ ReplacesMinus display press.button := by
  unfold Display.afterPress at starts
  split at starts
  · rename_i next pressed
    -- Each kind of press has its own lemma.
    rcases press_cases pressed with rfl | rfl | worked | ⟨-, rfl⟩
    · cases starts
    · exact .inl (startsWithOperator_deleteLast starts)
    · exact .inl (startsWithOperator_equals worked starts)
    · exact coherent.startsWithOperator_appendToken press.known starts
  · exact .inl starts

/-- Where a display is being edited the press of an operator puts it into the expression. -/
theorem press_operator (editing : display.justEvaluated = false)
    (operator : isOperatorToken token = true) (places : Places) :
    display.press token places = .ok (display.appendOperator token) := by
  obtain ⟨noPoint, noFunction⟩ := other_of_isOperatorToken operator
  -- No button that acts by itself is an operator.
  have other {button : String} (noOperator : isOperatorToken button = false) :
      (token == button) = false := by
    refine beq_eq_false_iff_ne.mpr ?_
    rintro rfl
    rw [operator] at noOperator
    cases noOperator
  have clears : (token == "C") = false := other rfl
  have deletes : (token == "DEL") = false := other rfl
  have equals : (token == "=") = false := other rfl
  simp [Display.press, clears, deletes, equals, Display.appendToken, Display.beforeToken, editing,
    noPoint, noFunction, operator]

/-- An operator that replaces the minus sign is all of the expression behind it. -/
theorem ReplacesMinus.afterPress {press : Press} (replaces : ReplacesMinus display press.button) :
    (display.afterPress press).expression = press.button := by
  have replaced : display.appendOperator press.button = display.dropLast.append press.button := by
    simp [Display.appendOperator, replaces.minus, isOperator]
  -- Without the minus sign nothing is left before the operator.
  have nothing : display.dropLast.expression = "" := by
    simp [Display.dropLast, replaces.minus]
  rw [Display.afterPress, press_operator replaces.editing replaces.operator]
  simp only [replaced, Display.append, nothing, String.empty_append]

/-- An operator other than the minus sign starts an expression that it is all of. -/
theorem ReplacesMinus.startsWithOperator (replaces : ReplacesMinus display token) :
    startsWithOperator token = true := by
  obtain ⟨c, single, operator⟩ := exists_of_isOperatorToken replaces.operator
  have other : c ≠ '-' := by
    rintro rfl
    exact replaces.other (String.toList_injective single)
  simp [Display.startsWithOperator, needsOperand, single, operator, other]

end Tokens

/-- An operator other than the minus sign comes to stand at the start only by replacing a minus
sign: no expression on the way starts with one exactly where no press replaces a minus sign that is
the whole expression. -/
theorem never_startsWithOperator_iff (presses : List Press) :
    (∀ front, front <+: presses →
        startsWithOperator (clear.afterEdits (front.map .press)).expression = false) ↔
      ∀ front press, front ++ [press] <+: presses →
        ¬ ReplacesMinus (clear.afterEdits (front.map .press)) press.button := by
  have next (front : List Press) (press : Press) :
      clear.afterEdits ((front ++ [press]).map .press) =
        (clear.afterEdits (front.map .press)).afterPress press := by
    rw [List.map_append, List.map_singleton, afterEdits_concat]
    rfl
  constructor
  · -- A press that replaces the minus sign breaks the rule at once.
    intro never front press within replaces
    have starts := never _ within
    rw [next, replaces.afterPress, replaces.startsWithOperator] at starts
    cases starts
  · intro never front within
    -- Induction along the presses: each one keeps what those before it have kept.
    induction front using List.reverseRecOn with
    | nil => rfl
    | append_singleton front press inner =>
      refine Bool.eq_false_iff.mpr fun starts => ?_
      rw [next] at starts
      have coherent := isCoherent_clear.afterEdits (front.map .press)
      rcases coherent.startsWithOperator_afterPress starts with stood | replaces
      · rw [inner ((List.prefix_append front [press]).trans within)] at stood
        cases stood
      · exact never front press within replaces

/-- A plus sign takes the place of the minus sign that starts an expression, and starts it then. -/
theorem startsWithOperator_of_replaced :
    (clear.afterEdits [.press ⟨"-", by decide, 8, by decide⟩,
        .press ⟨"+", by decide, 8, by decide⟩]).expression = "+" ∧
      startsWithOperator "+" = true := by
  exact ⟨rfl, rfl⟩

end DeskCalc.Display
