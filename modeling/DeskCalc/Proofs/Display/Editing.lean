import DeskCalc.Proofs.ShownResult
import DeskCalc.Window.Layout

/-! Editing: what presses of the window's buttons and pastes make of a display,
and how its three parts hang together behind each of them. -/

namespace DeskCalc

/-- The buttons that act on the display: all but the ones for the settings and the clipboard. -/
def Window.inputButtons : List String :=
  (buttons.map (·.label)).filter fun label =>
    label != settingsButton && label != clipboardButton

/-- A press of a button of the window, while the settings ask for some decimal places. -/
structure Press where
  button : String
  known : button ∈ Window.inputButtons
  places : Int
  positive : 1 ≤ places

/-- What the user does to a display. -/
inductive Edit
  | press (press : Press)
  | paste (text : String)

namespace Display

/-- The display behind a press, which stays as it is where the press fails. -/
def afterPress (display : Display) (press : Press) : Display :=
  match display.press press.button (Settings.placesOf (.int press.places)) with
  | .ok next => next
  | .error _ => display

/-- The display behind an edit. -/
def afterEdit (display : Display) : Edit → Display
  | .press press => display.afterPress press
  | .paste text => display.paste text

/-- The display behind some edits. -/
def afterEdits (display : Display) (edits : List Edit) : Display :=
  edits.foldl afterEdit display

/-- The last edit is made of the display that the edits before it leave. -/
theorem afterEdits_concat (display : Display) (edits : List Edit) (edit : Edit) :
    display.afterEdits (edits ++ [edit]) = (display.afterEdits edits).afterEdit edit :=
  List.foldl_concat ..

/-- A display hangs together. A result that has just been worked out is an error or stands in the
expression too, which is not blank; before that the result is a number to calculate with,
and without an expression it is zero. -/
structure IsCoherent (display : Display) : Prop where
  evaluated : display.justEvaluated = true → Text.allBlank display.expression = false ∧
    (display.result = errorText ∨ display.result = display.expression)
  editing : display.justEvaluated = false → isChainable display.result = true ∧
    (display.expression = "" → display.result = "0")

end Display

/-- What is shown for a value at a positive number of places is a number or says that it is none. -/
theorem Number.display_cases {value : Float} {places : Int} {text : String} (positive : 1 ≤ places)
    (shown : Number.display value (Settings.placesOf (.int places)) = .ok text) :
    text = "NaN" ∨ text = "Infinity" ∨ text = "-Infinity" ∨
      ∃ negative units count, text = String.ofList (Number.shownText negative units count) := by
  -- Only a finite double is shown as a number.
  by_cases finite : value.isFinite = true
  · obtain ⟨negative, units, count, -, -, same, -⟩ :=
      showsItself_of_display positive finite shown
    exact .inr (.inr (.inr ⟨negative, units, count, same⟩))
  · cases taken : Number.Binary.ofFloat value with
    | nan =>
      rw [Number.display, taken] at shown
      exact .inl (Except.ok.inj shown).symm
    | infinity negative =>
      rw [Number.display, taken] at shown
      have same := (Except.ok.inj shown).symm
      cases negative with
      | false => exact .inr (.inl same)
      | true => exact .inr (.inr (.inl same))
    | finite negative mantissa exponent =>
      exact absurd (Number.isFinite_iff.mpr ⟨negative, mantissa, exponent, taken⟩) finite

/-- What is shown for a number starts with a character that is not blank. -/
theorem Number.shownText_eq_cons (negative : Bool) (units places : Nat) :
    ∃ c rest, Number.shownText negative units places = c :: rest ∧ Text.isBlank c = false := by
  unfold shownText
  -- It starts with the zero, with the minus sign, or with a digit.
  by_cases none : units = 0
  · exact ⟨'0', [], by rw [if_pos none], by decide⟩
  · -- Anything else starts with the minus sign or with a digit.
    rw [if_neg none]
    obtain ⟨digit, rest, isDigit, split⟩ := decimalText_eq_cons units places
    cases negative with
    | true => exact ⟨'-', _, rfl, by decide⟩
    | false =>
      refine ⟨digit, rest, split, Expression.isBlank_of_isNumeralChar ?_⟩
      simp [isNumeralChar, isDigit]

/-- What is shown for a value at a positive number of places is not blank. -/
theorem Number.allBlank_display {value : Float} {places : Int} {text : String}
    (positive : 1 ≤ places)
    (shown : Number.display value (Settings.placesOf (.int places)) = .ok text) :
    Text.allBlank text = false := by
  -- The three words for what is no number start with a letter or the minus sign.
  rcases display_cases positive shown with rfl | rfl | rfl | ⟨negative, units, count, rfl⟩
  · decide
  · decide
  · decide
  · obtain ⟨c, rest, split, solid⟩ := shownText_eq_cons negative units count
    simp [Text.allBlank, split, solid]

namespace Display

open Expression (NamedFunction)

/-- What the button to work the expression out comes to: nothing where the expression is blank,
else a fault that leaves it, or what is shown for its value. -/
theorem equals_cases {display next : Display} {places : Number.Places}
    (pressed : display.equals places = .ok next) :
    (Text.allBlank display.expression = true ∧ next = { display with result := "0" }) ∨
      (Text.allBlank display.expression = false ∧
        next = { display with result := errorText, justEvaluated := true }) ∨
      ∃ value shown, Number.display value places = .ok shown ∧
        next = { expression := shown, result := shown, justEvaluated := true } := by
  unfold Display.equals at pressed
  -- A blank expression is not worked out.
  split at pressed
  · rename_i blank
    exact .inl ⟨blank, (Except.ok.inj pressed).symm⟩
  · rename_i solid
    split at pressed
    · cases pressed
    · -- The outcome is a fault or a value, and a value is shown unless its places are refused.
      rename_i outcome _
      cases outcome with
      | fault fault => exact .inr (.inl ⟨Bool.eq_false_iff.mpr solid, (Except.ok.inj pressed).symm⟩)
      | value value =>
        cases shown : Number.display value places with
        | error fault =>
          simp only [applyOutcome, shown, Except.map] at pressed
          cases pressed
        | ok text =>
          simp only [applyOutcome, shown, Except.map] at pressed
          exact .inr (.inr ⟨value, text, shown, (Except.ok.inj pressed).symm⟩)

/-- What a press comes to: three buttons act by themselves, and all others are tokens. -/
theorem press_cases {display next : Display} {button : String} {places : Number.Places}
    (pressed : display.press button places = .ok next) :
    next = clear ∨ next = display.deleteLast ∨ display.equals places = .ok next ∨
      button ∉ ["C", "DEL", "="] ∧ next = display.appendToken button := by
  unfold Display.press at pressed
  -- Each of the three buttons has a branch of its own, in front of the tokens.
  split at pressed
  · exact .inl (Except.ok.inj pressed).symm
  · split at pressed
    · exact .inr (.inl (Except.ok.inj pressed).symm)
    · split at pressed
      · exact .inr (.inr (.inl pressed))
      · refine .inr (.inr (.inr ⟨?_, (Except.ok.inj pressed).symm⟩))
        simp_all

/-- What a token is put onto: a display that is being edited as it is, the result as an operand
where an operator goes on with it, or else nothing. -/
theorem beforeToken_cases (display : Display) (token : String) :
    (display.justEvaluated = false ∧ display.beforeToken token = display) ∨
      (display.justEvaluated = true ∧ isOperatorToken token = true ∧
        isChainable display.result = true ∧ display.beforeToken token =
          { expression := operand display.result, result := display.result }) ∨
      (display.justEvaluated = true ∧ display.beforeToken token = clear) := by
  unfold beforeToken
  -- Behind a result it matters whether an operator goes on with it.
  split
  · rename_i editing
    exact .inl ⟨by simpa using editing, rfl⟩
  · rename_i notEditing
    have evaluated : display.justEvaluated = true := by simpa using notEditing
    split
    · rename_i chains
      rw [Bool.and_eq_true] at chains
      exact .inr (.inl ⟨evaluated, chains.1, chains.2, rfl⟩)
    · exact .inr (.inr ⟨evaluated, rfl⟩)

/-- A decimal point is refused behind another one, or put at the end with or without a zero. -/
theorem appendPoint_cases (display : Display) :
    (lastNumberHasPoint display.expression = true ∧ display.appendPoint = display) ∨
      (lastNumberHasPoint display.expression = false ∧
        ∃ text ∈ [".", "0."], display.appendPoint = display.append text) := by
  unfold appendPoint
  -- Where the point is not refused it depends on the last character whether a zero is put first.
  split
  · rename_i found
    exact .inl ⟨found, rfl⟩
  · rename_i missing
    refine .inr ⟨Bool.eq_false_iff.mpr missing, ?_⟩
    split
    · exact ⟨"0.", by simp, rfl⟩
    · split
      · exact ⟨"0.", by simp, rfl⟩
      · exact ⟨".", by simp, rfl⟩

/-- An operator is refused where no expression is, it takes the place of one before it,
or it is put at the end. -/
theorem appendOperator_cases (display : Display) (token : String) :
    (display.expression = "" ∧ display.appendOperator token = display) ∨
      (∃ last, display.expression.toList.getLast? = some last ∧ isOperator last = true ∧
        display.appendOperator token = display.dropLast.append token) ∨
      ((∀ last ∈ display.expression.toList.getLast?, isOperator last = false) ∧
        (display.expression = "" → token = "-") ∧
        display.appendOperator token = display.append token) := by
  unfold appendOperator
  -- It is decided by the last character, which is missing where no expression is.
  split
  · rename_i nothing
    have empty : display.expression = "" :=
      String.toList_eq_nil_iff.mp (List.getLast?_eq_none_iff.mp nothing)
    split
    · rename_i minus
      exact .inr (.inr ⟨by simp [nothing], fun _ => beq_iff_eq.mp minus, rfl⟩)
    · exact .inl ⟨empty, rfl⟩
  · rename_i last isLast
    -- Behind an operator the new one takes its place.
    split
    · rename_i operator
      exact .inr (.inl ⟨last, isLast, operator, rfl⟩)
    · rename_i other
      refine .inr (.inr ⟨?_, fun empty => ?_, rfl⟩)
      · rintro found isFound
        obtain rfl : last = found := by simpa [isLast] using isFound
        exact Bool.eq_false_iff.mpr other
      · simp [empty] at isLast

/-- An operator is neither the point nor the name of a function. -/
theorem other_of_isOperatorToken {token : String} (operator : isOperatorToken token = true) :
    (token == ".") = false ∧ (NamedFunction.ofName? token).isSome = false := by
  -- None of these is one of the five operators.
  constructor
  · rw [beq_eq_false_iff_ne]
    rintro rfl
    cases operator
  · refine Bool.eq_false_iff.mpr fun isFunction => ?_
    obtain ⟨function, found⟩ := Option.isSome_iff_exists.mp isFunction
    obtain rfl := NamedFunction.ofName?_eq_some_iff.mp found
    cases function <;> cases operator

/-- A token is the point, the name of a function, an operator, or put at the end as it is. -/
theorem appendToken_cases (display : Display) (token : String) :
    (token = "." ∧ display.appendToken token = (display.beforeToken token).appendPoint) ∨
      (∃ function : NamedFunction, token = function.name ∧
        display.appendToken token = (display.beforeToken token).appendFunction token) ∨
      (isOperatorToken token = true ∧
        display.appendToken token = (display.beforeToken token).appendOperator token) ∨
      (token ≠ "." ∧ (NamedFunction.ofName? token).isSome = false ∧
        isOperatorToken token = false ∧
        display.appendToken token = (display.beforeToken token).append token) := by
  simp only [appendToken]
  -- The branches come in this order, and the last one is for what is none of these.
  split
  · rename_i point
    exact .inl ⟨beq_iff_eq.mp point, rfl⟩
  · rename_i noPoint
    split
    · rename_i isFunction
      obtain ⟨function, found⟩ := Option.isSome_iff_exists.mp isFunction
      exact .inr (.inl ⟨function, (NamedFunction.ofName?_eq_some_iff.mp found).symm, rfl⟩)
    · rename_i noFunction
      split
      · rename_i operator
        exact .inr (.inr (.inl ⟨operator, rfl⟩))
      · rename_i noOperator
        exact .inr (.inr (.inr ⟨by simpa using noPoint, Bool.eq_false_iff.mpr noFunction,
          Bool.eq_false_iff.mpr noOperator, rfl⟩))

/-- Deleting clears the display behind a result, and takes the last character back else. -/
theorem deleteLast_cases (display : Display) :
    display.deleteLast = clear ∨ display.deleteLast = display ∨
      (display.justEvaluated = false ∧
        (display.dropLast.expression ≠ "" ∧ display.deleteLast = display.dropLast ∨
          display.deleteLast = { display.dropLast with result := "0" })) := by
  simp only [deleteLast]
  -- There may be a result, or nothing to be deleted; otherwise the last character goes.
  split
  · exact .inl rfl
  · rename_i editing
    split
    · exact .inr (.inl rfl)
    · refine .inr (.inr ⟨Bool.eq_false_iff.mpr editing, ?_⟩)
      split
      · exact .inr rfl
      · rename_i occupied
        exact .inl ⟨by simpa using occupied, rfl⟩

/-- The display of a calculator that has just been cleared hangs together. -/
theorem isCoherent_clear : clear.IsCoherent :=
  ⟨by rintro ⟨⟩, fun _ => ⟨rfl, fun _ => rfl⟩⟩

section Tokens

variable {display : Display}

/-- While a display is being edited it is coherent when its result can be calculated with,
and is zero where nothing is to be worked out. -/
theorem isCoherent_of_editing (editing : display.justEvaluated = false)
    (chainable : isChainable display.result = true)
    (zero : display.expression = "" → display.result = "0") : display.IsCoherent := by
  refine ⟨fun evaluated => ?_, fun _ => ⟨chainable, zero⟩⟩
  -- The display is not evaluated, so nothing is asked of it as a result.
  rw [editing] at evaluated
  cases evaluated

/-- Behind a text that is not empty the expression is not empty either. -/
theorem append_expression_ne {text : String} (occupied : text ≠ "") :
    (display.append text).expression ≠ "" :=
  fun empty => occupied (String.append_eq_empty_iff.mp empty).2

/-- A text at the end of the expression leaves a display that is being edited coherent. -/
theorem IsCoherent.append (coherent : display.IsCoherent) (editing : display.justEvaluated = false)
    (text : String) : (display.append text).IsCoherent := by
  obtain ⟨chainable, zero⟩ := coherent.editing editing
  -- Only an empty expression could be empty with the text behind it.
  exact isCoherent_of_editing editing chainable fun empty =>
    zero (String.append_eq_empty_iff.mp empty).1

/-- A result as an operand is not empty unless the result is. -/
theorem eq_empty_of_operand {result : String} (empty : operand result = "") : result = "" := by
  -- An operand in parentheses is not empty.
  unfold operand at empty
  split at empty
  · simp at empty
  · exact empty

/-- A result that is followed up is the expression that has been worked out. -/
theorem IsCoherent.result_eq (coherent : display.IsCoherent)
    (evaluated : display.justEvaluated = true)
    (chainable : isChainable display.result = true) : display.result = display.expression := by
  rcases (coherent.evaluated evaluated).2 with failed | same
  · -- Errors are not followed up.
    rw [failed] at chainable
    cases chainable
  · exact same

/-- In front of a token a coherent display is coherent and being edited. -/
theorem IsCoherent.beforeToken (coherent : display.IsCoherent) (token : String) :
    (display.beforeToken token).IsCoherent ∧ (display.beforeToken token).justEvaluated = false := by
  rcases display.beforeToken_cases token with ⟨editing, same⟩ | ⟨evaluated, -, chains, same⟩ |
    ⟨-, same⟩
  · -- What is being edited is left as it is.
    rw [same]
    exact ⟨coherent, editing⟩
  · rw [same]
    refine ⟨isCoherent_of_editing rfl chains fun empty => ?_, rfl⟩
    -- An expression that has been worked out is not blank.
    have nothing : display.expression = "" :=
      (coherent.result_eq evaluated chains).symm.trans (eq_empty_of_operand empty)
    have solid := (coherent.evaluated evaluated).1
    rw [nothing] at solid
    cases solid
  · -- Anything else starts over.
    rw [same]
    exact ⟨isCoherent_clear, rfl⟩

/-- A decimal point leaves a display that is being edited coherent. -/
theorem IsCoherent.appendPoint (coherent : display.IsCoherent)
    (editing : display.justEvaluated = false) : display.appendPoint.IsCoherent := by
  -- It is refused, or put at the end.
  rcases display.appendPoint_cases with ⟨-, same⟩ | ⟨-, text, -, same⟩ <;> rw [same]
  · exact coherent
  · exact coherent.append editing text

/-- An operator leaves a display that is being edited coherent. -/
theorem IsCoherent.appendOperator (coherent : display.IsCoherent)
    (editing : display.justEvaluated = false) {token : String} (occupied : token ≠ "") :
    (display.appendOperator token).IsCoherent := by
  rcases display.appendOperator_cases token with ⟨-, same⟩ | ⟨last, -, -, same⟩ | ⟨-, -, same⟩ <;>
    rw [same]
  · -- It is refused, or takes the place of another one, or is put at the end.
    exact coherent
  · -- An operator is not empty, so neither is the expression that ends with it.
    exact isCoherent_of_editing editing (coherent.editing editing).1
      fun empty => absurd empty (append_expression_ne occupied)
  · exact coherent.append editing token

/-- A token leaves a display coherent. -/
theorem IsCoherent.appendToken (coherent : display.IsCoherent) (token : String) :
    (display.appendToken token).IsCoherent := by
  obtain ⟨coherent, editing⟩ := coherent.beforeToken token
  -- Each kind of token puts something at the end, or is refused.
  rcases display.appendToken_cases token with ⟨-, same⟩ | ⟨function, -, same⟩ |
    ⟨operator, same⟩ | ⟨-, -, -, same⟩ <;> rw [same]
  · exact coherent.appendPoint editing
  · exact coherent.append editing _
  · -- An operator is a token of one character, so it is not empty.
    refine coherent.appendOperator editing ?_
    rintro rfl
    cases operator
  · exact coherent.append editing token

/-- Deleting leaves a display coherent. -/
theorem IsCoherent.deleteLast (coherent : display.IsCoherent) : display.deleteLast.IsCoherent := by
  rcases display.deleteLast_cases with same | same | ⟨editing, ⟨occupied, same⟩ | same⟩ <;>
    rw [same]
  · exact isCoherent_clear
  · exact coherent
  · -- What is left has characters, so nothing is asked of the result.
    exact isCoherent_of_editing editing (coherent.editing editing).1
      fun empty => absurd empty occupied
  · -- Nothing is left, and the result has become zero.
    exact isCoherent_of_editing editing rfl fun _ => rfl

/-- A pasted text leaves a display coherent. -/
theorem IsCoherent.paste (coherent : display.IsCoherent) (text : String) :
    (display.paste text).IsCoherent := by
  simp only [Display.paste]
  -- Behind a result the text starts over.
  split
  · exact coherent
  · cases evaluated : display.justEvaluated with
    | true => exact isCoherent_clear.append rfl (Text.trimmed text)
    | false => exact coherent.append evaluated (Text.trimmed text)

/-- Working the expression out leaves a display coherent. -/
theorem IsCoherent.equals (coherent : display.IsCoherent) {places : Int} (positive : 1 ≤ places)
    {next : Display} (pressed : display.equals (Settings.placesOf (.int places)) = .ok next) :
    next.IsCoherent := by
  rcases equals_cases pressed with ⟨blank, rfl⟩ | ⟨solid, rfl⟩ | ⟨value, text, shown, rfl⟩
  · -- A blank expression has not been worked out, so only the result is changed.
    cases evaluated : display.justEvaluated with
    | true =>
      rw [(coherent.evaluated evaluated).1] at blank
      cases blank
    | false => exact isCoherent_of_editing rfl rfl fun _ => rfl
  · -- A fault leaves an expression that is not blank.
    exact ⟨fun _ => ⟨solid, .inl rfl⟩, by rintro ⟨⟩⟩
  · -- What is shown for a value is both the expression and the result.
    exact ⟨fun _ => ⟨Number.allBlank_display positive shown, .inr rfl⟩, by rintro ⟨⟩⟩

/-- A press leaves a display coherent. -/
theorem IsCoherent.afterPress (coherent : display.IsCoherent) (press : Press) :
    (display.afterPress press).IsCoherent := by
  unfold Display.afterPress
  split
  · rename_i next pressed
    -- Each kind of press has its own lemma.
    rcases press_cases pressed with rfl | rfl | worked | ⟨-, rfl⟩
    · exact isCoherent_clear
    · exact coherent.deleteLast
    · exact coherent.equals press.positive worked
    · exact coherent.appendToken _
  · exact coherent

/-- An edit leaves a display coherent. -/
theorem IsCoherent.afterEdit (coherent : display.IsCoherent) (edit : Edit) :
    (display.afterEdit edit).IsCoherent := by
  cases edit with
  | press press => exact coherent.afterPress press
  | paste text => exact coherent.paste text

/-- Edits leave a display coherent. -/
theorem IsCoherent.afterEdits (coherent : display.IsCoherent) (edits : List Edit) :
    (display.afterEdits edits).IsCoherent := by
  -- Each edit keeps what the edits before it have kept.
  induction edits generalizing display with
  | nil => exact coherent
  | cons edit rest inner => exact inner (coherent.afterEdit edit)

end Tokens

/-- Whatever is pressed and pasted from the start on, the display hangs together. -/
theorem isCoherent_of_edits (edits : List Edit) : (clear.afterEdits edits).IsCoherent :=
  isCoherent_clear.afterEdits edits

end Display

end DeskCalc
