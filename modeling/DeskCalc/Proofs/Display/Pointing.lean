import DeskCalc.Proofs.Display.Typing
import DeskCalc.Proofs.Number.ShownCharacters
import Mathlib.Data.List.DropRight

/-! Pointing: when the decimal point is refused while an expression is typed. It is refused behind
another one in the same number, and also behind a function name that follows a point and has lost
its parenthesis. -/

namespace DeskCalc.Display

open DeskCalc.Number DeskCalc.Expression

/-- The displays that presses of the window's buttons lead to, whatever integer of places the
settings ask for at each of them. -/
inductive IsTyped : Display → Prop
  | clear : IsTyped clear
  | press {display next : Display} {button : String} (before : IsTyped display)
    (known : button ∈ Window.inputButtons) (places : ℤ)
    (pressed : display.press button (Settings.placesOf (.int places)) = .ok next) : IsTyped next

/-- The characters that can be typed. -/
def isTypable (c : Char) : Bool :=
  c.isDigit || c == '.' || isOperator c || c == '(' || c == ')' || c.isAlpha

/-- The characters that can be typed and are no letters. -/
def isMark (c : Char) : Bool :=
  isTypable c && !c.isAlpha

/-- A text is spelled with the buttons: its characters can be typed, and no letter stands directly
behind a digit, since a function name is multiplied there. -/
structure IsSpelled (text : List Char) : Prop where
  typable : ∀ c ∈ text, isTypable c = true
  apart : text.IsChain fun c d => ¬ (c.isDigit = true ∧ d.isAlpha = true)

/-- At its end a text has a name that stands directly behind a point: a letter, and behind it
nothing but letters and digits. -/
def HasNameAtPoint (text : List Char) : Prop :=
  ∃ front first rest, text = front ++ '.' :: first :: rest ∧ first.isAlpha = true ∧
    ∀ c ∈ rest, c.isAlphanum = true

section Characters

variable {c : Char}

/-- Among the characters of ASCII only the ten digits are digits. -/
theorem isDigit_of_ascii (ascii : c.toNat < 128) : Text.isDigit c = c.isDigit := by
  -- All others come behind these characters.
  have zeros : ∀ first ∈ Text.decimalZeros, ¬ first ≤ c.toNat := fun first member => by
    have low : ∀ first ∈ Text.decimalZeros, 128 ≤ first := by decide
    have := low first member
    omega
  have ranges : ∀ range ∈ Text.looseDigitRanges, ¬ range.first ≤ c.toNat := fun range member => by
    have low : ∀ range ∈ Text.looseDigitRanges, 128 ≤ range.first := by decide
    have := low range member
    omega
  have none : Text.decimalZeros.find? (fun first => first ≤ c.toNat && c.toNat < first + 10) =
      none := List.find?_eq_none.mpr fun first member => by simp [zeros first member]
  have loose : Text.CodeRange.anyContains Text.looseDigitRanges c = false :=
    List.any_eq_false.mpr fun range member => by
      simp [Text.CodeRange.contains, ranges range member]
  rw [Text.isDigit, Text.decimalDigit?, none, loose]
  cases c.isDigit <;> rfl

/-- A letter is no digit. -/
theorem isDigit_of_isAlpha (letter : c.isAlpha = true) : Text.isDigit c = false := by
  simp only [Char.isAlpha, Char.isUpper, Char.isLower, Bool.or_eq_true, Bool.and_eq_true,
    decide_eq_true_eq, ge_iff_le, UInt32.le_iff_toNat_le] at letter
  -- The letters of both cases lie between these two, behind the digits.
  have bounds : 65 ≤ c.toNat ∧ c.toNat ≤ 122 := by
    rcases letter with ⟨low, high⟩ | ⟨low, high⟩
    · exact ⟨low, high.trans (by decide)⟩
    · exact ⟨le_trans (by decide) low, high⟩
  rw [isDigit_of_ascii (by omega)]
  -- As a digit it would have to stand before them.
  refine Bool.eq_false_iff.mpr fun digit => ?_
  simp only [Char.isDigit, Bool.and_eq_true, decide_eq_true_eq, UInt32.le_iff_toNat_le] at digit
  have high : c.toNat ≤ 57 := digit.2
  omega

/-- A digit of ASCII is one of a number. -/
theorem inNumber_of_isDigit (digit : c.isDigit = true) : inNumber c = true := by
  simp [inNumber, Text.isDigit, Text.decimalDigit?, digit]

/-- The characters at which the search for a point stops, unless it is found before. -/
def isStop (c : Char) : Bool :=
  isOperator c || c == '(' || c == ')'

/-- The search for a point does not stop at letters. -/
theorem isStop_of_isAlpha (letter : c.isAlpha = true) : isStop c = false := by
  -- A stop is an operator or a parenthesis, of which none is a letter.
  refine Bool.eq_false_iff.mpr fun stop => ?_
  simp only [isStop, isOperator, Bool.or_eq_true, beq_iff_eq] at stop
  rcases stop with (((((rfl | rfl) | rfl) | rfl) | rfl) | rfl) | rfl <;> cases letter

/-- The search for a point does not stop inside of numbers. -/
theorem isStop_of_inNumber (number : inNumber c = true) : isStop c = false := by
  -- Nor is one of them a digit or the point.
  refine Bool.eq_false_iff.mpr fun stop => ?_
  simp only [isStop, isOperator, Bool.or_eq_true, beq_iff_eq] at stop
  rcases stop with (((((rfl | rfl) | rfl) | rfl) | rfl) | rfl) | rfl <;> cases number

end Characters

section Texts

variable {text : List Char}

/-- The search for a point comes upon the last one, if no operator and no parenthesis is behind
it. -/
theorem lastNumberHasPoint_iff {expression : String} : lastNumberHasPoint expression = true ↔
    ∃ front back, expression.toList = front ++ '.' :: back ∧
      ∀ c ∈ back, c ≠ '.' ∧ isStop c = false := by
  rw [lastNumberHasPoint, beq_iff_eq, List.find?_eq_some_iff_append]
  -- The search goes backwards.
  constructor
  · rintro ⟨-, back, front, split, passed⟩
    refine ⟨front.reverse, back.reverse, ?_, fun c member => ?_⟩
    · rw [← List.reverse_reverse expression.toList, split]
      simp
    · simpa [isStop, not_or, and_assoc] using passed c (List.mem_reverse.mp member)
  · rintro ⟨front, back, split, passed⟩
    refine ⟨by decide, back.reverse, front.reverse, by simp [split], fun c member => ?_⟩
    simpa [isStop, not_or, and_assoc] using passed c (List.mem_reverse.mp member)

/-- Number characters at the end of a text belong to the number at its end. -/
theorem mem_rtakeWhile_of_suffix {run : List Char} (atEnd : run <:+ text)
    (number : ∀ c ∈ run, inNumber c = true) : ∀ c ∈ run, c ∈ text.rtakeWhile inNumber := by
  obtain ⟨front, rfl⟩ := atEnd
  intro c member
  -- Read backwards, the text starts with the run.
  rw [List.rtakeWhile, List.reverse_append, List.takeWhile_append_of_pos (by simpa using number)]
  simp [member]

/-- A point in the number at the end is found. -/
theorem lastNumberHasPoint_of_mem {expression : String}
    (inside : '.' ∈ expression.toList.rtakeWhile inNumber) :
    lastNumberHasPoint expression = true := by
  -- A number without a point has no run with one, but the run here has one.
  by_contra missing
  have lacks := lacksPoint_of_lastNumberHasPoint (Bool.eq_false_iff.mpr missing)
  exact lacks _ (List.rtakeWhile_suffix _ _) (fun c member => List.mem_rtakeWhile_imp member) inside

/-- A name at a point keeps the point out of the number at the end. -/
theorem HasNameAtPoint.not_mem (named : HasNameAtPoint text) :
    '.' ∉ text.rtakeWhile inNumber := by
  obtain ⟨front, first, rest, rfl, letter, others⟩ := named
  intro inside
  have atEnd : first :: rest <:+ front ++ '.' :: first :: rest := ⟨front ++ ['.'], by simp⟩
  -- Either the number is behind the point, or the name is inside of the number.
  rcases List.suffix_or_suffix_of_suffix (List.rtakeWhile_suffix inNumber _) atEnd with short | long
  · rcases List.mem_cons.mp (short.subset inside) with rfl | behind
    · cases letter
    · cases others _ behind
  · have number : inNumber first = true :=
      List.mem_rtakeWhile_imp (long.subset List.mem_cons_self)
    rw [inNumber, isDigit_of_isAlpha letter, Bool.false_or, beq_iff_eq] at number
    rw [number] at letter
    cases letter

/-- A name at a point does not keep the point from being found. -/
theorem HasNameAtPoint.lastNumberHasPoint {expression : String}
    (named : HasNameAtPoint expression.toList) : lastNumberHasPoint expression = true := by
  obtain ⟨front, first, rest, split, letter, others⟩ := named
  refine lastNumberHasPoint_iff.mpr ⟨front, first :: rest, split, ?_⟩
  -- The search passes every letter and every digit behind the point.
  have passed {c : Char} (letter : c.isAlpha = true) : c ≠ '.' ∧ isStop c = false := by
    refine ⟨?_, isStop_of_isAlpha letter⟩
    rintro rfl
    cases letter
  refine List.forall_mem_cons.mpr ⟨passed letter, fun c member => ?_⟩
  rcases Bool.or_eq_true _ _ |>.mp (others c member) with other | digit
  · exact passed other
  · refine ⟨?_, isStop_of_inNumber (inNumber_of_isDigit digit)⟩
    rintro rfl
    cases digit

namespace IsSpelled

/-- A part of a text is spelled as the text is. -/
theorem of_infix (spelled : IsSpelled text) {part : List Char} (inside : part <:+: text) :
    IsSpelled part :=
  ⟨fun c member => spelled.typable c (inside.subset member), spelled.apart.infix inside⟩

/-- Behind the last point of a text, and without a stop, there are only digits, or a name. -/
theorem digits_or_name (spelled : IsSpelled text)
    (passed : ∀ c ∈ text, c ≠ '.' ∧ isStop c = false) :
    (∀ c ∈ text, c.isDigit = true) ∨
      ∃ first rest, text = first :: rest ∧ first.isAlpha = true ∧
        ∀ c ∈ rest, c.isAlphanum = true := by
  -- A character that can be typed, and at which the search goes on, is a letter or a digit.
  have kind : ∀ c ∈ text, c.isAlphanum = true := fun c member => by
    obtain ⟨noPoint, noStop⟩ := passed c member
    have typable := spelled.typable c member
    simp only [isStop, Bool.or_eq_false_iff] at noStop
    simpa [isTypable, noPoint, noStop, Char.isAlphanum, or_comm] using typable
  -- Induction on the text: behind a digit there is no letter.
  induction text with
  | nil => exact .inl (by simp)
  | cons c rest inner =>
    obtain ⟨first, others⟩ := List.forall_mem_cons.mp kind
    rcases Bool.or_eq_true _ _ |>.mp first with letter | digit
    · exact .inr ⟨c, rest, rfl, letter, others⟩
    · -- Behind a digit there can be no name, so the others are digits too.
      left
      have part : rest <:+: c :: rest := (List.suffix_cons c rest).isInfix
      have later := inner (spelled.of_infix part)
        (fun d member => passed d (List.mem_cons_of_mem _ member)) others
      rcases later with digits | ⟨second, more, rfl, letter, -⟩
      · exact List.forall_mem_cons.mpr ⟨digit, digits⟩
      · exact absurd ⟨digit, letter⟩ (List.isChain_cons_cons.mp spelled.apart).1

/-- In a spelled text a point is found in the number at its end, or in front of a name. -/
theorem lastNumberHasPoint_iff {expression : String} (spelled : IsSpelled expression.toList) :
    lastNumberHasPoint expression = true ↔
      '.' ∈ expression.toList.rtakeWhile inNumber ∨ HasNameAtPoint expression.toList := by
  constructor
  · intro found
    obtain ⟨front, back, split, passed⟩ := Display.lastNumberHasPoint_iff.mp found
    have atEnd : '.' :: back <:+ expression.toList := ⟨front, split.symm⟩
    have behind : IsSpelled back :=
      spelled.of_infix ((List.suffix_cons '.' back).trans atEnd).isInfix
    -- Behind the last point there is no stop, so digits or a name are all that can follow.
    rcases behind.digits_or_name passed with digits | ⟨first, rest, rfl, letter, others⟩
    · -- The point and the digits behind it are at the end of the number.
      refine .inl (mem_rtakeWhile_of_suffix atEnd ?_ '.' List.mem_cons_self)
      exact List.forall_mem_cons.mpr ⟨by decide, fun c member =>
        inNumber_of_isDigit (digits c member)⟩
    · exact .inr ⟨front, first, rest, split, letter, others⟩
  · -- The search finds the point in both cases.
    rintro (inside | named)
    · exact lastNumberHasPoint_of_mem inside
    · exact named.lastNumberHasPoint

/-- Where a text is spelled, another one goes behind it unless a letter meets a digit. -/
theorem append (spelled : IsSpelled text) {back : List Char} (other : IsSpelled back)
    (between : ∀ c ∈ text.getLast?, ∀ d ∈ back.head?,
      ¬ (c.isDigit = true ∧ d.isAlpha = true)) : IsSpelled (text ++ back) :=
  ⟨List.forall_mem_append.mpr ⟨spelled.typable, other.typable⟩,
    List.isChain_append.mpr ⟨spelled.apart, other.apart, between⟩⟩

/-- A text without letters is spelled. -/
theorem of_marks (marks : text.all isMark = true) : IsSpelled text := by
  -- Two characters can only meet in the wrong way if the second one is a letter.
  have each : ∀ c ∈ text, isTypable c = true ∧ c.isAlpha = false := by
    simpa [isMark] using marks
  refine ⟨fun c member => (each c member).1, ?_⟩
  refine (List.pairwise_of_forall_mem_list fun c _ d member meet => ?_).isChain
  rw [(each d member).2] at meet
  cases meet.2

/-- A text without digits is spelled. -/
theorem of_digitless (digitless : (text.all fun c => isTypable c && !c.isDigit) = true) :
    IsSpelled text := by
  -- Two characters can only meet in the wrong way if the first one is a digit.
  have each : ∀ c ∈ text, isTypable c = true ∧ c.isDigit = false := by simpa using digitless
  refine ⟨fun c member => (each c member).1, ?_⟩
  refine (List.pairwise_of_forall_mem_list fun c member d _ meet => ?_).isChain
  rw [(each c member).2] at meet
  cases meet.1

/-- A text without letters goes behind any spelled text. -/
theorem append_marks (spelled : IsSpelled text) {back : List Char}
    (marks : back.all isMark = true) : IsSpelled (text ++ back) := by
  -- Where they meet, the second character is no letter.
  refine spelled.append (of_marks marks) fun c _ d member meet => ?_
  have letterless := List.all_eq_true.mp marks d (List.mem_of_head? member)
  simp [isMark, meet.2] at letterless

end IsSpelled

/-- What is shown for a number is spelled. -/
theorem isSpelled_of_shown {shown : List Char} (all : ∀ c ∈ shown, isShownChar c = true) :
    IsSpelled shown := by
  -- None of its characters is a letter.
  have kinds {c : Char} (member : c ∈ shown) : c.isDigit = true ∨ c = '-' ∨ c = '.' := by
    simpa [isShownChar, or_assoc] using all c member
  refine .of_marks (List.all_eq_true.mpr fun c member => ?_)
  rcases kinds member with digit | rfl | rfl
  · have noLetter : c.isAlpha = false := Bool.eq_false_iff.mpr fun letter => by
      have none := isDigit_of_isAlpha letter
      simp [Text.isDigit, Text.decimalDigit?, digit] at none
    simp [isMark, isTypable, digit, noLetter]
  · decide
  · decide

end Texts

section Displays

variable {display : Display}

/-- A display is spelled: its expression is, and its result is shown as a number unless it is
none. -/
structure SpellsOut (display : Display) : Prop where
  expression : IsSpelled display.expression.toList
  result : isChainable display.result = true → ∀ c ∈ display.result.toList, isShownChar c = true

/-- A button that is put into the expression as it is has no letters. -/
theorem marks_of_button {token : String} (known : token ∈ Window.inputButtons)
    (isToken : token ∉ ["C", "DEL", "="])
    (noFunction : (NamedFunction.ofName? token).isSome = false) :
    token.toList.all isMark = true := by
  -- There are finitely many buttons.
  revert token
  decide

/-- A text without letters leaves a spelled display spelled. -/
theorem SpellsOut.append (spells : display.SpellsOut) {text : String}
    (marks : text.toList.all isMark = true) : (display.append text).SpellsOut := by
  refine ⟨?_, spells.result⟩
  rw [Display.append, String.toList_append]
  exact spells.expression.append_marks marks

/-- A function name leaves a spelled display spelled. -/
theorem SpellsOut.appendFunction (spells : display.SpellsOut) (function : NamedFunction) :
    (display.appendFunction function.name).SpellsOut := by
  -- The name and its parenthesis have no digits.
  have named : IsSpelled (function.name ++ "(").toList := by
    cases function <;> exact .of_digitless (by decide)
  refine ⟨?_, spells.result⟩
  rw [Display.appendFunction, Display.append, String.append_assoc, String.toList_append,
    String.toList_append]
  -- Behind a digit the name is multiplied, and nothing else keeps it from being put there.
  by_cases digit : display.expression.toList.getLast?.any Text.isDigit = true
  · rw [if_pos digit, ← List.append_assoc]
    -- The times sign stands between the digit and the name.
    have times : IsSpelled (display.expression.toList ++ "*".toList) :=
      spells.expression.append_marks (by decide)
    refine times.append named fun c isLast d _ meet => ?_
    obtain rfl : '*' = c := by simpa using isLast
    cases meet.1
  · -- No digit of ASCII is at the end, or the name would be multiplied.
    rw [if_neg digit, String.toList_empty, List.nil_append]
    refine spells.expression.append named fun c isLast d _ meet => digit ?_
    rw [Option.mem_def.mp isLast, Option.any_some, Text.isDigit, Text.decimalDigit?, if_pos meet.1]
    rfl

/-- A decimal point leaves a spelled display spelled. -/
theorem SpellsOut.appendPoint (spells : display.SpellsOut) : display.appendPoint.SpellsOut := by
  rcases display.appendPoint_cases with ⟨-, same⟩ | ⟨-, text, put, same⟩ <;> rw [same]
  · exact spells
  · -- The point may bring a zero along, and neither has letters.
    simp only [List.mem_cons, List.not_mem_nil, or_false] at put
    rcases put with rfl | rfl <;> exact spells.append (by decide)

/-- A display without the last character of its expression is spelled as it was. -/
theorem SpellsOut.dropLast (spells : display.SpellsOut) : display.dropLast.SpellsOut := by
  refine ⟨?_, spells.result⟩
  rw [Display.dropLast, String.toList_ofList]
  exact spells.expression.of_infix (List.dropLast_prefix _).isInfix

/-- An operator leaves a spelled display spelled. -/
theorem SpellsOut.appendOperator (spells : display.SpellsOut) {token : String}
    (operator : isOperatorToken token = true) : (display.appendOperator token).SpellsOut := by
  -- An operator is a single character and no letter.
  have marks : token.toList.all isMark = true := by
    obtain ⟨c, same, isOp⟩ := exists_of_isOperatorToken operator
    have noLetter : c.isAlpha = false := Bool.eq_false_iff.mpr fun letter => by
      have noStop := isStop_of_isAlpha letter
      simp [isStop, isOp] at noStop
    simp [same, isMark, isTypable, isOp, noLetter]
  rcases display.appendOperator_cases token with ⟨-, same⟩ | ⟨last, -, -, same⟩ | ⟨-, -, same⟩ <;>
    rw [same]
  · exact spells
  · exact spells.dropLast.append marks
  · exact spells.append marks

/-- A result that is shown as a number is spelled as an operand. -/
theorem isSpelled_operand {result : String} (shown : ∀ c ∈ result.toList, isShownChar c = true) :
    IsSpelled (operand result).toList := by
  unfold operand
  -- A negative result has parentheses around it, of which none is a letter.
  split
  · rw [String.toList_append, String.toList_append]
    have opened : IsSpelled ("(".toList ++ result.toList) := by
      refine IsSpelled.append (.of_marks (by decide)) (isSpelled_of_shown shown) ?_
      intro c isLast d _ meet
      obtain rfl : '(' = c := by simpa using isLast
      cases meet.1
    exact opened.append_marks (by decide)
  · exact isSpelled_of_shown shown

/-- A result of zero is shown as a number. -/
theorem isShownChar_zero : ∀ c ∈ "0".toList, isShownChar c = true :=
  isShownChar_toString 0

/-- A display that has just been cleared is spelled. -/
theorem spellsOut_clear : clear.SpellsOut :=
  ⟨.of_marks (by decide), fun _ => isShownChar_zero⟩

/-- In front of a token a spelled display stays spelled. -/
theorem SpellsOut.beforeToken (spells : display.SpellsOut) (token : String) :
    (display.beforeToken token).SpellsOut := by
  -- A result that an operator goes on with is shown as a number.
  rcases display.beforeToken_cases token with ⟨-, same⟩ | ⟨-, -, chains, same⟩ | ⟨-, same⟩ <;>
    rw [same]
  · exact spells
  · exact ⟨isSpelled_operand (spells.result chains), spells.result⟩
  · exact spellsOut_clear

/-- The token of a button leaves a spelled display spelled. -/
theorem SpellsOut.appendToken (spells : display.SpellsOut) {token : String}
    (known : token ∈ Window.inputButtons) (isToken : token ∉ ["C", "DEL", "="]) :
    (display.appendToken token).SpellsOut := by
  have spells := spells.beforeToken token
  rcases display.appendToken_cases token with ⟨-, same⟩ | ⟨function, rfl, same⟩ |
    ⟨operator, same⟩ | ⟨-, noFunction, -, same⟩ <;> rw [same]
  · exact spells.appendPoint
  · exact spells.appendFunction function
  · exact spells.appendOperator operator
  · exact spells.append (marks_of_button known isToken noFunction)

/-- Deleting leaves a spelled display spelled. -/
theorem SpellsOut.deleteLast (spells : display.SpellsOut) : display.deleteLast.SpellsOut := by
  -- What is deleted comes off the end, or all of the display is cleared.
  rcases display.deleteLast_cases with same | same | ⟨-, ⟨-, same⟩ | same⟩ <;> rw [same]
  · exact spellsOut_clear
  · exact spells
  · exact spells.dropLast
  · exact ⟨spells.dropLast.expression, fun _ => isShownChar_zero⟩

/-- Working the expression out leaves a spelled display spelled. -/
theorem SpellsOut.equals (spells : display.SpellsOut) {next : Display} {places : ℤ}
    (pressed : display.equals (Settings.placesOf (.int places)) = .ok next) : next.SpellsOut := by
  rcases equals_cases pressed with ⟨-, rfl⟩ | ⟨-, rfl⟩ | ⟨value, text, shown, rfl⟩
  · exact ⟨spells.expression, fun _ => isShownChar_zero⟩
  · exact ⟨spells.expression, by rintro ⟨⟩⟩
  · -- What is no number is made of letters, and not calculated with.
    rcases display_chars shown with word | number
    · simp only [List.mem_cons, List.not_mem_nil, or_false] at word
      rcases word with rfl | rfl | rfl
      · exact ⟨.of_digitless (by decide), by rintro ⟨⟩⟩
      · exact ⟨.of_digitless (by decide), by rintro ⟨⟩⟩
      · exact ⟨.of_digitless (by decide), by rintro ⟨⟩⟩
    · exact ⟨isSpelled_of_shown number, fun _ => number⟩

/-- Whatever is pressed, the display is spelled. -/
theorem IsTyped.spellsOut (typed : display.IsTyped) : display.SpellsOut := by
  -- Induction on the presses, each of which keeps the display spelled.
  induction typed with
  | clear => exact spellsOut_clear
  | press before known places pressed spells =>
    -- Each kind of press has its own lemma.
    rcases press_cases pressed with rfl | rfl | worked | ⟨isToken, rfl⟩
    · exact spellsOut_clear
    · exact spells.deleteLast
    · exact spells.equals worked
    · exact spells.appendToken known isToken

/-- Where a display is being edited the decimal point never fails, and it is refused just where the
search for another one finds it. -/
theorem press_point (editing : display.justEvaluated = false) (places : Places) :
    ∃ next, display.press "." places = .ok next ∧
      (next.expression = display.expression ↔
        lastNumberHasPoint display.expression = true) := by
  -- No result is in the way, so that the point goes to the expression as it is.
  have pressed : display.press "." places = .ok display.appendPoint := by
    simp [Display.press, Display.appendToken, Display.beforeToken, editing]
  refine ⟨_, pressed, ?_⟩
  rcases display.appendPoint_cases with ⟨found, same⟩ | ⟨missing, text, put, same⟩ <;> rw [same]
  · exact iff_of_true rfl found
  · -- A point that is not refused makes the expression longer.
    have longer : (display.append text).expression ≠ display.expression := by
      rw [Display.append, Ne, String.append_eq_left_iff]
      rintro rfl
      exact absurd put (by decide)
    exact iff_of_false longer (Bool.eq_false_iff.mp missing)

end Displays

/-- While an expression is typed, the decimal point is refused just where the number at the end of
the expression has one, and where a name without its parenthesis stands directly behind one, in
which case the number at the end has none. -/
theorem point_refused_iff {display : Display} (typed : display.IsTyped)
    (editing : display.justEvaluated = false) (places : Places) :
    ∃ next, display.press "." places = .ok next ∧
      (next.expression = display.expression ↔
        '.' ∈ display.expression.toList.rtakeWhile inNumber ∨
          HasNameAtPoint display.expression.toList) ∧
      (HasNameAtPoint display.expression.toList →
        '.' ∉ display.expression.toList.rtakeWhile inNumber) := by
  obtain ⟨next, pressed, refused⟩ := press_point editing places
  -- In a spelled expression the search finds the point just there.
  rw [typed.spellsOut.expression.lastNumberHasPoint_iff] at refused
  exact ⟨next, pressed, refused, HasNameAtPoint.not_mem⟩

/-- Behind the five of one and a half the point is refused, since the number has one. -/
theorem point_refused_iff_half :
    ∃ next, Display.press ⟨"1.5", "0", false⟩ "." = .ok next ∧ next.expression = "1.5" := by
  -- The display comes of three presses.
  have one : IsTyped ⟨"1", "0", false⟩ := .press .clear (show "1" ∈ _ by decide) 8 rfl
  have point : IsTyped ⟨"1.", "0", false⟩ := .press one (show "." ∈ _ by decide) 8 rfl
  have half : IsTyped ⟨"1.5", "0", false⟩ := .press point (show "5" ∈ _ by decide) 8 rfl
  obtain ⟨next, pressed, refused, -⟩ := point_refused_iff half rfl .standard
  exact ⟨next, pressed, refused.mpr (.inl (by decide))⟩

/-- Behind a sine that has lost its parenthesis and follows a point, the point is refused though
there is no number at the end. -/
theorem point_refused_behind_name :
    IsTyped ⟨"1.sin", "0", false⟩ ∧ '.' ∉ "1.sin".toList.rtakeWhile inNumber ∧
      Display.press ⟨"1.sin", "0", false⟩ "." = .ok ⟨"1.sin", "0", false⟩ := by
  have one : IsTyped ⟨"1", "0", false⟩ := .press .clear (show "1" ∈ _ by decide) 8 rfl
  have point : IsTyped ⟨"1.", "0", false⟩ := .press one (show "." ∈ _ by decide) 8 rfl
  have sine : IsTyped ⟨"1.sin(", "0", false⟩ := .press point (show "sin" ∈ _ by decide) 8 rfl
  exact ⟨.press sine (show "DEL" ∈ _ by decide) 8 rfl, by decide, rfl⟩

end DeskCalc.Display
