import DeskCalc.Proofs.Display.Editing
import Mathlib.Data.List.Chain

/-! Typing: an expression that is typed with the buttons alone stays lexically sensible.
No number in it has two decimal points, and no two operators stand side by side. -/

namespace DeskCalc.Display

open DeskCalc.Number DeskCalc.Expression

/-- The characters of a number that is being typed. -/
def inNumber (c : Char) : Bool :=
  Text.isDigit c || c == '.'

/-- A character that neither starts a fraction nor is an operator. -/
def isPlain (c : Char) : Bool :=
  c != '.' && !isOperator c

/-- A text is lexically sensible. Every run of digits and points in it, hence also every
longest one, has at most one point, and no two operators are adjacent. -/
structure IsSensible (text : List Char) : Prop where
  points : ∀ run, run <:+: text → (∀ c ∈ run, inNumber c = true) → run.count '.' ≤ 1
  operators : text.IsChain fun c d => ¬ (isOperator c = true ∧ isOperator d = true)

/-- The number at the end of a text has no point. -/
def LacksPoint (text : List Char) : Prop :=
  ∀ run, run <:+ text → (∀ c ∈ run, inNumber c = true) → '.' ∉ run

section Texts

variable {text : List Char}

/-- An operator is no digit. -/
theorem isDigit_of_isOperator {c : Char} (operator : isOperator c = true) :
    Text.isDigit c = false := by
  simp only [isOperator, Bool.or_eq_true, beq_iff_eq] at operator
  -- There are five operators, none of which is a digit.
  rcases operator with (((rfl | rfl) | rfl) | rfl) | rfl <;> decide

/-- A character of a numeral is no operator. -/
theorem isOperator_of_isNumeralChar {c : Char} (member : isNumeralChar c = true) :
    isOperator c = false := by
  rw [isNumeralChar, Bool.or_eq_true, beq_iff_eq] at member
  -- The point is no operator, and no digit is one.
  rcases member with digit | rfl
  · cases operator : isOperator c with
    | false => rfl
    | true =>
      have isDigit : Text.isDigit c = true := by simp [Text.isDigit, Text.decimalDigit?, digit]
      rw [isDigit_of_isOperator operator] at isDigit
      cases isDigit
  · decide

/-- The empty text is sensible. -/
theorem isSensible_nil : IsSensible [] :=
  ⟨fun run part _ => by simp [List.infix_nil.mp part], List.isChain_nil⟩

/-- A part of a sensible text is sensible. -/
theorem IsSensible.of_infix (sensible : IsSensible text) {part : List Char}
    (inside : part <:+: text) : IsSensible part :=
  ⟨fun run within => sensible.points run (within.trans inside), sensible.operators.infix inside⟩

/-- A character goes behind a sensible text, unless it is a second operator
or a second point of one number. -/
theorem IsSensible.concat (sensible : IsSensible text) {c : Char}
    (alone : isOperator c = true → ∀ last ∈ text.getLast?, isOperator last = false)
    (first : c = '.' → LacksPoint text) : IsSensible (text ++ [c]) := by
  refine ⟨fun run part number => ?_, ?_⟩
  · -- A run is a part of the text, or the character behind a run at the end of the text.
    rcases List.infix_concat_iff.mp part with atEnd | inside
    · rcases List.suffix_concat_iff.mp atEnd with rfl | ⟨front, rfl, before⟩
      · simp
      · -- The run ends with the new character, and what is in front of it has been a run before.
        have frontNumber : ∀ d ∈ front, inNumber d = true := fun d member =>
          number d (List.mem_append_left _ member)
        rw [List.count_append]
        by_cases point : c = '.'
        · rw [List.count_eq_zero.mpr (first point front before frontNumber), point]
          simp
        · rw [List.count_eq_zero.mpr (show '.' ∉ [c] by simpa using fun same => point same.symm)]
          exact sensible.points front before.isInfix frontNumber
    · exact sensible.points run inside number
  · -- The new character only meets the last one of the text.
    refine List.isChain_append.mpr ⟨sensible.operators, List.isChain_singleton c, ?_⟩
    rintro last isLast d isHead ⟨lastOperator, operator⟩
    obtain rfl : c = d := by simpa using isHead
    rw [alone operator last isLast] at lastOperator
    cases lastOperator

/-- A point goes behind a sensible text whose last number has none. -/
theorem IsSensible.concat_point (sensible : IsSensible text) (lacks : LacksPoint text) :
    IsSensible (text ++ ['.']) :=
  sensible.concat (fun operator => absurd operator (by decide)) fun _ => lacks

/-- An operator goes behind a sensible text that does not end with one. -/
theorem IsSensible.concat_operator (sensible : IsSensible text) {c : Char}
    (operator : isOperator c = true) (alone : ∀ last ∈ text.getLast?, isOperator last = false) :
    IsSensible (text ++ [c]) := by
  -- No operator is a point.
  refine sensible.concat (fun _ => alone) ?_
  rintro rfl
  cases operator

/-- A character that belongs to no number goes before a sensible text,
unless two operators would meet. -/
theorem IsSensible.cons (sensible : IsSensible text) {c : Char} (outside : inNumber c = false)
    (alone : isOperator c = true → ∀ head ∈ text.head?, isOperator head = false) :
    IsSensible (c :: text) := by
  refine ⟨fun run part number => ?_, ?_⟩
  · -- No run takes the character in.
    rcases List.infix_cons_iff.mp part with atStart | inside
    · rcases List.prefix_cons_iff.mp atStart with rfl | ⟨rest, rfl, -⟩
      · simp
      · have member := number c (List.mem_cons_self ..)
        rw [outside] at member
        cases member
    · exact sensible.points run inside number
  · -- Only the first two characters of the new text have not been neighbours before.
    refine List.isChain_cons.mpr ⟨?_, sensible.operators⟩
    rintro head isHead ⟨operator, headOperator⟩
    rw [alone operator head isHead] at headOperator
    cases headOperator

/-- Plain characters go behind a sensible text. -/
theorem IsSensible.append_plain (sensible : IsSensible text) {back : List Char}
    (plain : back.all isPlain = true) : IsSensible (text ++ back) := by
  -- Induction on the characters, each of which is neither a point nor an operator.
  induction back generalizing text with
  | nil => simpa using sensible
  | cons c rest inner =>
    rw [List.all_cons, Bool.and_eq_true] at plain
    have single : c ≠ '.' ∧ isOperator c = false := by simpa [isPlain] using plain.1
    rw [← List.singleton_append, ← List.append_assoc]
    refine inner (sensible.concat (fun operator => ?_) fun point => absurd point single.1) plain.2
    rw [single.2] at operator
    cases operator

/-- Behind an operator that ends a sensible text no other one is left. -/
theorem IsSensible.getLast?_dropLast (sensible : IsSensible text) {last : Char}
    (isLast : text.getLast? = some last) (operator : isOperator last = true) :
    ∀ c ∈ text.dropLast.getLast?, isOperator c = false := by
  intro c member
  -- In front of the last operator stands no other one, as the text is sensible.
  have split : text.dropLast ++ [last] = text := List.dropLast_append_getLast? last isLast
  have chain := sensible.operators
  rw [← split] at chain
  have apart := (List.isChain_append.mp chain).2.2 c member last rfl
  exact Bool.eq_false_iff.mpr fun other => apart ⟨other, operator⟩

/-- Behind a character that is no point the number at the end still has none. -/
theorem LacksPoint.concat (lacks : LacksPoint text) {c : Char} (other : c ≠ '.') :
    LacksPoint (text ++ [c]) := by
  intro run atEnd number
  -- The run at the end is empty, or the new character behind a run.
  rcases List.suffix_concat_iff.mp atEnd with rfl | ⟨front, rfl, before⟩
  · simp
  · have without := lacks front before fun d member => number d (List.mem_append_left _ member)
    simpa [without] using fun same => other same.symm

/-- Where the search for a point comes upon an end of the number first, the number has no point. -/
theorem lacksPoint_of_lastNumberHasPoint {expression : String}
    (none : lastNumberHasPoint expression = false) : LacksPoint expression.toList := by
  rintro run ⟨front, split⟩ number inside
  -- The search goes backwards, and in the run it can only stop at a point.
  obtain ⟨stop, found⟩ := Option.isSome_iff_exists.mp
    (List.find?_isSome.mpr ⟨'.', List.mem_reverse.mpr inside, by decide⟩ :
      (run.reverse.find? fun c => c == '.' || isOperator c || c == '(' || c == ')').isSome)
  have member := number stop (List.mem_reverse.mp (List.mem_of_find?_eq_some found))
  have stops := List.find?_some found
  have point : stop = '.' := by
    simp only [Bool.or_eq_true, beq_iff_eq] at stops
    rcases stops with ((point | operator) | rfl) | rfl
    · exact point
    · simpa [inNumber, isDigit_of_isOperator operator] using member
    · cases member
    · cases member
  rw [lastNumberHasPoint, ← split, List.reverse_append, List.find?_append, found, point] at none
  cases none

/-- A numeral is sensible. -/
theorem isSensible_of_isNumeral {whole fraction : List Char}
    (numeral : IsNumeral text whole fraction) : IsSensible text := by
  -- No digit is a point.
  have without {digits : List Char} (all : digits.all Char.isDigit = true) :
      digits.count '.' = 0 :=
    List.count_eq_zero.mpr fun member => absurd (List.all_eq_true.mp all '.' member) (by decide)
  refine ⟨fun run part _ => (part.sublist.count_le '.').trans ?_, ?_⟩
  · -- In each form the point is written once at most.
    cases numeral with
    | whole _ all => simp [without all]
    | point _ allWhole allFraction => simp [without allWhole, without allFraction]
    | fraction _ all => simp [without all]
  · -- A numeral has no operators at all.
    refine (List.pairwise_of_forall_mem_list fun c member d _ both => ?_).isChain
    have operator := both.1
    rw [isOperator_of_isNumeralChar (numeral.isNumeralChar_of_mem member)] at operator
    cases operator

/-- What is shown for a number is sensible. -/
theorem isSensible_shownText (negative : Bool) (units places : Nat) :
    IsSensible (shownText negative units places) := by
  unfold shownText
  -- It is a zero, or a numeral with or without a minus sign.
  by_cases none : units = 0
  · rw [if_pos none]
    exact isSensible_nil.append_plain (show ['0'].all isPlain = true by decide)
  · rw [if_neg none]
    have body : IsSensible (decimalText units places) :=
      isSensible_of_isNumeral (isNumeral_decimalText units places)
    cases negative with
    | false => exact body
    | true =>
      refine body.cons (by decide) fun _ head isHead => ?_
      -- The minus sign stands before a digit.
      obtain ⟨digit, rest, isDigit, split⟩ := decimalText_eq_cons units places
      rw [split] at isHead
      obtain rfl : digit = head := by simpa using isHead
      exact isOperator_of_isNumeralChar (by simp [isNumeralChar, isDigit])

/-- What is shown for a value is sensible. -/
theorem isSensible_display {value : Float} {places : Int} {shown : String} (positive : 1 ≤ places)
    (same : Number.display value (Settings.placesOf (.int places)) = .ok shown) :
    IsSensible shown.toList := by
  -- It may be one of three words, which have neither points nor operators but the minus sign.
  rcases display_cases positive same with rfl | rfl | rfl | ⟨negative, units, count, rfl⟩
  · exact isSensible_nil.append_plain (by decide)
  · exact isSensible_nil.append_plain (by decide)
  · have minus : IsSensible ['-'] := isSensible_nil.concat_operator rfl (by simp)
    exact minus.append_plain (show "Infinity".toList.all isPlain = true by decide)
  · rw [String.toList_ofList]
    exact isSensible_shownText negative units count

/-- A sensible result is sensible as an operand. -/
theorem IsSensible.operand {result : String} (sensible : IsSensible result.toList) :
    IsSensible (operand result).toList := by
  unfold Display.operand
  -- Parentheses are plain, and only put around a negative result.
  split
  · rw [String.toList_append, String.toList_append]
    have opened : IsSensible ('(' :: result.toList) :=
      sensible.cons (by decide) fun operator => absurd operator (by decide)
    exact opened.append_plain (by decide)
  · exact sensible

end Texts

section Tokens

variable {display : Display} {token : String}

/-- A button of the window is plain unless it is the point or an operator. -/
theorem plain_of_button (known : token ∈ Window.inputButtons) (noPoint : token ≠ ".")
    (noOperator : isOperatorToken token = false) : token.toList.all isPlain = true := by
  -- There are finitely many buttons.
  revert token
  decide

/-- An operator token is one operator. -/
theorem exists_of_isOperatorToken (operator : isOperatorToken token = true) :
    ∃ c, token.toList = [c] ∧ isOperator c = true := by
  unfold isOperatorToken at operator
  split at operator
  · rename_i c same
    exact ⟨c, same, operator⟩
  · cases operator

/-- A decimal point leaves a sensible expression sensible. -/
theorem IsSensible.appendPoint (sensible : IsSensible display.expression.toList) :
    IsSensible display.appendPoint.expression.toList := by
  rcases display.appendPoint_cases with ⟨-, same⟩ | ⟨missing, text, put, same⟩
  · rw [same]
    exact sensible
  · have lacks := lacksPoint_of_lastNumberHasPoint missing
    rw [same, Display.append, String.toList_append]
    -- The point goes behind the text, or behind a zero that does.
    simp only [List.mem_cons, List.not_mem_nil, or_false] at put
    rcases put with rfl | rfl
    · exact sensible.concat_point lacks
    · have zero : IsSensible (display.expression.toList ++ ['0']) :=
        sensible.append_plain (by decide)
      simpa [List.append_assoc] using zero.concat_point (lacks.concat (by decide))

/-- A function name leaves a sensible expression sensible. -/
theorem IsSensible.appendFunction (sensible : IsSensible display.expression.toList)
    (plain : token.toList.all isPlain = true) :
    IsSensible (display.appendFunction token).expression.toList := by
  -- The name and its parenthesis are plain, whatever stands in front of them.
  have named {text : List Char} (sensible : IsSensible text) :
      IsSensible (text ++ (token.toList ++ ['('])) :=
    sensible.append_plain (by rw [List.all_append, plain]; decide)
  simp only [Display.appendFunction, Display.append, String.toList_append]
  split
  · rename_i digit
    -- It is multiplied only behind a digit.
    have times : IsSensible (display.expression.toList ++ ['*']) := by
      refine sensible.concat_operator (by decide) fun last isLast => ?_
      rw [Option.mem_def.mp isLast, Option.any_some] at digit
      refine Bool.eq_false_iff.mpr fun operator => ?_
      rw [isDigit_of_isOperator operator] at digit
      cases digit
    simpa [List.append_assoc] using named times
  · simpa using named sensible

/-- An operator leaves a sensible expression sensible. -/
theorem IsSensible.appendOperator (sensible : IsSensible display.expression.toList)
    (operator : isOperatorToken token = true) :
    IsSensible (display.appendOperator token).expression.toList := by
  obtain ⟨c, single, isOp⟩ := exists_of_isOperatorToken operator
  -- An operator goes behind all that does not end with one.
  have behind {front : Display} (sensible : IsSensible front.expression.toList)
      (alone : ∀ last ∈ front.expression.toList.getLast?, isOperator last = false) :
      IsSensible (front.append token).expression.toList := by
    rw [Display.append, String.toList_append, single]
    exact sensible.concat_operator isOp alone
  rcases display.appendOperator_cases token with ⟨-, same⟩ | ⟨last, isLast, lastOperator, same⟩ |
    ⟨alone, -, same⟩
  · rw [same]
    exact sensible
  · -- The operator before it goes away, and with it the only one at the end.
    rw [same]
    have shorter : display.dropLast.expression.toList = display.expression.toList.dropLast :=
      String.toList_ofList
    refine behind ?_ ?_
    · rw [shorter]
      exact sensible.of_infix (List.dropLast_prefix _).isInfix
    · rw [shorter]
      exact sensible.getLast?_dropLast isLast lastOperator
  · rw [same]
    exact behind sensible alone

/-- In front of a token the expression of a coherent display stays sensible. -/
theorem IsSensible.beforeToken (sensible : IsSensible display.expression.toList)
    (coherent : display.IsCoherent) : IsSensible (display.beforeToken token).expression.toList := by
  rcases display.beforeToken_cases token with ⟨-, same⟩ | ⟨evaluated, -, chains, same⟩ |
    ⟨-, same⟩ <;> rw [same]
  · exact sensible
  · -- What is followed up is the expression itself.
    rw [← coherent.result_eq evaluated chains] at sensible
    exact sensible.operand
  · exact isSensible_nil

/-- The token of a button leaves the expression of a coherent display sensible. -/
theorem IsSensible.appendToken (sensible : IsSensible display.expression.toList)
    (coherent : display.IsCoherent) (known : token ∈ Window.inputButtons) :
    IsSensible (display.appendToken token).expression.toList := by
  have sensible : IsSensible (display.beforeToken token).expression.toList :=
    sensible.beforeToken coherent
  rcases display.appendToken_cases token with ⟨-, same⟩ | ⟨function, rfl, same⟩ |
    ⟨operator, same⟩ | ⟨noPoint, -, noOperator, same⟩ <;> rw [same]
  · exact sensible.appendPoint
  · exact sensible.appendFunction (by cases function <;> decide)
  · exact sensible.appendOperator operator
  · rw [Display.append, String.toList_append]
    exact sensible.append_plain (plain_of_button known noPoint noOperator)

/-- Deleting leaves a sensible expression sensible. -/
theorem IsSensible.deleteLast (sensible : IsSensible display.expression.toList) :
    IsSensible display.deleteLast.expression.toList := by
  -- What is left in front of the last character is a part of the expression.
  have shorter : IsSensible display.dropLast.expression.toList := by
    rw [Display.dropLast, String.toList_ofList]
    exact sensible.of_infix (List.dropLast_prefix _).isInfix
  rcases display.deleteLast_cases with same | same | ⟨-, ⟨-, same⟩ | same⟩ <;> rw [same]
  · exact isSensible_nil
  · exact sensible
  · exact shorter
  · exact shorter

/-- Working the expression out leaves a sensible one. -/
theorem IsSensible.equals (sensible : IsSensible display.expression.toList) {places : Int}
    (positive : 1 ≤ places) {next : Display}
    (pressed : display.equals (Settings.placesOf (.int places)) = .ok next) :
    IsSensible next.expression.toList := by
  -- The expression stays, or becomes what is shown for its value.
  rcases equals_cases pressed with ⟨-, rfl⟩ | ⟨-, rfl⟩ | ⟨value, text, shown, rfl⟩
  · exact sensible
  · exact sensible
  · exact isSensible_display positive shown

/-- A press leaves the expression of a coherent display sensible. -/
theorem IsSensible.afterPress (sensible : IsSensible display.expression.toList)
    (coherent : display.IsCoherent) (press : Press) :
    IsSensible (display.afterPress press).expression.toList := by
  unfold Display.afterPress
  split
  · rename_i next pressed
    -- Each kind of press has its own lemma, and one that fails changes nothing.
    rcases press_cases pressed with rfl | rfl | worked | ⟨-, rfl⟩
    · exact isSensible_nil
    · exact sensible.deleteLast
    · exact sensible.equals press.positive worked
    · exact sensible.appendToken coherent press.known
  · exact sensible

/-- Presses leave the expression of a coherent display sensible. -/
theorem IsSensible.afterPresses (sensible : IsSensible display.expression.toList)
    (coherent : display.IsCoherent) (presses : List Press) :
    IsSensible (display.afterEdits (presses.map .press)).expression.toList := by
  -- Each press keeps both what the expression is and that the display hangs together.
  induction presses generalizing display with
  | nil => exact sensible
  | cons press rest inner =>
    exact inner (sensible.afterPress coherent press) (coherent.afterPress press)

end Tokens

/-- Whatever is pressed from the start on, the expression is lexically sensible. -/
theorem isSensible_of_presses (presses : List Press) :
    IsSensible (clear.afterEdits (presses.map .press)).expression.toList := by
  have empty : IsSensible clear.expression.toList := isSensible_nil
  exact empty.afterPresses isCoherent_clear presses

end DeskCalc.Display
