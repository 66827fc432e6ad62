import DeskCalc.Proofs.Window.Repeating

/-! Keys: a key that types one character is a click on the button with that label, up to the hold
that only the mouse has. Several characters that are side by side in the list of those that can be
typed are taken for one token, and whatever else a key says is ignored. -/

namespace DeskCalc.Window

/-- The characters that are typed one by one: each of them is the label of a button. -/
def IsCharacter (text : String) : Prop :=
  ∃ c, text.toList = [c] ∧ (c ∈ typedCharacters ∨ Display.isOperator c = true)

/-- Several characters that stand side by side in the list of those that can be typed. -/
def IsStretch (text : String) : Prop :=
  2 ≤ text.length ∧ text.toList <:+: typedCharacters

section Texts

variable {text : String}

/-- The search for a part comes upon it wherever it stands. -/
theorem isStretchOf_iff {part whole : List Char} :
    isStretchOf part whole = true ↔ part <:+: whole := by
  -- Either the part starts here or it stands further on.
  induction whole with
  | nil => simp [isStretchOf]
  | cons c rest inner =>
    rw [isStretchOf, Bool.or_eq_true, List.isPrefixOf_iff_prefix, inner, List.infix_cons_iff]

/-- A single character stands in a list just where it is one of its characters. -/
theorem singleton_infix_iff {c : Char} {whole : List Char} : [c] <:+: whole ↔ c ∈ whole := by
  -- A list is split around each of its members.
  constructor
  · exact fun inside => inside.subset (List.mem_singleton_self c)
  · intro member
    obtain ⟨front, back, rfl⟩ := List.append_of_mem member
    exact ⟨front, back, by simp⟩

/-- A text is typed when it is one of the characters, or a stretch of several. -/
theorem isTyped_iff : isTyped text = true ↔ IsCharacter text ∨ IsStretch text := by
  rw [isTyped, Bool.and_eq_true, Bool.or_eq_true, isStretchOf_iff, bne_iff_ne, Ne,
    ← String.toList_eq_nil_iff, IsCharacter, IsStretch, Display.isOperatorToken,
    ← String.length_toList]
  -- The length of the text tells the two kinds apart.
  match text.toList with
  | [] => simp
  | [c] => simp [singleton_infix_iff]
  | c :: d :: rest => simp

/-- A character that can be typed is the label of a button, which is neither that of the settings
nor that of the clipboard. -/
theorem IsCharacter.label (single : IsCharacter text) : text ∈ buttons.map (·.label) ∧
    (text == settingsButton) = false ∧ (text == clipboardButton) = false := by
  -- There are eighteen of them.
  have labelled : (typedCharacters ++ ['+', '-', '*', '/', '^']).all (fun c =>
      (buttons.map (·.label)).contains (String.ofList [c]) &&
        ((String.ofList [c] == settingsButton) == false &&
          (String.ofList [c] == clipboardButton) == false)) = true := by decide
  obtain ⟨c, same, typed⟩ := single
  have known : c ∈ typedCharacters ++ ['+', '-', '*', '/', '^'] := by
    simpa [Display.isOperator, or_assoc] using typed
  obtain rfl : text = String.ofList [c] := by rw [← same, String.ofList_toList]
  have found := List.all_eq_true.mp labelled c known
  simpa only [Bool.and_eq_true, List.contains_iff_mem, beq_iff_eq] using found

/-- A stretch of several characters is no button of its own, and no token that is treated in a
way of its own. -/
theorem IsStretch.other (stretch : IsStretch text) :
    (text ≠ "C" ∧ text ≠ "DEL" ∧ text ≠ "=") ∧ text ≠ "." ∧
      Expression.NamedFunction.ofName? text = none ∧ Display.isOperatorToken text = false := by
  obtain ⟨long, part⟩ := stretch
  -- It has no letter, and more than one character.
  have letterless : (typedCharacters.any (·.isAlpha)) = false := by decide
  have noLetter : ∀ c ∈ text.toList, c.isAlpha = false := fun c member =>
    Bool.eq_false_iff.mpr (List.any_eq_false.mp letterless c (part.subset member))
  have several {short : String} (single : short.length < 2) : text ≠ short := by
    rintro rfl
    omega
  refine ⟨⟨several (by decide), ?_, several (by decide)⟩, several (by decide), ?_, ?_⟩
  · rintro rfl
    exact absurd (noLetter 'D' (by decide)) (by decide)
  · rw [Option.eq_none_iff_forall_ne_some]
    intro function named
    obtain rfl := Expression.NamedFunction.ofName?_eq_some_iff.mp named
    cases function <;> exact absurd (noLetter _ (List.mem_cons_self ..)) (by decide)
  · rw [Display.isOperatorToken]
    split
    · rename_i c same
      simp [← String.length_toList, same] at long
    · rfl

/-- A stretch of several characters is put at the end of the expression as it is, or in the place
of a result. -/
theorem IsStretch.press_eq (stretch : IsStretch text) (display : Display)
    (places : Number.Places) : display.press text places =
      .ok ((if display.justEvaluated then .clear else display).append text) := by
  -- It is not told apart from a digit, for which no branch of its own is made either.
  obtain ⟨⟨notC, notDel, notEquals⟩, notPoint, notFunction, notOperator⟩ := stretch.other
  have before : display.beforeToken text =
      if display.justEvaluated then .clear else display := by
    cases evaluated : display.justEvaluated <;>
      simp [Display.beforeToken, evaluated, notOperator]
  simp [Display.press, notC, notDel, notEquals, Display.appendToken, before, notPoint, notFunction,
    notOperator]

end Texts

/-- A text at the end of an expression, or in the place of a result, is seen. -/
theorem append_ne {text : String} (occupied : text ≠ "") (display : Display) :
    (if display.justEvaluated then .clear else display).append text ≠ display := by
  intro same
  cases evaluated : display.justEvaluated with
  | true =>
    -- The result would no longer be one that has just been worked out.
    rw [evaluated, if_pos rfl] at same
    rw [← same] at evaluated
    cases evaluated
  | false =>
    rw [evaluated, if_neg Bool.false_ne_true] at same
    have longer := congrArg (fun display => display.expression.length) same
    simp only [Display.append, String.length_append] at longer
    exact occupied (String.length_eq_zero_iff.mp (by omega))

namespace Desk

variable (desk : Desk) (text : String)

/-- A key without a meaning of its own presses the button with its text, if that is typed. -/
theorem step_keyDown_other : (desk.step (.keyDown .other text)).1 =
    if isTyped text then (desk.withWindow (desk.window.pressButton text)).1 else desk := by
  by_cases typed : isTyped text = true
  · simp [step, withWindow, keyDown, shortcut?, typed]
  · simp [step, withWindow, keyDown, shortcut?, typed]

variable {text}

/-- A click on a character presses its button, and ends a hold if the button repeats. -/
theorem step_click_of_isCharacter (single : IsCharacter text) :
    ∃ hold, (desk.step (.click text)).1 =
      (desk.withWindow (desk.window.pressButton text)).1.withHold hold := by
  by_cases repeats : text ∈ repeatingButtons
  · exact ⟨.up false, desk.step_click repeats⟩
  · -- Other buttons leave the hold as it is.
    obtain ⟨-, notSettings, notClipboard⟩ := single.label
    refine ⟨(desk.withWindow (desk.window.pressButton text)).1.window.hold, ?_⟩
    simp only [step, mouseDown, mouseUp, notSettings, notClipboard, List.contains_iff_mem, repeats,
      if_false, Bool.false_eq_true]
    rfl

/-- What a key without a meaning of its own does. One of the characters is a click on the button of
that label, apart from the hold, which no key touches. Several characters that stand side by side
among those that can be typed are put into the expression as they are. Any other text changes
nothing. -/
theorem keyDown_types (desk : Desk) (text : String) :
    (desk.step (.keyDown .other text)).1.window.hold = desk.window.hold ∧
    (IsCharacter text → text ∈ buttons.map (·.label) ∧
      ∃ hold, (desk.step (.click text)).1 =
        (desk.step (.keyDown .other text)).1.withHold hold) ∧
    (IsStretch text →
      let shown := desk.window.display
      let display := (if shown.justEvaluated then .clear else shown).append text
      (desk.step (.keyDown .other text)).1 =
        { desk with window := { desk.window with display }.refresh } ∧ display ≠ shown) ∧
    (¬ IsCharacter text → ¬ IsStretch text → (desk.step (.keyDown .other text)).1 = desk) := by
  refine ⟨desk.step_hold rfl rfl, fun single => ?_, fun stretch => ?_, fun other short => ?_⟩
  · obtain ⟨hold, clicked⟩ := desk.step_click_of_isCharacter single
    rw [step_keyDown_other, if_pos (isTyped_iff.mpr (.inl single))]
    exact ⟨single.label.1, hold, clicked⟩
  · -- The press takes the several characters for one token.
    obtain ⟨⟨-, -, notEquals⟩, -⟩ := stretch.other
    rw [step_keyDown_other, if_pos (isTyped_iff.mpr (.inr stretch))]
    simp only [pressButton, beq_iff_eq, notEquals, if_false, pressDisplay, stretch.press_eq]
    refine ⟨rfl, append_ne ?_ _⟩
    rintro rfl
    exact absurd stretch.1 (by decide)
  · have silent : ¬ isTyped text = true := mt isTyped_iff.mp (not_or.mpr ⟨other, short⟩)
    rw [step_keyDown_other, if_neg silent]

/-- A key that types two digits changes the expression, though it is none of the characters. -/
theorem keyDown_two_digits :
    open? {} = .ok bare ∧ ¬ IsCharacter "12" ∧
      (bare.step (.keyDown .other "12")).1.window.display.expression = "12" ∧
      bare.window.display.expression = "" := by
  refine ⟨rfl, ?_, rfl, rfl⟩
  rintro ⟨c, same, -⟩
  cases same

end Desk

end DeskCalc.Window
