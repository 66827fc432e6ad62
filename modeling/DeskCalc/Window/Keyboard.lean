import DeskCalc.Window.Calculating

/-! Keys: some have a meaning of their own, and others type what is on buttons. -/

namespace DeskCalc.Window

/-- The keys that do something by themselves. -/
inductive Key
  | shift
  | enter
  | backspace
  | escape
  | other

/-- The characters that a key may type, beside the operators. -/
def typedCharacters : List Char := "0123456789.()".toList

/-- Whether a part stands somewhere in a list, in one piece. -/
def isStretchOf (part : List Char) : List Char → Bool
  | [] => part.isEmpty
  | c :: rest => part.isPrefixOf (c :: rest) || isStretchOf part rest

/-- A text is typed when it is an operator or a stretch of the other characters in their order. -/
def isTyped (text : String) : Bool :=
  text != "" && (isStretchOf text.toList typedCharacters || Display.isOperatorToken text)

/-- The button that a key stands for. -/
def shortcut? : Key → Option String
  | .enter => some "="
  | .backspace => some "DEL"
  | .escape => some "C"
  | _ => none

/-- A key goes down: shift is remembered, a shortcut presses its button,
and typed text is a button too. -/
def keyDown (window : Window) (key : Key) (text : String) : Window × Response :=
  let press (button : String) : Window × Response :=
    let (window, response) := window.pressButton button
    (window, { response with isAccepted := some true })
  match key with
  | .shift => ({ window with isShiftHeld := true }, { isAccepted := some false })
  | key =>
    match shortcut? key with
    | some button => press button
    | none => if isTyped text then press text else (window, { isAccepted := some false })

/-- A key comes up, which only matters for shift. -/
def keyUp (window : Window) (key : Key) : Window × Response :=
  let window := match key with
    | .shift => { window with isShiftHeld := false }
    | _ => window
  (window, { isAccepted := some false })

end DeskCalc.Window
