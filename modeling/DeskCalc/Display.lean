import DeskCalc.Calculation
import DeskCalc.Text.Digit

/-! The display of the calculator: the expression being edited, the last result,
and how buttons change them. -/

namespace DeskCalc

/-- The two lines of the display, and whether the result has just been worked out. -/
structure Display where
  expression : String := ""
  result : String := "0"
  justEvaluated : Bool := false
deriving DecidableEq

/-- Why a button press changes nothing: the calculation or the number of places fails. -/
inductive PressFailure
  | calculation (failure : Failure)
  | places (fault : Number.PlacesFault)

/-- What is shown for a press that fails. -/
def PressFailure.message : PressFailure → String
  | calculation failure => failure.message
  | places fault => fault.message

namespace Display

/-- The result shown for a fault. -/
def errorText : String := "Error"

/-- The operators that stand between operands. -/
def isOperator (c : Char) : Bool :=
  c == '+' || c == '-' || c == '*' || c == '/' || c == '^'

/-- A token that is an operator. -/
def isOperatorToken (token : String) : Bool :=
  match token.toList with
  | [c] => isOperator c
  | _ => false

/-- The display of a calculator that has just been switched on or cleared. -/
def clear : Display := {}

/-- Whether the number at the end of an expression has its decimal point already. -/
def lastNumberHasPoint (expression : String) : Bool :=
  let ends (c : Char) := c == '.' || isOperator c || c == '(' || c == ')'
  expression.toList.reverse.find? ends == some '.'

/-- Whether a result is a number that can be calculated with. -/
def isChainable (result : String) : Bool :=
  result != errorText && result != "Infinity" && result != "-Infinity" && result != "NaN"

/-- The result as an operand: a negative one goes into parentheses,
or a power would bind tighter than its sign. -/
def operand (result : String) : String :=
  if result.toList.head? == some '-' then "(" ++ result ++ ")" else result

/-- The display onto which a token is put: behind a result an operator chains,
and all else starts over. -/
def beforeToken (display : Display) (token : String) : Display :=
  -- An operator goes on with the result, unless that is not a number.
  if !display.justEvaluated then display
  else if isOperatorToken token && isChainable display.result then
    { expression := operand display.result, result := display.result }
  else clear

/-- The display with text put at the end of its expression. -/
def append (display : Display) (text : String) : Display :=
  { display with expression := display.expression ++ text }

/-- The display without the last character of its expression. -/
def dropLast (display : Display) : Display :=
  { display with expression := String.ofList display.expression.toList.dropLast }

/-- A decimal point: refused behind another one in the same number,
and preceded by a zero where no number is. -/
def appendPoint (display : Display) : Display :=
  if lastNumberHasPoint display.expression then display
  else
    match display.expression.toList.getLast? with
    | none => display.append "0."
    | some last => display.append (if isOperator last then "0." else ".")

/-- A function name: its parenthesis is opened, and behind a digit it is multiplied. -/
def appendFunction (display : Display) (name : String) : Display :=
  let times := display.expression.toList.getLast?.any Text.isDigit
  display.append ((if times then "*" else "") ++ name ++ "(")

/-- An operator: only a minus may come first, and an operator takes the place of one before it. -/
def appendOperator (display : Display) (token : String) : Display :=
  match display.expression.toList.getLast? with
  | none => if token == "-" then display.append token else display
  | some last => (if isOperator last then display.dropLast else display).append token

/-- Put the token of a button at the end of the expression. -/
def appendToken (display : Display) (token : String) : Display :=
  let display := display.beforeToken token
  if token == "." then display.appendPoint
  else if (Expression.NamedFunction.ofName? token).isSome then display.appendFunction token
  else if isOperatorToken token then display.appendOperator token
  else display.append token

/-- Put pasted text at the end of the expression, or in the place of a result. -/
def paste (display : Display) (text : String) : Display :=
  let text := Text.trimmed text
  if text == "" then display
  else (if display.justEvaluated then clear else display).append text

/-- Take back the last character, or everything behind a result. -/
def deleteLast (display : Display) : Display :=
  if display.justEvaluated then clear
  else if display.expression == "" then display
  else
    let shorter := display.dropLast
    -- Without an expression there is no result either.
    if shorter.expression == "" then { shorter with result := "0" } else shorter

/-- Show the outcome of a calculation: a value becomes the expression too,
a fault leaves it to be mended. -/
def applyOutcome (display : Display) (outcome : Outcome) (places : Number.Places) :
    Except Number.PlacesFault Display :=
  match outcome with
  | .value value => (Number.display value places).map fun shown =>
      { expression := shown, result := shown, justEvaluated := true }
  | .fault _ => .ok { display with result := errorText, justEvaluated := true }

/-- Work out the expression and show the outcome;
where nothing is to be worked out the result is zero. -/
def equals (display : Display) (places : Number.Places) : Except PressFailure Display :=
  if Text.allBlank display.expression then .ok { display with result := "0" }
  else
    match (calculate (some display.expression)).outcome with
    | .error failure => .error (.calculation failure)
    | .ok outcome =>
      match display.applyOutcome outcome places with
      | .error fault => .error (.places fault)
      | .ok shown => .ok shown

/-- Press a button: clear, delete, equals, or one that puts its token into the expression. -/
def press (display : Display) (button : String) (places : Number.Places := .standard) :
    Except PressFailure Display :=
  if button == "C" then .ok clear
  else if button == "DEL" then .ok display.deleteLast
  else if button == "=" then display.equals places
  else .ok (display.appendToken button)

end Display

end DeskCalc
