import DeskCalc.Text.Quoted

/-! What the calculator rejects: each fault has a cause, a position,
and the equation it was found in. -/

namespace DeskCalc

/-- Why an expression has no value. -/
inductive Cause
  | other (message code : String)
  | emptyExpression (message : String)
  | unexpectedCharacter (character : Option String)
  | unmatchedParenthesis
  | invalidNumber (text : String)
  | unknownFunction (name : String)
  | divisionByZero
  | outsideDomain (message : String)
  | trailingInput (character : Option String)
deriving DecidableEq

/-- A fault: positions count the characters of the expression without its blanks. -/
structure Fault where
  cause : Cause
  position : Option Int := none
  equation : Option String := none
deriving DecidableEq

namespace Cause

/-- The stable name of a cause. -/
def kind : Cause → String
  | other .. => "MathError"
  | emptyExpression _ => "EmptyExpression"
  | unexpectedCharacter _ => "UnexpectedCharacter"
  | unmatchedParenthesis => "UnmatchedParenthesis"
  | invalidNumber _ => "InvalidNumberFormat"
  | unknownFunction _ => "UnknownFunction"
  | divisionByZero => "DivisionByZero"
  | outsideDomain _ => "DomainError"
  | trailingInput _ => "TrailingInput"

/-- The full name of a cause, which ends in `Error`. -/
def longName (cause : Cause) : String :=
  match cause with
  | other .. | outsideDomain _ => cause.kind
  | _ => cause.kind ++ "Error"

/-- The four-digit code of a cause; its first digit names the area. -/
def code : Cause → String
  | other _ code => code
  | emptyExpression _ => "3000"
  | unexpectedCharacter _ => "3001"
  | unmatchedParenthesis => "3002"
  | invalidNumber _ => "3003"
  | unknownFunction _ => "3004"
  | divisionByZero => "3005"
  | outsideDomain _ => "2006"
  | trailingInput _ => "3007"

/-- An expression without any character but blanks. -/
def empty : Cause := emptyExpression "Expression cannot be empty"

/-- A fault of no other kind, with the code for what nobody foresaw. -/
def unforeseen (message : String) : Cause := other message "9999"

/-- An expression that opens more than the evaluator follows. -/
def nestedTooDeeply : Cause := unforeseen "Expression is nested too deeply."

/-- The square root of a negative number. -/
def negativeRoot : Cause := outsideDomain "Cannot take square root of a negative number"

/-- The common logarithm of zero or less. -/
def nonPositiveLog : Cause := outsideDomain "Logarithm of non-positive number"

/-- The natural logarithm of zero or less. -/
def nonPositiveNaturalLog : Cause := outsideDomain "Natural logarithm of non-positive number"

end Cause

namespace Fault

/-- A position in words; an unknown one reads `None`. -/
def positionText (position : Option Int) : String :=
  position.elim "None" toString

/-- The code of a fault. -/
def code (fault : Fault) : String := fault.cause.code

/-- The stable name of a fault. -/
def kind (fault : Fault) : String := fault.cause.kind

/-- What is shown for a fault. -/
def message (fault : Fault) : String :=
  let place := s!"at position {positionText fault.position}"
  match fault.cause with
  | .other message _ | .emptyExpression message | .outsideDomain message => message
  | .unexpectedCharacter none => s!"Unexpected end of expression {place}"
  | .unexpectedCharacter (some character) => s!"Unexpected character: '{character}' {place}"
  | .unmatchedParenthesis => "Missing ')' " ++ place
  | .invalidNumber text => s!"Invalid number format: {text}"
  | .unknownFunction name => s!"Unknown function: {name} {place}"
  | .divisionByZero => "Division by zero"
  | .trailingInput character =>
    let shown := character.getD "None"
    s!"Unexpected character: '{shown}' {place}"

/-- A fault on one line, for people who look for its origin. -/
def inspect (fault : Fault) : String :=
  s!"{fault.cause.longName}(code={Text.quoted fault.code}, " ++
    s!"message={Text.quoted fault.message}, position={positionText fault.position})"

/-- The area that the first digit of a code names. -/
def area? (code : String) : Option String :=
  match code.toList.head? with
  | some '2' => some "Scientific Calculation Error"
  | some '3' => some "Calculator Error"
  | some '4' => some "UI Error"
  | some '5' => some "Configuration Error"
  | some '9' => some "Unexpected Error"
  | _ => none

/-- What is said when a calculation is asked for while one is running. -/
def alreadyRunning : String := "Calculation already Running!"

/-- What is said when settings could not be saved; the name of their file follows. -/
def notSaved : String := "Not all Settings could be saved: "

/-- The short explanation of a code. -/
def explanation? : String → Option String
  | "2006" => some "Argument outside of the function's domain."
  | "3000" => some "Empty expression."
  | "3001" => some "Unexpected character."
  | "3002" => some "Missing ')'."
  | "3003" => some "Invalid number."
  | "3004" => some "Unknown function."
  | "3005" => some "Division by Zero"
  | "3007" => some "Unexpected input after the expression."
  | "4002" => some alreadyRunning
  | "4501" => some notSaved
  | "9999" => some "Unexpected Error: "
  | _ => none

end Fault

/-- What stops an evaluation: a fault of the expression,
or one of two limits that know no position. -/
inductive Failure
  | fault (fault : Fault)
  | angleWithoutValue
  | nestedTooDeeply
deriving DecidableEq

/-- What is shown for a failure. -/
def Failure.message : Failure → String
  | fault found => found.message
  | angleWithoutValue => "math domain error"
  | nestedTooDeeply => Fault.message { cause := .nestedTooDeeply }

end DeskCalc
