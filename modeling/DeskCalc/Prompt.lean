import DeskCalc.Display

/-! A prompt for one expression. -/

namespace DeskCalc.Prompt

/-- What keeps a prompt from an answer. -/
inductive Failure
  | endOfInput
  | press (failure : PressFailure)

/-- What is shown for the end of the input. -/
def endOfInputText : String := "EOF when reading a line"

/-- What a prompt prints, and what kept it from an answer. -/
structure Exchange where
  output : String
  failure : Option Failure := none

/-- What is printed before the expression is read. -/
def question : String := "Enter the problem: \n"

/-- The first line of the input, if there is any input. -/
def firstLine? (input : String) : Option String :=
  if input == "" then none else some (String.ofList (input.toList.takeWhile (· != '\n')))

/-- What is printed for the outcome of the expression. -/
def answer : Outcome → Except PressFailure String
  | .fault fault => .ok s!"Error: {fault.message}\n"
  | .value value =>
    match Number.display value with
    | .ok shown => .ok (shown ++ "\n")
    | .error fault => .error (.places fault)

/-- Ask for an expression and print its result. -/
def run (input : String) : Exchange :=
  match firstLine? input with
  | none => { output := question, failure := some .endOfInput }
  | some line =>
    match (calculate (some line)).outcome with
    | .error failure => { output := question, failure := some (.press (.calculation failure)) }
    | .ok outcome =>
      match answer outcome with
      | .error failure => { output := question, failure := some (.press failure) }
      | .ok text => { output := question ++ text }

end DeskCalc.Prompt
