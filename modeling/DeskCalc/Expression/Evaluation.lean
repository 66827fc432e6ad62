import DeskCalc.Expression.NamedFunction
import DeskCalc.Expression.Power
import DeskCalc.Expression.Scanner
import DeskCalc.Number.Numeral
import DeskCalc.Text.Letter

/-! Evaluation of an expression while it is read: five rules,
each of which opens the next tighter one. -/

namespace DeskCalc.Expression

open DeskCalc.Number

/-- The rules of an expression, from the loosest to the tightest. -/
inductive Rule
  | expression
  | term
  | factor
  | power
  | base
deriving DecidableEq

/-- What reading a rule comes to, and where the scanner stands afterwards. -/
structure Reading where
  outcome : Except Failure Float
  scanner : Scanner

namespace Reading

/-- A reading that comes to a value. -/
def value (value : Float) (scanner : Scanner) : Reading :=
  ⟨.ok value, scanner⟩

/-- A reading that stops with a failure. -/
def failure (failure : Failure) (scanner : Scanner) : Reading :=
  ⟨.error failure, scanner⟩

/-- A reading that stops with a fault at a position. -/
def fault (cause : Cause) (position : Nat) (scanner : Scanner) : Reading :=
  failure (.fault { cause, position := some position }) scanner

/-- Go on with the value of a reading; a failure is kept. -/
def andThen (reading : Reading) (next : Float → Scanner → Reading) : Reading :=
  match reading.outcome with
  | .ok value => next value reading.scanner
  | .error failure => ⟨.error failure, reading.scanner⟩

/-- A value is handed on with the scanner behind it. -/
@[simp] theorem value_andThen (found : Float) (scanner : Scanner)
    (next : Float → Scanner → Reading) :
    (value found scanner).andThen next = next found scanner := rfl

/-- A failure ends the reading where it was found. -/
@[simp] theorem failure_andThen (found : Failure) (scanner : Scanner)
    (next : Float → Scanner → Reading) :
    (failure found scanner).andThen next = failure found scanner := rfl

end Reading

/-- An operation on two operands; the position is that of the right one. -/
abbrev Operation := Float → Float → Nat → Except Failure Float

/-- Division, which has no value for a zero divisor of either sign. -/
def divide : Operation := fun dividend divisor position =>
  if divisor == 0 then .error (.fault { cause := .divisionByZero, position := some position })
  else .ok (dividend / divisor)

/-- The operations between the terms of an expression. -/
def additive? : Char → Option Operation
  | '+' => some fun left right _ => .ok (left + right)
  | '-' => some fun left right _ => .ok (left - right)
  | _ => none

/-- The operations between the factors of a term. -/
def multiplicative? : Char → Option Operation
  | '*' => some fun left right _ => .ok (left * right)
  | '/' => some divide
  | _ => none

/-- Take operators and operands as long as they follow, combining from the left;
`limit` bounds their number. -/
def chain (operand : Scanner → Reading) (operation? : Char → Option Operation) :
    Nat → Float → Scanner → Reading
  | 0, value, scanner => .value value scanner
  | limit + 1, value, scanner =>
    match scanner.char?.bind operation? with
    | none => .value value scanner
    | some operation =>
      (operand scanner.advance).andThen fun right after =>
        -- The right operand is read before the operation can fail.
        match operation value right scanner.advance.position with
        | .ok combined => chain operand operation? limit combined after
        | .error failure => .failure failure after

/-- An operand and the chain behind it, which cannot be longer than the characters that are left. -/
def operands (operand : Scanner → Reading) (operation? : Char → Option Operation)
    (scanner : Scanner) : Reading :=
  (operand scanner).andThen fun value after =>
    chain operand operation? after.rest.length value after

/-- A run of numeral characters, which has to be a numeral. -/
def readNumber (scanner : Scanner) : Reading :=
  let run := scanner.run isNumeralChar
  let after := scanner.skipRun isNumeralChar
  match readNumeral? run with
  | some value => .value value after
  | none => .fault (.invalidNumber (String.ofList run)) scanner.position after

/-- A run of letters, which has to name a function, and the argument behind it. -/
def readFunction (argument : Scanner → Reading) (scanner : Scanner) : Reading :=
  let name := String.ofList (scanner.run Text.isLetter)
  let after := scanner.skipRun Text.isLetter
  match NamedFunction.ofName? name with
  | none => .fault (.unknownFunction name) scanner.position after
  | some function =>
    (argument after).andThen fun value after =>
      match function.apply value (some scanner.position) with
      | .ok result => .value result after
      | .error failure => .failure failure after

/-- What is said where no base starts: an empty expression is told from one that ends too early. -/
def noBase (scanner : Scanner) : Reading :=
  if scanner.text.isEmpty then .fault .empty scanner.position scanner
  else
    .fault (.unexpectedCharacter (scanner.char?.map String.singleton)) scanner.position scanner

/-- Raise a base to an exponent, and remark on a power without a real value. -/
def raise (base exponent : Float) (position : Nat) (scanner : Scanner) : Reading :=
  .value (power base exponent)
    (if hasNoRealPower base exponent then scanner.remark ⟨base, exponent, position⟩ else scanner)

/-- Read a rule at the scanner while no more than `depth` rules are open inside each other. -/
def read : (depth : Nat) → Rule → Scanner → Reading
  | 0, _, scanner => .failure .nestedTooDeeply scanner
  | depth + 1, .expression, scanner => operands (read depth .term) additive? scanner
  | depth + 1, .term, scanner => operands (read depth .factor) multiplicative? scanner
  | depth + 1, .factor, scanner =>
    match scanner.char? with
    -- Another factor behind a sign lets signs stack, and powers bind tighter.
    | some '+' => read depth .factor scanner.advance
    | some '-' => (read depth .factor scanner.advance).andThen fun value after =>
        .value (-value) after
    | _ => read depth .power scanner
  | depth + 1, .power, scanner =>
    (read depth .base scanner).andThen fun base after =>
      if after.char? == some '^' then
        -- A factor as the exponent makes powers right-associative.
        (read depth .factor after.advance).andThen fun exponent last =>
          raise base exponent after.position last
      else .value base after
  | depth + 1, .base, scanner =>
    match scanner.char? with
    | none => noBase scanner
    | some c =>
      if c == '(' then
        (read depth .expression scanner.advance).andThen fun value after =>
          if after.char? == some ')' then .value value after.advance
          else .fault .unmatchedParenthesis after.position after
      else if isNumeralChar c then readNumber scanner
      -- The argument is a whole factor, so it takes in a power behind it.
      else if Text.isLetter c then readFunction (read depth .factor) scanner
      else noBase scanner

/-- How many rules may be open inside each other; a parenthesis opens five of them. -/
def maxDepth : Nat := 980

/-- Read a rule at the scanner. -/
def Rule.read (rule : Rule) (scanner : Scanner) : Reading :=
  Expression.read maxDepth rule scanner

/-- Read an expression that has to end where the characters end. -/
def readAll (scanner : Scanner) : Reading :=
  (Rule.expression.read scanner).andThen fun value after =>
    match after.char? with
    | none => .value value after
    | some c => .fault (.trailingInput (some (String.singleton c))) after.position after

/-- Evaluate an expression. -/
def evaluate (expression : String) : Except Failure Float :=
  (readAll (Scanner.start expression)).outcome

end DeskCalc.Expression
