import DeskCalc.Expression.Evaluation
import DeskCalc.Journal
import DeskCalc.Number.FixedPoint
import DeskCalc.Number.Shortest

/-! A calculation: the outcome of an expression, and what the journal says of it. -/

namespace DeskCalc

open DeskCalc.Expression

/-- The outcome of a calculation. -/
inductive Outcome
  | value (value : Float)
  | fault (fault : Fault)

/-- What a calculation leaves: an outcome, unless it fails without a fault, and its entries. -/
structure Calculation where
  outcome : Except Failure Outcome
  entries : List Journal.Entry

namespace Calculation

/-- A double as the journal shows it. -/
def shown (value : Float) : String :=
  Number.render .journal value

/-- The entry for a power without a real value. -/
def remarkEntry (remark : Remark) : Journal.Entry :=
  ⟨.debug, s!"Power {shown remark.base}^{shown remark.exponent} has no real value " ++
    s!"(position {remark.position})"⟩

/-- The entry for a fault of the expression. -/
def faultEntry (fault : Fault) : Journal.Entry :=
  ⟨.debug, s!"Calculation failed [{fault.code} {fault.kind}] at " ++
    s!"{Fault.positionText fault.position}: {fault.message}"⟩

/-- The entry for an expression that is nested too deeply. -/
def nestingEntry (fault : Fault) : Journal.Entry :=
  ⟨.warning, s!"Calculation failed [{fault.code}]: {fault.message}"⟩

/-- The entry for a value. -/
def valueEntry (expression : String) (value : Float) : Journal.Entry :=
  ⟨.debug, s!"{Text.quoted expression} = {shown value}"⟩

/-- Calculate an expression that is not blank; a fault carries the expression as it was given. -/
def ofText (expression : String) : Calculation :=
  let reading := readAll (Scanner.start expression)
  let remarks := reading.scanner.remarks.map remarkEntry
  match reading.outcome with
  | .ok value => ⟨.ok (.value value), remarks ++ [valueEntry expression value]⟩
  | .error (.fault fault) =>
    let fault := { fault with equation := some expression }
    ⟨.ok (.fault fault), remarks ++ [faultEntry fault]⟩
  | .error .nestedTooDeeply =>
    let fault : Fault := { cause := .nestedTooDeeply, equation := some expression }
    ⟨.ok (.fault fault), remarks ++ [nestingEntry fault]⟩
  | .error .angleWithoutValue => ⟨.error .angleWithoutValue, remarks⟩

end Calculation

/-- Calculate an expression; nothing and nothing but blanks are an empty expression. -/
def calculate (expression : Option String) : Calculation :=
  match expression with
  | none => ⟨.ok (.fault { cause := .empty, equation := none }), []⟩
  | some text =>
    if Text.allBlank text then ⟨.ok (.fault { cause := .empty, equation := some text }), []⟩
    else Calculation.ofText text

end DeskCalc
