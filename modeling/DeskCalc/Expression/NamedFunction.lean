import DeskCalc.Fault

/-! The functions of an expression: angles in degrees, square roots and logarithms. -/

namespace DeskCalc.Expression

/-- A function that an expression may name. -/
inductive NamedFunction
  | sin
  | cos
  | tan
  | sqrt
  | log
  | ln
deriving DecidableEq

namespace NamedFunction

/-- The name of a function in an expression. -/
def name : NamedFunction → String
  | sin => "sin"
  | cos => "cos"
  | tan => "tan"
  | sqrt => "sqrt"
  | log => "log"
  | ln => "ln"

/-- All functions. -/
def all : List NamedFunction := [sin, cos, tan, sqrt, log, ln]

/-- The function of a name. -/
def ofName? (name : String) : Option NamedFunction :=
  all.find? (·.name == name)

/-- A name is found exactly when it is that of the function. -/
theorem ofName?_eq_some_iff {name : String} {function : NamedFunction} :
    ofName? name = some function ↔ function.name = name := by
  -- The search compares names, and the six names are distinct.
  constructor
  · intro found
    simpa using List.find?_some found
  · intro same
    subst same
    cases function <;> decide

/-- One degree in radians. -/
def degree : Float := Float.ofBits 0x3f91df46a2529d39

/-- A trigonometric function of an angle in degrees; an infinite angle has no value. -/
def ofAngle (apply : Float → Float) (degrees : Float) : Except Failure Float :=
  let radians := degrees * degree
  if radians.isInf then .error .angleWithoutValue else .ok (apply radians)

/-- The square root, for which a negative argument is outside the domain. -/
def squareRoot (argument : Float) (position : Option Int) : Except Failure Float :=
  if argument < 0 then .error (.fault { cause := .negativeRoot, position })
  else .ok argument.sqrt

/-- A logarithm, for which zero and less are outside the domain. -/
def logarithm (apply : Float → Float) (outside : Cause) (argument : Float)
    (position : Option Int) : Except Failure Float :=
  if argument ≤ 0 then .error (.fault { cause := outside, position }) else .ok (apply argument)

/-- The common logarithm. -/
def commonLog : Float → Option Int → Except Failure Float :=
  logarithm Float.log10 .nonPositiveLog

/-- The natural logarithm. -/
def naturalLog : Float → Option Int → Except Failure Float :=
  logarithm Float.log .nonPositiveNaturalLog

/-- The value of a function whose name starts at `position`. -/
def apply (function : NamedFunction) (argument : Float) (position : Option Int) :
    Except Failure Float :=
  match function with
  | sin => ofAngle Float.sin argument
  | cos => ofAngle Float.cos argument
  | tan => ofAngle Float.tan argument
  | sqrt => squareRoot argument position
  | log => commonLog argument position
  | ln => naturalLog argument position

/-- The trigonometric function of a name; every other name stands for the tangent. -/
def ofAngleName : String → NamedFunction
  | "sin" => sin
  | "cos" => cos
  | _ => tan

/-- The logarithm of a name; every other name stands for the common one. -/
def ofLogName : String → NamedFunction
  | "ln" => ln
  | _ => log

/-- The value of the function of a name, which has to be one of the known ones. -/
def applyNamed (name : String) (argument : Float) (position : Option Int) :
    Except Failure Float :=
  match ofName? name with
  | some function => function.apply argument position
  | none => .error (.fault { cause := .unknownFunction name, position })

end NamedFunction

end DeskCalc.Expression
