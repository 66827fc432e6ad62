import DeskCalc.Number.Binary

/-! Powers of doubles, which always have a value: what overflows is infinite,
what is not real is no number. -/

namespace DeskCalc.Expression

open DeskCalc.Number

/-- The positive infinity. -/
def infinity : Float := Float.ofBits 0x7ff0000000000000

/-- A value that is no number. -/
def notANumber : Float := Float.ofBits 0x7ff8000000000000

/-- Why a double cannot be asked whether it is odd. -/
inductive ParityFault
  | infinite
  | notANumber
deriving DecidableEq

/-- What is shown for a double that has no parity. -/
def ParityFault.message : ParityFault → String
  | infinite => "cannot convert float infinity to integer"
  | notANumber => "cannot convert float NaN to integer"

/-- Whether a finite double is an odd integer. -/
def isOddInteger (value : Float) : Except ParityFault Bool :=
  match Binary.ofFloat value with
  | .nan => .error .notANumber
  | .infinity _ => .error .infinite
  | finite => .ok (finite.toInt?.any (· % 2 == 1))

/-- A negative finite base has no real power for a finite exponent that is no integer. -/
def hasNoRealPower (base exponent : Float) : Bool :=
  base.isFinite && exponent.isFinite && base < 0 &&
    (Binary.ofFloat exponent).toInt?.isNone

/-- Why the library gives no power of two doubles. -/
inductive PowerFault
  | overflow
  | domain
deriving DecidableEq

/-- The power of two doubles as the library gives it: finite ones must have a finite power. -/
def libraryPower (base exponent : Float) : Except PowerFault Float :=
  if hasNoRealPower base exponent then .error .domain
  else if base == 0 && exponent < 0 then
    -- A zero can be raised to the negative infinity, but not to the numbers above it.
    if exponent.isFinite then .error .domain else .ok infinity
  else
    let value := base.pow exponent
    if base.isFinite && exponent.isFinite && !value.isFinite then .error .overflow else .ok value

/-- An infinity with the sign of the base where the exponent is an odd integer, else positive. -/
def signedInfinity (base exponent : Float) : Except ParityFault Float := do
  let odd ← isOddInteger exponent
  return if odd && (Binary.ofFloat base).isNegative then -infinity else infinity

/-- The library's power, and a value in place of each of its faults; the one that
depends on the parity of the exponent has to ask for it. -/
def recoveredPower (base exponent : Float) : Except ParityFault Float :=
  match libraryPower base exponent with
  | .ok value => .ok value
  | .error .overflow => signedInfinity base exponent
  | .error .domain => if base == 0 then signedInfinity base exponent else .ok notANumber

/-- The power of two doubles. The parity of an exponent is asked for only where it has one,
so the last case does not occur. -/
def power (base exponent : Float) : Float :=
  match recoveredPower base exponent with
  | .ok value => value
  | .error _ => notANumber

end DeskCalc.Expression
