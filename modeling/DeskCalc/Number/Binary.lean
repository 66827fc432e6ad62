/-! Doubles taken apart: the sign, the integer mantissa and the exponent that their bits encode. -/

namespace DeskCalc.Number

-- Powers of natural numbers are the plain ones, also beside those of a monoid.
attribute [local instance (high)] instPowNat

/-- A double as a signed integer times a power of two, or one of the values that are no number. -/
inductive Binary
  | nan
  | infinity (negative : Bool)
  | finite (negative : Bool) (mantissa : Nat) (exponent : Int)
deriving DecidableEq

/-- How many bits of a double hold the fraction behind the leading bit. -/
def fractionBits : Nat := 52

/-- The exponent of the last place of the smallest doubles. -/
def minExponent : Int := -1074

/-- The bits of the positive infinity, which all finite magnitudes stay below. -/
def infinityBits : Nat := 0x7ff * 2 ^ fractionBits

/-- The sign bit of a double. -/
def signBit : Nat := 2 ^ (63 : Nat)

namespace Binary

/-- Take the bits of a double apart. -/
def ofBits (bits : Nat) : Binary :=
  let negative := bits / signBit % 2 == 1
  let biased : Nat := bits / 2 ^ fractionBits % 2 ^ (11 : Nat)
  let fraction := bits % 2 ^ fractionBits
  -- The largest exponent field is kept for infinities and for what is no number.
  if biased == 0x7ff then if fraction == 0 then infinity negative else nan
  -- The smallest one has no leading bit, but the same last place as the next one.
  else if biased == 0 then finite negative fraction minExponent
  else finite negative (2 ^ fractionBits + fraction) ((biased : Int) + minExponent - 1)

/-- Take a double apart. -/
def ofFloat (x : Float) : Binary :=
  ofBits x.toBits.toNat

/-- A ratio of integers that equals `mantissa * 2 ^ exponent`. -/
def ratio (mantissa : Nat) (exponent : Int) : Nat × Nat :=
  (mantissa * 2 ^ exponent.toNat, 2 ^ (-exponent).toNat)

/-- The integer that a double is, if it is one. -/
def toInt? : Binary → Option Int
  | finite negative mantissa exponent =>
    let (numerator, denominator) := ratio mantissa exponent
    -- A double is an integer when nothing is left behind the point.
    if numerator % denominator == 0 then
      let whole : Int := numerator / denominator
      some (if negative then -whole else whole)
    else none
  | _ => none

/-- The sign bit; that of a value that is no number does not count. -/
def isNegative : Binary → Bool
  | nan => false
  | infinity negative => negative
  | finite negative _ _ => negative

end Binary

end DeskCalc.Number
