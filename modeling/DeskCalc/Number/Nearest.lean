import DeskCalc.Number.Binary

/-! The double nearest to a ratio of integers, with ties going to the even mantissa. -/

namespace DeskCalc.Number

-- Powers of natural numbers are the plain ones, also beside those of a monoid.
attribute [local instance (high)] instPowNat

/-- The integer nearest to a ratio; a tie goes to the even neighbour. -/
def roundHalfEven (numerator denominator : Nat) : Nat :=
  let quotient := numerator / denominator
  let twice := 2 * (numerator % denominator)
  -- A tie stays at an even quotient and leaves an odd one.
  if twice < denominator then quotient
  else if twice == denominator then quotient + quotient % 2
  else quotient + 1

/-- The rounded integer is at most half a unit away from the ratio. -/
theorem roundHalfEven_bounds (numerator : Nat) {denominator : Nat} (positive : 0 < denominator) :
    2 * numerator ≤ (2 * roundHalfEven numerator denominator + 1) * denominator ∧
      2 * roundHalfEven numerator denominator * denominator ≤ 2 * numerator + denominator := by
  -- The result is the quotient or one more, and the remainder decides between them.
  have division := Nat.div_add_mod numerator denominator
  have small := Nat.mod_lt numerator positive
  have parity := Nat.mod_two_eq_zero_or_one (numerator / denominator)
  rw [Nat.mul_comm] at division
  unfold roundHalfEven
  rcases parity with even | odd <;> simp only [beq_iff_eq] <;> split <;> try split
  all_goals simp only [*, Nat.add_mul, Nat.mul_add, Nat.mul_assoc, Nat.one_mul]; omega

/-- A ratio halfway between two integers is rounded to the even one. -/
theorem roundHalfEven_mod_two {numerator denominator : Nat}
    (tie : 2 * (numerator % denominator) = denominator) :
    roundHalfEven numerator denominator % 2 = 0 := by
  -- An odd quotient is raised by one and an even quotient is kept.
  simp only [roundHalfEven, tie, Nat.lt_irrefl, if_false, beq_self_eq_true, if_true]
  omega

/-- The exponent of the power of two at or below a positive ratio. -/
def binade (numerator denominator : Nat) : Int :=
  let guess : Int := (numerator.log2 : Int) - denominator.log2
  -- The logarithms leave two candidates, and a comparison decides between them.
  if numerator * 2 ^ (-guess).toNat < denominator * 2 ^ guess.toNat then guess - 1 else guess

/-- The exponent of the last place of a double near a positive ratio. -/
def lastPlace (numerator denominator : Nat) : Int :=
  max (binade numerator denominator - fractionBits) minExponent

/-- The bits of the double nearest to a ratio; they count the doubles below it. -/
def nearestBits (numerator denominator : Nat) : Nat :=
  if numerator == 0 then 0
  else
    let place := lastPlace numerator denominator
    let mantissa :=
      roundHalfEven (numerator * 2 ^ (-place).toNat) (denominator * 2 ^ place.toNat)
    -- The leading bit of the mantissa adds one to the exponent field, and so does a carry.
    min ((place - minExponent).toNat * 2 ^ fractionBits + mantissa) infinityBits

/-- The double nearest to a ratio, with a sign of its own. -/
def nearest (negative : Bool) (numerator denominator : Nat) : Float :=
  Float.ofBits (UInt64.ofNat
    ((if negative then signBit else 0) + nearestBits numerator denominator))

/-- The number that decimal digits denote, most significant first. -/
def ofDigits (digits : List Char) : Nat :=
  Nat.ofDigitChars 10 digits 0

/-- Powers of ten from which on every positive integer times them is infinite as a double. -/
def overflowExponent : Int := 309

/-- Powers of ten below which every decimal is nearest to zero. -/
def underflowExponent : Int := -324

/-- The double nearest to `coefficient * 10 ^ exponent`,
where the coefficient has `width` digits. -/
def nearestDecimal (negative : Bool) (coefficient width : Nat) (exponent : Int) : Float :=
  -- Outside the range of doubles the powers of ten are not worked out.
  if coefficient == 0 || exponent + width < underflowExponent then nearest negative 0 1
  else if exponent > overflowExponent then nearest negative (2 ^ (1024 : Nat)) 1
  else nearest negative (coefficient * 10 ^ exponent.toNat) (10 ^ (-exponent).toNat)

end DeskCalc.Number
