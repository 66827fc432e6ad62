import DeskCalc.Number.Nearest
import DeskCalc.Number.Places

/-! Results as they are shown: integers whole,
everything else rounded to a number of decimal places. -/

namespace DeskCalc.Number

-- Powers of natural numbers are the plain ones, also beside those of a monoid.
attribute [local instance (high)] instPowNat

/-- More places than this show nothing but zeros at the end of a double. -/
def usefulPlaces : Nat := 1074

/-- A decimal text without what a predicate drops at its end. -/
def dropTrailing (drop : Char → Bool) (text : List Char) : List Char :=
  (text.reverse.dropWhile drop).reverse

/-- The digits before the point of an integer number of units of `10 ^ -places`. -/
def wholeDigits (units places : Nat) : List Char :=
  (toString (units / 10 ^ places)).toList

/-- The digits behind the point, one for each place. -/
def fractionDigits (units places : Nat) : List Char :=
  let digits := (toString (units % 10 ^ places)).toList
  -- Zeros in front fill the fraction up, since each place has a digit.
  if places == 0 then [] else List.replicate (places - digits.length) '0' ++ digits

/-- An integer number of units of `10 ^ -places` written with all its places. -/
def fixedPoint (negative : Bool) (units places : Nat) : List Char :=
  let sign := if negative then ['-'] else []
  let point := if places == 0 then [] else ['.']
  sign ++ wholeDigits units places ++ point ++ fractionDigits units places

/-- A decimal text as it is shown: no zeros and no point at the end,
and nothing left shows as zero. -/
def tidy (text : List Char) : List Char :=
  let short := dropTrailing (· == '.') (dropTrailing (· == '0') text)
  -- A number that is rounded to zero loses its sign.
  if short == ['-', '0'] || short == [] then ['0'] else short

/-- A ratio has too many digits when they cannot be counted together with its places. -/
def hasTooManyDigits (numerator denominator places : Nat) : Bool :=
  let whole := numerator / denominator
  whole != 0 && places + (toString whole).length > Places.maxCount

/-- A ratio in units of its useful places; one with too many digits is taken for zero. -/
def unitsOf (numerator denominator places : Nat) : Nat :=
  if hasTooManyDigits numerator denominator places then 0
  else roundHalfEven (numerator * 10 ^ min places usefulPlaces) denominator

/-- A signed ratio with a number of places. -/
def withPlaces (negative : Bool) (numerator denominator places : Nat) : List Char :=
  fixedPoint negative (unitsOf numerator denominator places) (min places usefulPlaces)

/-- A signed ratio in a field; places without use are zeros behind the useful ones. -/
def inField (field : Field) (negative : Bool) (numerator denominator : Nat) : List Char :=
  let useful := min field.places usefulPlaces
  let units := unitsOf numerator denominator field.places
  let negative := negative && !(field.hidesSignOfZero && units == 0)
  field.lay negative (wholeDigits units useful) (fractionDigits units useful)
    (field.places - useful)

/-- A result as it is shown; the places only matter for a value that is no integer. -/
def Binary.display (places : Places) : Binary → Except PlacesFault String
  | nan => .ok "NaN"
  | infinity negative => .ok (if negative then "-Infinity" else "Infinity")
  | finite negative mantissa exponent =>
    match (finite negative mantissa exponent).toInt? with
    -- An integer is exact, so there is nothing to be rounded.
    | some whole => .ok (toString whole)
    | none =>
      let (numerator, denominator) := ratio mantissa exponent
      match places with
      | .count places =>
        .ok (String.ofList (tidy (withPlaces negative numerator denominator places)))
      | .field layout =>
        .ok (String.ofList (tidy (inField layout negative numerator denominator)))
      | .unusable fault => .error fault

/-- A result as it is shown. -/
def display (value : Float) (places : Places := .standard) : Except PlacesFault String :=
  (Binary.ofFloat value).display places

end DeskCalc.Number
