import DeskCalc.Number.Binary

/-! The shortest decimal that reads back as a double,
and its layout in journal entries and in files. -/

namespace DeskCalc.Number

-- Powers of natural numbers are the plain ones, also beside those of a monoid.
attribute [local instance (high)] instPowNat

/-- A decimal: its digits, most significant first,
and where the point stands before or after them. -/
structure Decimal where
  digits : List Char
  point : Int

/-- The reals that round to a double, as bounds around it in quarters of its last place. -/
structure Interval where
  low : Nat
  value : Nat
  high : Nat
  inclusive : Bool

/-- The interval of a positive double: half a place on each side,
or a quarter below a power of two. -/
def Interval.around (mantissa : Nat) (exponent : Int) : Interval :=
  -- Below a power of two the doubles lie twice as dense.
  let narrow := mantissa == 2 ^ fractionBits && exponent > minExponent
  { low := 4 * mantissa - (if narrow then 1 else 2)
    value := 4 * mantissa
    high := 4 * mantissa + 2
    inclusive := mantissa % 2 == 0 }

/-- A grid of decimals: its step and a quarter of a last place, both in one common unit. -/
structure Grid where
  step : Nat
  quarter : Nat

/-- The multiples of `10 ^ place` beside a double whose last place is `2 ^ exponent`. -/
def Grid.at (place exponent : Int) : Grid :=
  { step := 10 ^ place.toNat * 2 ^ (2 - exponent).toNat
    quarter := 10 ^ (-place).toNat * 2 ^ (exponent - 2).toNat }

/-- A multiple of the grid reads back when it lies in the interval. -/
def Grid.readsBack (grid : Grid) (interval : Interval) (multiple : Nat) : Bool :=
  let position := multiple * grid.step
  let low := interval.low * grid.quarter
  let high := interval.high * grid.quarter
  if interval.inclusive then low ≤ position && position ≤ high
  else low < position && position < high

/-- The multiple of a grid that reads back and is nearest to the value;
of two equally near, the even one. -/
def Grid.nearest? (grid : Grid) (interval : Interval) : Option Nat :=
  let value := interval.value * grid.quarter
  -- Only the two multiples around the value can be nearest to it.
  let below := value / grid.step
  let above := below + 1
  match grid.readsBack interval below, grid.readsBack interval above with
  | true, true =>
    let toBelow := value - below * grid.step
    let toAbove := above * grid.step - value
    some (if toBelow < toAbove || (toBelow == toAbove && below % 2 == 0) then below else above)
  | true, false => some below
  | false, true => some above
  | false, false => none

/-- How many places behind the point a ratio below one has before its first digit, up to a limit. -/
def zerosBehindPoint : Nat → Nat → Nat → Nat
  | 0, _, _ => 0
  | limit + 1, numerator, denominator =>
    if 10 * numerator < denominator then zerosBehindPoint limit (10 * numerator) denominator + 1
    else 0

/-- The number of digits before the point of a positive ratio, negative for zeros behind it. -/
def pointPosition (numerator denominator : Nat) : Int :=
  if numerator < denominator then -zerosBehindPoint 400 numerator denominator
  else (toString (numerator / denominator)).length

/-- Try grids that are one digit finer each, starting with `count` digits,
while `limit` allows it. -/
def shortestFrom (interval : Interval) (exponent top : Int) : Nat → Nat → Nat × Int
  -- Seventeen digits tell all doubles apart, so the limit is not reached.
  | 0, count => (interval.value, top - count)
  | limit + 1, count =>
    let place := top - count
    match (Grid.at place exponent).nearest? interval with
    | some multiple => (multiple, place)
    | none => shortestFrom interval exponent top limit (count + 1)

/-- The shortest decimal that reads back as a positive double, and the nearest of those. -/
def shortest (mantissa : Nat) (exponent : Int) : Decimal :=
  let (numerator, denominator) := Binary.ratio mantissa exponent
  let top := pointPosition numerator denominator
  let (multiple, place) := shortestFrom (Interval.around mantissa exponent) exponent top 17 1
  let digits := (toString multiple).toList
  -- Zeros at the end would be digits that are not needed.
  { digits := (digits.reverse.dropWhile (· == '0')).reverse
    point := place + digits.length }

/-- How decimals are laid out: which positions of the point are written out,
and the words for the rest. -/
structure Layout where
  lowestPoint : Int
  highestPoint : Int
  exponentWidth : Nat
  nan : String
  infinity : String

/-- Journal entries write the point out from `0.0001` to below `10 ^ 16`,
and exponents with two digits. -/
def Layout.journal : Layout := ⟨-3, 16, 2, "nan", "inf"⟩

/-- Settings files follow the journal but for the words for what is no number. -/
def Layout.file : Layout := ⟨-3, 16, 2, "NaN", "Infinity"⟩

/-- The digits of a decimal with the point among them, behind or before them. -/
def Decimal.positional (decimal : Decimal) : List Char :=
  let digits := decimal.digits
  if decimal.point ≤ 0 then
    '0' :: '.' :: (List.replicate (-decimal.point).toNat '0' ++ digits)
  else
    let whole := decimal.point.toNat
    -- A whole number has a point too, with one zero behind it.
    if digits.length ≤ whole then
      digits ++ List.replicate (whole - digits.length) '0' ++ ['.', '0']
    else digits.take whole ++ '.' :: digits.drop whole

/-- The digits of a decimal with the point behind the first one and a power of ten behind them. -/
def Decimal.exponential (decimal : Decimal) (width : Nat) : List Char :=
  let power := decimal.point - 1
  let size := (toString power.natAbs).toList
  let mantissa := match decimal.digits with
    | [] => ['0']
    | [digit] => [digit]
    | digit :: rest => digit :: '.' :: rest
  mantissa ++ 'e' :: (if power < 0 then '-' else '+') ::
    (List.replicate (width - size.length) '0' ++ size)

/-- A double in a layout, with the fewest digits that read back. -/
def Binary.render (layout : Layout) : Binary → String
  | nan => layout.nan
  | infinity negative => (if negative then "-" else "") ++ layout.infinity
  | finite negative mantissa exponent =>
    let decimal := if mantissa == 0 then ⟨['0'], 1⟩ else shortest mantissa exponent
    let digits :=
      if layout.lowestPoint ≤ decimal.point && decimal.point ≤ layout.highestPoint then
        decimal.positional
      else decimal.exponential layout.exponentWidth
    String.ofList (if negative then '-' :: digits else digits)

/-- A double in a layout. -/
def render (layout : Layout) (value : Float) : String :=
  (Binary.ofFloat value).render layout

end DeskCalc.Number
