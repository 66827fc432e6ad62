/-! Fields: a number in a width of its own, with a rule for its sign and for groups of digits. -/

namespace DeskCalc.Number

/-- Where a number stands in a field that is wider than the number. -/
inductive Alignment
  | left
  | right
  | center
  | behindSign
deriving DecidableEq

namespace Alignment

/-- The alignment that a sign stands for. -/
def ofChar? : Char → Option Alignment
  | '<' => some left
  | '>' => some right
  | '^' => some center
  | '=' => some behindSign
  | _ => none

/-- How spare room is shared: before the sign, between sign and digits, and behind the digits. -/
def share (spare : Nat) : Alignment → Nat × Nat × Nat
  | left => (0, 0, spare)
  | right => (spare, 0, 0)
  | center => (spare / 2, 0, spare - spare / 2)
  | behindSign => (0, spare, 0)

/-- All of the spare room is shared out. -/
theorem share_sum (spare : Nat) (alignment : Alignment) :
    (alignment.share spare).1 + (alignment.share spare).2.1 + (alignment.share spare).2.2 =
      spare := by
  -- Only the center divides the room, and its two parts add up again.
  cases alignment <;> simp only [share] <;> omega

end Alignment

/-- How a number is laid out in a field; the plus sign stands before what is not negative. -/
structure Field where
  alignment : Alignment
  plusSign : Option Char := none
  hidesSignOfZero : Bool := false
  keepsPoint : Bool := false
  width : Nat := 0
  separator : Option Char := none
  places : Nat := 6
deriving DecidableEq

/-- Digits from the last to the first, with a separator behind every third one. -/
def separated (separator : Char) : List Char → List Char
  | a :: b :: c :: d :: rest => a :: b :: c :: separator :: separated separator (d :: rest)
  | digits => digits

/-- The character that fills spare room. -/
def filler : Char := '.'

namespace Field

/-- The digits before the point, in groups of three where there is a separator. -/
def grouped (field : Field) (whole : List Char) : List Char :=
  match field.separator with
  | none => whole
  | some separator => (separated separator whole.reverse).reverse

/-- What stands before the digits of a number. -/
def sign (field : Field) (negative : Bool) : List Char :=
  if negative then ['-'] else field.plusSign.toList

/-- The digits before and behind the point, with the point where it is needed or kept. -/
def digits (field : Field) (whole fraction : List Char) : List Char :=
  field.grouped whole ++
    if fraction.isEmpty && !field.keepsPoint then fraction else '.' :: fraction

/-- A number in the field, with more zeros behind its digits; what stands behind a number is
cut off where it is shown, so the zeros need a filler behind them, and one is enough. -/
def lay (field : Field) (negative : Bool) (whole fraction : List Char) (zeros : Nat) :
    List Char :=
  let sign := field.sign negative
  let digits := field.digits whole fraction
  let (before, between, behind) :=
    field.alignment.share (field.width - (sign.length + digits.length + zeros))
  List.replicate before filler ++ sign ++ List.replicate between filler ++ digits ++
    if behind == 0 then [] else List.replicate zeros '0' ++ [filler]

end Field

end DeskCalc.Number
