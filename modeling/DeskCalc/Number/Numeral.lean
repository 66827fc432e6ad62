import DeskCalc.Number.Nearest

/-! The numerals of an expression: ASCII digits with at most one decimal point. -/

namespace DeskCalc.Number

-- Powers of natural numbers are the plain ones, also beside those of a monoid.
attribute [local instance (high)] instPowNat

/-- The characters of which a numeral is made. -/
def isNumeralChar (c : Char) : Bool :=
  c.isDigit || c == '.'

/-- Numeral characters come before the letters. -/
theorem toNat_lt_of_isNumeralChar {c : Char} (member : isNumeralChar c = true) :
    c.toNat < 65 := by
  simp only [isNumeralChar, Char.isDigit, Bool.or_eq_true, Bool.and_eq_true, beq_iff_eq,
    decide_eq_true_eq, UInt32.le_iff_toNat_le] at member
  rcases member with ⟨-, high⟩ | rfl
  · exact Nat.lt_of_le_of_lt high (by decide)
  · decide

/-- A run of numeral characters taken apart at its only point, if it is a numeral. -/
def splitNumeral? (run : List Char) : Option (List Char × List Char) :=
  let whole := run.takeWhile Char.isDigit
  match run.dropWhile Char.isDigit with
  | [] => if whole.isEmpty then none else some (whole, [])
  | _ :: fraction =>
    -- A second point is no digit, and a point alone is no numeral.
    if fraction.all Char.isDigit && !(whole.isEmpty && fraction.isEmpty) then
      some (whole, fraction)
    else none

/-- The double nearest to a numeral. -/
def readNumeral? (run : List Char) : Option Float :=
  (splitNumeral? run).map fun (whole, fraction) =>
    nearest false (ofDigits (whole ++ fraction)) (10 ^ fraction.length)

end DeskCalc.Number
