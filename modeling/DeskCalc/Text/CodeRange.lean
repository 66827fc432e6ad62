/-! Ranges of code points, from which the character classes beyond ASCII are built. -/

namespace DeskCalc.Text

/-- An inclusive range of code points. -/
structure CodeRange where
  first : Nat
  last : Nat

namespace CodeRange

/-- A character is in a range when its code point lies between the two ends. -/
def contains (range : CodeRange) (c : Char) : Bool :=
  range.first ≤ c.toNat && c.toNat ≤ range.last

/-- A character is in a class when one of the ranges of the class holds it. -/
def anyContains (ranges : List CodeRange) (c : Char) : Bool :=
  ranges.any (·.contains c)

end CodeRange

end DeskCalc.Text
