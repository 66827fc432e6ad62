import DeskCalc.Text.Blank

/-! The scanner of an expression: a position in its characters that only moves forward. -/

namespace DeskCalc.Expression

/-- A power without a real value, remembered for the journal. -/
structure Remark where
  base : Float
  exponent : Float
  position : Nat

/-- The characters of an expression, how far reading has come, what stands there,
and what was remarked. -/
structure Scanner where
  text : List Char
  position : Nat
  rest : List Char
  remarks : List Remark := []

namespace Scanner

/-- Reading starts at the first character that is not blank;
blanks are left out of the expression. -/
def start (expression : String) : Scanner :=
  let text := Text.withoutBlanks expression
  { text, position := 0, rest := text }

/-- The character under the scanner, if it has not reached the end. -/
def char? (scanner : Scanner) : Option Char :=
  scanner.rest.head?

/-- Move on by one character; at the end the position still counts on. -/
def advance (scanner : Scanner) : Scanner :=
  { scanner with position := scanner.position + 1, rest := scanner.rest.tail }

/-- Move past the given text, or past the end, if that is all the scanner is at. -/
def eatText? (scanner : Scanner) (expected : Option String) : Option Scanner :=
  if scanner.char?.map String.singleton == expected then some scanner.advance else none

/-- The run of characters of a class that starts under the scanner. -/
def run (scanner : Scanner) (inClass : Char → Bool) : List Char :=
  scanner.rest.takeWhile inClass

/-- Move past the run of characters of a class. -/
def skipRun (scanner : Scanner) (inClass : Char → Bool) : Scanner :=
  { scanner with
    position := scanner.position + (scanner.run inClass).length
    rest := scanner.rest.dropWhile inClass }

/-- Remember a power without a real value. -/
def remark (scanner : Scanner) (remark : Remark) : Scanner :=
  { scanner with remarks := scanner.remarks ++ [remark] }

end Scanner

end DeskCalc.Expression
