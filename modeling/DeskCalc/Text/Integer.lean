import DeskCalc.Text.Blank
import DeskCalc.Text.Digit
import DeskCalc.Text.Quoted

/-! Integers as people type them: surrounding blanks, a sign, underscores between digits,
digits of any script. -/

namespace DeskCalc.Text

/-- Why a text is no integer. -/
inductive IntegerFault
  | malformed (text : String)
  | tooLong (digits : Nat)

/-- The longest numeral that is read as an integer. -/
def maxIntegerDigits : Nat := 4300

/-- How many characters of a refused text are shown, its quotes included. -/
def maxShownCharacters : Nat := 200

/-- A refused text between quotes, cut off where it becomes too long to show. -/
def shownCut (text : String) : String :=
  String.ofList ((quoted text).toList.take maxShownCharacters)

/-- What is shown for a text that is no integer. -/
def IntegerFault.message : IntegerFault → String
  | .malformed text => "invalid literal for int() with base 10: " ++ shownCut text
  | .tooLong digits =>
    s!"Exceeds the limit ({maxIntegerDigits} digits) for integer string conversion: " ++
      s!"value has {digits} digits; use sys.set_int_max_str_digits() to increase the limit"

/-- The characters of which a numeral is made. -/
def isNumeralPart (c : Char) : Bool :=
  c == '_' || (decimalDigit? c).isSome

/-- The digit values of a numeral in which single underscores may stand between digits. -/
def digitValues? : List Char → Option (List Nat)
  | [] => none
  | [c] => (decimalDigit? c).map ([·])
  | c :: '_' :: rest => do return (← decimalDigit? c) :: (← digitValues? rest)
  | c :: rest => do return (← decimalDigit? c) :: (← digitValues? rest)

/-- The number that a list of digit values denotes, most significant first. -/
def ofDigitValues (values : List Nat) : Nat :=
  values.foldl (fun n digit => 10 * n + digit) 0

/-- The sign of a numeral and what follows it; no sign means a positive number. -/
def splitSign : List Char → Bool × List Char
  | '-' :: rest => (true, rest)
  | '+' :: rest => (false, rest)
  | rest => (false, rest)

/-- Read an integer: blanks around it are ignored,
and a numeral that is too long is refused before what follows it is looked at. -/
def readInteger (text : String) : Except IntegerFault Int :=
  let (negative, unsigned) := splitSign (trimmed text).toList
  match digitValues? (unsigned.takeWhile isNumeralPart) with
  | none => .error (.malformed text)
  | some values =>
    if values.length > maxIntegerDigits then .error (.tooLong values.length)
    else if !(unsigned.dropWhile isNumeralPart).isEmpty then .error (.malformed text)
    else .ok (if negative then -(ofDigitValues values : Int) else ofDigitValues values)

end DeskCalc.Text
