import DeskCalc.Number.Field
import DeskCalc.Text.Digit

/-! The setting for results that are no integers: a number of decimal places, or a whole field. -/

namespace DeskCalc.Number

-- Powers of natural numbers are the plain ones, also beside those of a monoid.
attribute [local instance (high)] instPowNat

/-- Why a setting is refused. -/
inductive PlacesFault
  | missing
  | tooManyDigits
  | twoSeparators
  | notANumber (setting : String)
  | tooBig
  | tooWide
deriving DecidableEq

/-- What is shown for a setting that is refused; of a field that is too wide nothing is said. -/
def PlacesFault.message : PlacesFault → String
  | .missing => "Format specifier missing precision"
  | .tooManyDigits => "Too many decimal digits in format string"
  | .twoSeparators => "Cannot specify both ',' and '_'."
  | .notANumber setting =>
    s!"Invalid format specifier '.{setting}f' for object of type 'float'"
  | .tooBig => "precision too big"
  | .tooWide => ""

/-- The decimal places asked for, or the field, or why the setting that asks for them is refused. -/
inductive Places
  | count (places : Nat)
  | field (layout : Field)
  | unusable (fault : PlacesFault)
deriving DecidableEq

namespace Places

/-- The places used where no setting is at hand. -/
def standard : Places := count 8

/-- The largest number that a setting may spell. -/
def maxSpelled : Nat := 2 ^ (63 : Nat) - 1

/-- The largest number of places that can be asked for, and of digits that can be counted. -/
def maxCount : Nat := 2 ^ (31 : Nat) - 1

/-- The widest field that there is room for. -/
def maxWidth : Nat := 2 ^ (36 : Nat)

/-- Read the digits at the start of a text on top of a value: the number, and what follows it. -/
def readDigits (value : Nat) : List Char → Except PlacesFault (Nat × List Char)
  | [] => .ok (value, [])
  | c :: rest =>
    match Text.decimalDigit? c with
    | none => .ok (value, c :: rest)
    | some digit =>
      -- The number is refused as soon as it becomes too large, whatever follows.
      if 10 * value + digit > maxSpelled then .error .tooManyDigits
      else readDigits (10 * value + digit) rest

/-- Read a number of places, which has at least one digit. -/
def readPlaces (text : List Char) : Except PlacesFault (Nat × List Char) :=
  if (text.head?.bind Text.decimalDigit?).isSome then readDigits 0 text else .error .missing

/-- Read the sign that is put before what is not negative; a minus asks for none. -/
def readSign : List Char → Option Char × List Char
  | '+' :: rest => (some '+', rest)
  | ' ' :: rest => (some ' ', rest)
  | '-' :: rest => (none, rest)
  | rest => (none, rest)

/-- Read a mark that may stand at the start of a text. -/
def readMark (mark : Char) (text : List Char) : Bool × List Char :=
  if text.head? == some mark then (true, text.tail) else (false, text)

/-- Read a separator for groups of digits, of which there may be one. -/
def readSeparator : List Char → Except PlacesFault (Option Char × List Char)
  | ',' :: '_' :: _ => .error .twoSeparators
  | '_' :: ',' :: _ => .error .twoSeparators
  | ',' :: rest => .ok (some ',', rest)
  | '_' :: rest => .ok (some '_', rest)
  | rest => .ok (none, rest)

/-- Read the rest of a field behind its alignment: a sign, `z` to hide the sign of a zero,
`#` to keep the point, a width, a separator, and the places behind a point. -/
def readField (alignment : Alignment) (text : List Char) :
    Except PlacesFault (Field × List Char) := do
  -- The marks of a field have a fixed order, and each of them may be missing.
  let (plusSign, text) := readSign text
  let (hidesSignOfZero, text) := readMark 'z' text
  let (keepsPoint, text) := readMark '#' text
  let (width, text) ← readDigits 0 text
  let (separator, text) ← readSeparator text
  let field : Field := { alignment, plusSign, hidesSignOfZero, keepsPoint, width, separator }
  match text with
  | '.' :: text =>
    let (places, text) ← readPlaces text
    return ({ field with places }, text)
  | text => return (field, text)

/-- Read a setting: a field where it starts with an alignment, or else a number of places. -/
def readSetting (text : List Char) : Except PlacesFault (Places × List Char) :=
  match text.head?.bind Alignment.ofChar? with
  | some alignment => (readField alignment text.tail).map fun (layout, rest) => (field layout, rest)
  | none => (readPlaces text).map fun (places, rest) => (count places, rest)

/-- The places that can be laid out: neither too many of them nor a field that is too wide. -/
def bounded : Places → Places
  | count places => if places > maxCount then unusable .tooBig else count places
  | field layout =>
    if layout.places > maxCount then unusable .tooBig
    else if layout.width > maxWidth then unusable .tooWide
    else field layout
  | unusable fault => unusable fault

/-- The places that a setting's text asks for, which is read to its end. -/
def ofText (setting : String) : Places :=
  match readSetting setting.toList with
  | .error fault => unusable fault
  | .ok (places, []) => places.bounded
  | .ok (_, _ :: _) => unusable (.notANumber setting)

end Places

end DeskCalc.Number
