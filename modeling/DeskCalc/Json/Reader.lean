import DeskCalc.Json.Value
import DeskCalc.Number.Nearest
import DeskCalc.Text.Integer

/-! Reading JSON text: strict but for the three words for doubles that are no number,
and bounded in depth. -/

namespace DeskCalc.Json

/-- Why a text is not read as JSON. -/
inductive ReadFault
  | malformed
  | nestedTooDeeply
  | integerTooLong (fault : Text.IntegerFault)

/-- The characters that follow a part that has been read. -/
abbrev Rest := List Char

variable {τ : Type}

/-- The four characters that may stand between the parts of a JSON text. -/
def isSpace (c : Char) : Bool :=
  c == ' ' || c == '\t' || c == '\n' || c == '\r'

/-- The text from its first character that is no space. -/
def skipSpaces (chars : List Char) : List Char :=
  chars.dropWhile isSpace

/-- The value of a hexadecimal digit of either case. -/
def hexValue? (c : Char) : Option Nat :=
  if c.isDigit then some (c.toNat - '0'.toNat)
  else if 'a' ≤ c && c ≤ 'f' then some (c.toNat - 'a'.toNat + 10)
  else if 'A' ≤ c && c ≤ 'F' then some (c.toNat - 'A'.toNat + 10)
  else none

/-- The number that four hexadecimal digits denote. -/
def hexUnit? (a b c d : Char) : Option Nat := do
  return (((← hexValue? a) * 16 + (← hexValue? b)) * 16 + (← hexValue? c)) * 16 + (← hexValue? d)

/-- The character that a letter behind a backslash stands for. -/
def escaped? : Char → Option Char
  | '"' => some '"'
  | '\\' => some '\\'
  | '/' => some '/'
  | 'b' => some '\x08'
  | 'f' => some '\x0c'
  | 'n' => some '\n'
  | 'r' => some '\r'
  | 't' => some '\t'
  | _ => none

/-- The code points of a string up to its closing quote, and what follows the quote. -/
def readPoints : List Char → Option (Text.CodePoints × List Char)
  | [] => none
  | '"' :: rest => some ([], rest)
  | '\\' :: 'u' :: a :: b :: c :: d :: rest => do
    let unit ← hexUnit? a b c d
    let (points, after) ← readPoints rest
    return (.ofUnit unit :: points, after)
  | '\\' :: c :: rest => do
    let escaped ← escaped? c
    let (points, after) ← readPoints rest
    return (.char escaped :: points, after)
  | c :: rest => do
    guard (c ≥ ' ' && c != '\\')
    let (points, after) ← readPoints rest
    return (.char c :: points, after)

/-- A string behind its opening quote; halves side by side are read as one character. -/
def readText [Text.Coded τ] (chars : List Char) : Except ReadFault (τ × Rest) :=
  match readPoints chars with
  | some (points, rest) => .ok (Text.Coded.ofPoints (Text.CodePoint.join points), rest)
  | none => .error .malformed

/-- The digits of the whole part of a number: a zero stands alone. -/
def readWhole : List Char → List Char × List Char
  | '0' :: rest => (['0'], rest)
  | chars => (chars.takeWhile Char.isDigit, chars.dropWhile Char.isDigit)

/-- The digits behind a point, if there is at least one. -/
def readFraction : List Char → Option (List Char × List Char)
  | '.' :: chars =>
    let digits := chars.takeWhile Char.isDigit
    if digits.isEmpty then none else some (digits, chars.dropWhile Char.isDigit)
  | _ => none

/-- The exponent behind the letter e of either case, if it has at least one digit. -/
def readExponent : List Char → Option (Int × List Char)
  | e :: chars =>
    if e == 'e' || e == 'E' then
      let (negative, numeral) := Text.splitSign chars
      let digits := numeral.takeWhile Char.isDigit
      let size : Int := Number.ofDigits digits
      if digits.isEmpty then none
      else some (if negative then -size else size, numeral.dropWhile Char.isDigit)
    else none
  | _ => none

/-- A number behind its sign: an integer unless a fraction or an exponent follows its whole part. -/
def readNumber (negative : Bool) (chars : List Char) : Except ReadFault (Json τ × Rest) :=
  let (whole, afterWhole) := readWhole chars
  if whole.isEmpty then .error .malformed
  else
    match readFraction afterWhole, readExponent afterWhole with
    | none, none =>
      if whole.length > Text.maxIntegerDigits then
        .error (.integerTooLong (.tooLong whole.length))
      else
        let size : Int := Number.ofDigits whole
        .ok (.int (if negative then -size else size), afterWhole)
    | none, some (exponent, rest) => .ok (ofParts whole [] exponent, rest)
    | some (fraction, afterFraction), _ =>
      match readExponent afterFraction with
      | none => .ok (ofParts whole fraction 0, afterFraction)
      | some (exponent, rest) => .ok (ofParts whole fraction exponent, rest)
where
  ofParts (whole fraction : List Char) (exponent : Int) : Json τ :=
    let digits := whole ++ fraction
    .float (Number.nearestDecimal negative (Number.ofDigits digits) digits.length
      (exponent - fraction.length))

/-- The text behind a word that it starts with. -/
def behind? (word : String) (chars : List Char) : Option (List Char) :=
  if word.toList.isPrefixOf chars then some (chars.drop word.length) else none

/-- The words that stand for values. -/
def wordValues : List (String × Json τ) :=
  [("null", .null), ("true", .bool true), ("false", .bool false),
    ("NaN", .float (Float.ofBits 0x7ff8000000000000)),
    ("Infinity", .float (Float.ofBits 0x7ff0000000000000)),
    ("-Infinity", .float (Float.ofBits 0xfff0000000000000))]

/-- A number, or a word that stands for a value. -/
def readScalar (chars : List Char) : Except ReadFault (Json τ × Rest) :=
  match wordValues.findSome? fun (word, value) => (behind? word chars).map (value, ·) with
  | some parsed => .ok parsed
  | none =>
    match chars with
    | '-' :: rest => readNumber true rest
    | _ => readNumber false chars

/-- The items of a list behind its opening bracket and its first item;
`limit` bounds their number. -/
def readItems (value : List Char → Except ReadFault (Json τ × Rest)) :
    Nat → List Char → Except ReadFault (List (Json τ) × Rest)
  | 0, _ => .error .malformed
  | limit + 1, chars => do
    let (item, rest) ← value chars
    match skipSpaces rest with
    | ',' :: rest =>
      let (items, rest) ← readItems value limit (skipSpaces rest)
      return (item :: items, rest)
    | ']' :: rest => return ([item], rest)
    | _ => .error .malformed

/-- The members of an object behind its opening brace;
of a key written twice the later value counts. -/
def readMembers [DecidableEq τ] [Text.Coded τ]
    (value : List Char → Except ReadFault (Json τ × Rest)) (known : Members τ) :
    Nat → List Char → Except ReadFault (Members τ × Rest)
  | limit + 1, '"' :: chars => do
    let (key, rest) ← readText chars
    match skipSpaces rest with
    | ':' :: rest =>
      let (item, rest) ← value (skipSpaces rest)
      let known := known.put key item
      match skipSpaces rest with
      | ',' :: rest => readMembers value known limit (skipSpaces rest)
      | '\x7d' :: rest => return (known, rest)
      | _ => .error .malformed
    | _ => .error .malformed
  | _, _ => .error .malformed

/-- A value whose lists and objects are nested no deeper than `depth`. -/
def readValue [DecidableEq τ] [Text.Coded τ] :
    (depth : Nat) → List Char → Except ReadFault (Json τ × Rest)
  | _, '"' :: chars => do
    let (value, rest) ← readText chars
    return (.text value, rest)
  | 0, '[' :: _ => .error .nestedTooDeeply
  | 0, '\x7b' :: _ => .error .nestedTooDeeply
  | depth + 1, '[' :: chars =>
    match skipSpaces chars with
    | ']' :: rest => .ok (.list [], rest)
    | chars => do
      let (items, rest) ← readItems (readValue depth) (chars.length + 1) chars
      return (.list items, rest)
  | depth + 1, '\x7b' :: chars =>
    match skipSpaces chars with
    | '\x7d' :: rest => .ok (.object [], rest)
    | chars => do
      let (members, rest) ← readMembers (readValue depth) [] (chars.length + 1) chars
      return (.object members, rest)
  | _, chars => readScalar chars

/-- How deep lists and objects may be nested. -/
def maxDepth : Nat := 980

/-- Read a text that holds one value and nothing else but spaces. -/
def read (source : String) (τ : Type := String) [DecidableEq τ] [Text.Coded τ] :
    Except ReadFault (Json τ) := do
  let (value, rest) ← readValue maxDepth (skipSpaces source.toList)
  if (skipSpaces rest).isEmpty then return value else .error .malformed

end DeskCalc.Json
