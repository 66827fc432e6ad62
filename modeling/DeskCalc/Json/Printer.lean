import DeskCalc.Json.Value

/-! Writing JSON text: ASCII only, each item on a line of its own, four spaces for each level. -/

namespace DeskCalc.Json

/-- A code unit as an escape. -/
def unitEscape (unit : Nat) : List Char :=
  '\\' :: 'u' :: Text.hexDigits 4 unit

/-- A character of a string: printable ASCII as it is, all else escaped,
beyond 16 bits as a pair. -/
def quotedChar (c : Char) : List Char :=
  match c with
  | '"' => ['\\', '"']
  | '\\' => ['\\', '\\']
  | '\n' => ['\\', 'n']
  | '\r' => ['\\', 'r']
  | '\t' => ['\\', 't']
  | '\x08' => ['\\', 'b']
  | '\x0c' => ['\\', 'f']
  | c =>
    if ' ' ≤ c && c ≤ '~' then [c]
    else if c.toNat < 0x10000 then unitEscape c.toNat
    else
      let offset := c.toNat - 0x10000
      unitEscape (0xd800 + offset / 0x400) ++ unitEscape (0xdc00 + offset % 0x400)

/-- A code point of a string: a half by itself is escaped like a character. -/
def quotedPoint : Text.CodePoint → List Char
  | .char c => quotedChar c
  | .half place => unitEscape (0xd800 + place.val)

section

variable {τ : Type} [Text.Coded τ]

/-- A string between double quotes. -/
def quote (text : τ) : List Char :=
  '"' :: (Text.Coded.points text).flatMap quotedPoint ++ ['"']

/-- A new line at a level. -/
def newLine (level : Nat) : List Char :=
  '\n' :: List.replicate (4 * level) ' '

mutual

/-- A value at a level. -/
def print (level : Nat) : Json τ → List Char
  | null => "null".toList
  | bool value => (if value then "true" else "false").toList
  | int value => (toString value).toList
  | float value => (Number.render .file value).toList
  | text value => quote value
  | list [] => ['[', ']']
  | list (item :: rest) =>
    '[' :: newLine (level + 1) ++ print (level + 1) item ++ printItems (level + 1) rest ++
      newLine level ++ [']']
  | object [] => ['\x7b', '\x7d']
  | object ((key, value) :: rest) =>
    '\x7b' :: newLine (level + 1) ++ quote key ++ [':', ' '] ++ print (level + 1) value ++
      printMembers (level + 1) rest ++ newLine level ++ ['\x7d']

/-- The items of a list behind the first one. -/
def printItems (level : Nat) : List (Json τ) → List Char
  | [] => []
  | item :: rest => ',' :: newLine level ++ print level item ++ printItems level rest

/-- The members of an object behind the first one. -/
def printMembers (level : Nat) : List (τ × Json τ) → List Char
  | [] => []
  | (key, value) :: rest =>
    ',' :: newLine level ++ quote key ++ [':', ' '] ++ print level value ++
      printMembers level rest

end

/-- The text of a value. -/
def toText (value : Json τ) : String :=
  String.ofList (print 0 value)

end

end DeskCalc.Json
