/-! Code points: the characters, and beside them the halves of pairs,
which are characters only two by two. -/

namespace DeskCalc.Text

/-- A code point: a character, or a half of a pair by its place among them.
The first 1024 of them are high halves and the others low ones. -/
inductive CodePoint
  | char (c : Char)
  | half (place : Fin 0x800)
deriving DecidableEq

namespace CodePoint

/-- The code point that a code unit stands for by itself. -/
def ofUnit (unit : Nat) : CodePoint :=
  if isHalf : 0xd800 ≤ unit ∧ unit - 0xd800 < 0x800 then half ⟨unit - 0xd800, isHalf.2⟩
  else char (Char.ofNat unit)

/-- The character that a high half and a low half are together. -/
def pair? : CodePoint → CodePoint → Option Char
  | half high, half low =>
    if high.val < 0x400 ∧ 0x400 ≤ low.val then
      some (Char.ofNat (0x10000 + high.val * 0x400 + (low.val - 0x400)))
    else none
  | _, _ => none

/-- Code points with one character for each high half and the low half that follows it. -/
def join : List CodePoint → List CodePoint
  | first :: second :: rest =>
    match pair? first second with
    | some c => char c :: join rest
    | none => first :: join (second :: rest)
  | points => points

/-- A point that makes no character with the next one stays in front of what the others are
joined to. -/
theorem join_cons {point : CodePoint} {points : List CodePoint}
    (apart : ∀ next ∈ points.head?, pair? point next = none) :
    join (point :: points) = point :: join points := by
  cases points with
  | nil => rfl
  | cons next rest => simp [join, apart next rfl]

/-- Characters have nothing to join. -/
theorem join_map_char (chars : List Char) : join (chars.map char) = chars.map char := by
  induction chars with
  | nil => rfl
  | cons c rest ih => rw [List.map_cons, join_cons (by simp [pair?]), ih]

/-- The character of a code point; a half is replaced. -/
def toChar : CodePoint → Char
  | char c => c
  | half _ => '\ufffd'

end CodePoint

/-- Texts of any code points. -/
abbrev CodePoints := List CodePoint

/-- A type of texts: the code points of a text, and the text that code points make.
There may be no place for halves in such texts, but what is joined in a text has its place,
and what has nothing to join makes a text that has not either. -/
class Coded (τ : Type) where
  points : τ → CodePoints
  ofPoints : CodePoints → τ
  ofString : String → τ
  ofPoints_points (text : τ) : ofPoints (points text) = text
  points_ofString (text : String) : points (ofString text) = text.toList.map .char
  points_ofPoints_join (text : τ) :
    points (ofPoints (CodePoint.join (points text))) = CodePoint.join (points text)
  join_points_ofPoints {text : CodePoints} (joined : CodePoint.join text = text) :
    CodePoint.join (points (ofPoints text)) = points (ofPoints text)

/-- A string holds characters only, with another one in the place of each half. -/
instance : Coded String where
  points text := text.toList.map .char
  ofPoints points := String.ofList (points.map CodePoint.toChar)
  ofString text := text
  ofPoints_points text := by simp [Function.comp_def, CodePoint.toChar]
  points_ofString _ := rfl
  points_ofPoints_join text := by
    simp [CodePoint.join_map_char, Function.comp_def, CodePoint.toChar]
  join_points_ofPoints _ := CodePoint.join_map_char _

instance : Coded CodePoints where
  points text := text
  ofPoints points := points
  ofString text := text.toList.map .char
  ofPoints_points _ := rfl
  points_ofString _ := rfl
  points_ofPoints_join _ := rfl
  join_points_ofPoints joined := joined

end DeskCalc.Text
