/-! Blank characters: what an expression ignores and what is cut off the ends of typed text. -/

namespace DeskCalc.Text

/-- The white space of Unicode together with the four ASCII separators U+001C to U+001F. -/
def isBlank (c : Char) : Bool :=
  let n := c.toNat
  (0x09 ≤ n && n ≤ 0x0d) || (0x1c ≤ n && n ≤ 0x20) || n == 0x85 || n == 0xa0 || n == 0x1680 ||
    (0x2000 ≤ n && n ≤ 0x200a) || n == 0x2028 || n == 0x2029 || n == 0x202f || n == 0x205f ||
    n == 0x3000

/-- A text is blank when it holds nothing but blank characters. -/
def allBlank (text : String) : Bool :=
  text.toList.all isBlank

/-- The characters of a text that are not blank, in their order. -/
def withoutBlanks (text : String) : List Char :=
  text.toList.filter (!isBlank ·)

/-- Nothing is left of a text without its blanks exactly when the text is blank. -/
theorem withoutBlanks_eq_nil_iff {text : String} :
    withoutBlanks text = [] ↔ allBlank text = true := by
  -- Both sides say that no character of the text survives the filter.
  simp [withoutBlanks, allBlank]

/-- Characters of which none is blank stay as they are. -/
theorem withoutBlanks_ofList {characters : List Char}
    (solid : ∀ c ∈ characters, isBlank c = false) :
    withoutBlanks (String.ofList characters) = characters := by
  rw [withoutBlanks, String.toList_ofList, List.filter_eq_self]
  intro c member
  simp [solid c member]

/-- The text without the blank characters at its two ends. -/
def trimmed (text : String) : String :=
  String.ofList ((text.toList.dropWhile isBlank).reverse.dropWhile isBlank).reverse

end DeskCalc.Text
