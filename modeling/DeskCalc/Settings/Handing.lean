import DeskCalc.Settings.Store

/-! Saving whatever a program hands over. Its text goes into the file while it is made,
up to the first thing that has no text. -/

namespace DeskCalc.Settings

/-- What a program hands over: JSON values, and at any place in its lists and objects
a thing that has no JSON text. -/
inductive Handed
  | json (value : Json)
  | thing
  | list (items : List Handed)
  | object (members : List (String × Handed))

/-- A text as far as it could be made. -/
structure Piece where
  text : List Char
  isWhole : Bool := true

namespace Piece

/-- A text goes on behind a whole piece, and with another one it ends. -/
def append (first next : Piece) : Piece :=
  if first.isWhole then { next with text := first.text ++ next.text } else first

instance : Append Piece := ⟨append⟩

end Piece

namespace Handed

mutual

/-- What is handed over at a level, as far as its text can be made. -/
def stream (level : Nat) : Handed → Piece
  | json value => ⟨value.print level, true⟩
  | thing => ⟨[], false⟩
  | list [] => ⟨['[', ']'], true⟩
  | list (item :: rest) =>
    (⟨'[' :: Json.newLine (level + 1), true⟩ : Piece) ++ stream (level + 1) item ++
      streamItems (level + 1) rest ++ ⟨Json.newLine level, true⟩ ++ ⟨[']'], true⟩
  | object [] => ⟨['\x7b', '\x7d'], true⟩
  | object ((key, value) :: rest) =>
    (⟨'\x7b' :: Json.newLine (level + 1) ++ Json.quote key ++ [':', ' '], true⟩ : Piece) ++
      stream (level + 1) value ++ streamMembers (level + 1) rest ++
      ⟨Json.newLine level, true⟩ ++ ⟨['\x7d'], true⟩

/-- The items of a list behind the first one. -/
def streamItems (level : Nat) : List Handed → Piece
  | [] => ⟨[], true⟩
  | item :: rest =>
    (⟨',' :: Json.newLine level, true⟩ : Piece) ++ stream level item ++ streamItems level rest

/-- The members of an object behind the first one. -/
def streamMembers (level : Nat) : List (String × Handed) → Piece
  | [] => ⟨[], true⟩
  | (key, value) :: rest =>
    (⟨',' :: Json.newLine level ++ Json.quote key ++ [':', ' '], true⟩ : Piece) ++
      stream level value ++ streamMembers level rest

end

end Handed

/-- Save what is handed over: it is given back, or an empty object where its text breaks off
or cannot be written. -/
def saveHanded (folder : Folder) (handed : Handed) : Noted Handed × Folder :=
  let piece := handed.stream 0
  let (outcome, folder) := folder.write .settings (String.ofList piece.text).toUTF8
  if outcome.isOk && piece.isWhole then ({ result := handed }, folder)
  else
    ({ result := .json (.object []),
       entries := [⟨.error, "The settings could not be saved."⟩] }, folder)

end DeskCalc.Settings
