import DeskCalc.Settings.Handing
import DeskCalc.Proofs.Settings.Saving

/-! Saves that fail: only a file that cannot be opened stays as it was. Of any other one all is lost
that it held, and it holds the front of the new text. -/

namespace DeskCalc.Settings

namespace Piece

/-- A piece is a text, or the front of it where the piece is not whole. -/
structure Starts (piece : Piece) (text : List Char) : Prop where
  front : piece.text <+: text
  whole : piece.isWhole = true → piece.text = text

theorem starts_self (text : List Char) : Starts ⟨text, true⟩ text :=
  ⟨List.prefix_rfl, fun _ => rfl⟩

theorem append_def (first next : Piece) : first ++ next =
    if first.isWhole then { next with text := first.text ++ next.text } else first := rfl

/-- Two pieces are whole together. -/
theorem isWhole_append (first next : Piece) :
    (first ++ next).isWhole = (first.isWhole && next.isWhole) := by
  rw [append_def]
  -- Behind a piece that is broken off nothing is added.
  cases whole : first.isWhole <;> simp [whole]

/-- A piece behind another one starts the text behind its text. -/
theorem Starts.append {first next : Piece} {front back : List Char} (starts : first.Starts front)
    (goesOn : next.Starts back) : (first ++ next).Starts (front ++ back) := by
  rw [append_def]
  split
  · -- The first piece is its whole text, so the second one goes on behind that.
    rename_i whole
    rw [starts.whole whole]
    exact ⟨(List.prefix_append_right_inj front).mpr goesOn.front,
      fun behind => congrArg _ (goesOn.whole behind)⟩
  · -- The first piece is broken off, and what would come behind it does not matter.
    rename_i broken
    exact ⟨starts.front.trans (List.prefix_append front back), fun whole => absurd whole broken⟩

/-- Two pieces behind a mark. -/
theorem Starts.behind {first next : Piece} {front back : List Char} (starts : first.Starts front)
    (goesOn : next.Starts back) (mark : List Char) :
    ((⟨mark, true⟩ : Piece) ++ first ++ next).Starts (mark ++ front ++ back) :=
  ((starts_self mark).append starts).append goesOn

/-- Two pieces between a mark and another one, which has a line of its own. -/
theorem Starts.between {first next : Piece} {front back : List Char} (starts : first.Starts front)
    (goesOn : next.Starts back) (mark newLine closing : List Char) :
    ((⟨mark, true⟩ : Piece) ++ first ++ next ++ ⟨newLine, true⟩ ++ ⟨closing, true⟩).Starts
      (mark ++ front ++ back ++ newLine ++ closing) :=
  ((starts.behind goesOn mark).append (starts_self newLine)).append (starts_self closing)

end Piece

namespace Handed

mutual

/-- Whether something has no text. -/
def hasThing : Handed → Bool
  | json _ => false
  | thing => true
  | list items => anyThing items
  | object members => anyMember members

/-- Whether something among the items of a list has no text. -/
def anyThing : List Handed → Bool
  | [] => false
  | item :: rest => hasThing item || anyThing rest

/-- Whether something among the members of an object has no text. -/
def anyMember : List (String × Handed) → Bool
  | [] => false
  | (_, value) :: rest => hasThing value || anyMember rest

end

mutual

/-- The text is made to its end unless something has none. -/
theorem stream_isWhole (level : Nat) :
    ∀ handed : Handed, (handed.stream level).isWhole = !handed.hasThing
  | json _ => rfl
  | thing => rfl
  | list [] => rfl
  | list (item :: rest) => by
    -- The marks around the items are always whole, so it is up to the items.
    simp only [stream, Piece.isWhole_append, stream_isWhole (level + 1) item,
      streamItems_isWhole (level + 1) rest, hasThing, anyThing, Bool.not_or, Bool.true_and,
      Bool.and_true]
  | object [] => rfl
  | object ((_, value) :: rest) => by
    -- So it is for members; their keys are texts anyway.
    simp only [stream, Piece.isWhole_append, stream_isWhole (level + 1) value,
      streamMembers_isWhole (level + 1) rest, hasThing, anyMember, Bool.not_or, Bool.true_and,
      Bool.and_true]

theorem streamItems_isWhole (level : Nat) : ∀ items : List Handed,
    (streamItems level items).isWhole = !anyThing items
  | [] => rfl
  | item :: rest => by
    simp only [streamItems, Piece.isWhole_append, stream_isWhole level item,
      streamItems_isWhole level rest, anyThing, Bool.not_or, Bool.true_and]

theorem streamMembers_isWhole (level : Nat) : ∀ members : List (String × Handed),
    (streamMembers level members).isWhole = !anyMember members
  | [] => rfl
  | (_, value) :: rest => by
    simp only [streamMembers, Piece.isWhole_append, stream_isWhole level value,
      streamMembers_isWhole level rest, anyMember, Bool.not_or, Bool.true_and]

end

section Filling

variable (filling : Json)

mutual

/-- The JSON value with another one in place of everything that has no text. -/
def fill : Handed → Json
  | json value => value
  | thing => filling
  | list items => .list (fillItems items)
  | object members => .object (fillMembers members)

/-- The items of a list, each filled. -/
def fillItems : List Handed → List Json
  | [] => []
  | item :: rest => fill item :: fillItems rest

/-- The members of an object, each filled. -/
def fillMembers : List (String × Handed) → List (String × Json)
  | [] => []
  | (key, value) :: rest => (key, fill value) :: fillMembers rest

end

mutual

/-- The text that is made is the front of the one with anything in place of what has no text. -/
theorem stream_starts (level : Nat) :
    ∀ handed : Handed, (handed.stream level).Starts ((handed.fill filling).print level)
  | json value => Piece.starts_self (value.print level)
  | thing => ⟨List.nil_prefix, fun whole => by cases whole⟩
  | list [] => Piece.starts_self ['[', ']']
  | list (item :: rest) => by
    -- What is streamed for the first item starts its text, and so for the others behind it.
    have first := stream_starts (level + 1) item
    have others := streamItems_starts (level + 1) rest
    exact first.between others ('[' :: Json.newLine (level + 1)) (Json.newLine level) [']']
  | object [] => Piece.starts_self ['\x7b', '\x7d']
  | object ((key, value) :: rest) => by
    -- A member is an item behind its key.
    have first := stream_starts (level + 1) value
    have others := streamMembers_starts (level + 1) rest
    exact first.between others ('\x7b' :: Json.newLine (level + 1) ++ Json.quote key ++ [':', ' '])
      (Json.newLine level) ['\x7d']

theorem streamItems_starts (level : Nat) : ∀ items : List Handed,
    (streamItems level items).Starts (Json.printItems level (fillItems filling items))
  | [] => Piece.starts_self []
  | item :: rest => by
    -- The items behind the first one follow a comma.
    have first := stream_starts level item
    have others := streamItems_starts level rest
    exact first.behind others (',' :: Json.newLine level)

theorem streamMembers_starts (level : Nat) : ∀ members : List (String × Handed),
    (streamMembers level members).Starts (Json.printMembers level (fillMembers filling members))
  | [] => Piece.starts_self []
  | (key, value) :: rest => by
    -- So do the members, each behind its key.
    have first := stream_starts level value
    have others := streamMembers_starts level rest
    exact first.behind others (',' :: Json.newLine level ++ Json.quote key ++ [':', ' '])

end

end Filling

end Handed

section Writing

variable {folder : Folder} {file : FileName} {content : ByteArray}

/-- A file can be opened for writing where the folder is there and no directory has its name. -/
def Folder.Opens (folder : Folder) (file : FileName) : Prop :=
  folder.isGone = false ∧ folder.get file ≠ .directory

/-- A file that cannot be opened stays as it was, and so does the whole folder. -/
theorem write_of_not_opens (closed : ¬ folder.Opens file) :
    ∃ fault, folder.write file content = (.error fault, folder) := by
  unfold Folder.write
  -- The folder may have vanished, or a directory may have the name.
  split
  · exact ⟨_, rfl⟩
  · rename_i here
    split
    · exact ⟨_, rfl⟩
    · rename_i other
      exact absurd ⟨by simpa using here, other⟩ closed

/-- A file that is opened holds the front of what is written, whatever it held before; only where
the room ends it is not all of it. -/
theorem write_of_opens (opens : folder.Opens file) :
    ∃ front rest, content = front ++ rest ∧
      (folder.write file content).2 = folder.set file (.bytes front) ∧
      ((folder.write file content).1 = .ok () ↔ ∀ room ∈ folder.room, content.size ≤ room) := by
  have all : content = content ++ .empty := ByteArray.append_empty.symm
  -- What stood under the name does not count, unless it is a directory.
  have written : folder.write file content =
      folder.room.elim (.ok (), folder.set file (.bytes content)) fun room =>
        if content.size ≤ room then (.ok (), folder.set file (.bytes content))
        else (.error .noRoom, folder.set file (.bytes (content.extract 0 room))) := by
    rw [Folder.write, if_neg (by simp [opens.1])]
    cases state : folder.get file with
    | directory => exact absurd state opens.2
    | missing => cases folder.room <;> rfl
    | bytes _ => cases folder.room <;> rfl
  rw [written]
  -- Without a limit everything is written, and otherwise as much as there is room for.
  cases folder.room with
  | none => exact ⟨content, .empty, all, rfl, by simp⟩
  | some room =>
    rcases Nat.lt_or_ge room content.size with less | fits
    · -- The file is full before the end of the content.
      refine ⟨content.extract 0 room, content.extract room content.size, ?_, ?_, ?_⟩
      · rw [← ByteArray.extract_eq_extract_append_extract room (Nat.zero_le room) less.le,
          ByteArray.extract_zero_size]
      · simp [Nat.not_le_of_lt less]
      · simp [Nat.not_le_of_lt less]
    · exact ⟨content, .empty, all, by simp [fits], by simp [fits]⟩

end Writing

section Saving

variable {folder : Folder} {handed : Handed}

/-- The bytes of the text that is made are the front of those of the text with anything in place of
what has no text, and all of them where there is no such thing. -/
theorem Handed.toUTF8_stream (handed : Handed) (filling : Json) :
    ∃ rest, (handed.fill filling).toText.toUTF8 =
        (String.ofList (handed.stream 0).text).toUTF8 ++ rest ∧
      (handed.hasThing = false → rest = .empty) := by
  obtain ⟨⟨rest, front⟩, whole⟩ := handed.stream_starts filling 0
  refine ⟨(String.ofList rest).toUTF8, ?_, fun none => ?_⟩
  · -- The streamed text is a front of the printed one, and so are its bytes.
    rw [Json.toText, ← front, String.ofList_append]
    exact String.toByteArray_append
  · -- A whole text has nothing behind it.
    rw [handed.stream_isWhole, none] at whole
    have nothing : rest = [] := by
      rw [← whole rfl, List.append_right_eq_self] at front
      exact front
    rw [nothing]
    rfl

/-- A JSON value that is handed over is saved like any other one. -/
theorem saveHanded_json (folder : Folder) (value : Json) : saveHanded folder (.json value) =
    (⟨.json (save folder value).value, (save folder value).entries⟩, (save folder value).folder) := by
  -- Both write the same text, and look at the same outcome.
  rcases written : folder.write .settings (String.ofList (value.print 0)).toUTF8 with
    ⟨fault | ⟨⟨⟩⟩, after⟩
  · simp only [saveHanded, save, Handed.stream, Json.toText, written]
    rfl
  · simp only [saveHanded, save, Handed.stream, Json.toText, written]
    rfl

/-- A save either gives back what was handed over, whose text has been made and written to its end,
or an empty object with an entry. -/
theorem saveHanded_cases (folder : Folder) (handed : Handed) :
    (saveHanded folder handed).2 =
        (folder.write .settings (String.ofList (handed.stream 0).text).toUTF8).2 ∧
      ((saveHanded folder handed).1.entries ≠ [] →
        (saveHanded folder handed).1.result = .json (.object [])) ∧
      ((saveHanded folder handed).1.entries = [] ↔
        (folder.write .settings (String.ofList (handed.stream 0).text).toUTF8).1 = .ok () ∧
          handed.hasThing = false) := by
  have made := handed.stream_isWhole 0
  simp only [saveHanded, made]
  generalize folder.write .settings (String.ofList (handed.stream 0).text).toUTF8 = written
  obtain ⟨fault | ⟨⟨⟩⟩, after⟩ := written
  · -- A write that fails gives the empty object, whatever was streamed.
    simp [Except.isOk, Except.toBool]
  · -- Behind a write that succeeds it matters whether the text was made to its end.
    cases handed.hasThing <;> simp [Except.isOk, Except.toBool]

/-- A save that fails gives an empty object. It fails where the file cannot be opened, where
something has no text, and where there is no room for the text. Only in the first of these cases the
file stays as it was: when it has been opened, it holds a front of the new text, which ends before
what has no text, whatever stood there before. -/
theorem saveHanded_spec (folder : Folder) (handed : Handed) :
    ((saveHanded folder handed).1.entries ≠ [] ↔ ¬ folder.Opens .settings ∨
      handed.hasThing = true ∨
      ∃ room ∈ folder.room, room < (handed.fill .null).toText.toUTF8.size) ∧
    ((saveHanded folder handed).1.entries ≠ [] →
      (saveHanded folder handed).1.result = .json (.object [])) ∧
    (¬ folder.Opens .settings → (saveHanded folder handed).2 = folder) ∧
    (folder.Opens .settings → ∃ front,
      (saveHanded folder handed).2 = folder.set .settings (.bytes front) ∧
      ∀ filling, ∃ rest, (handed.fill filling).toText.toUTF8 = front ++ rest) := by
  obtain ⟨after, empty, entries⟩ := saveHanded_cases folder handed
  refine ⟨?_, empty, fun closed => ?_, fun opens => ?_⟩
  · -- A save fails at opening, in the text, or for the room.
    rw [ne_eq, entries]
    by_cases opens : folder.Opens .settings
    · -- The file is opened: without a thing in it the text is as long as the streamed one.
      obtain ⟨-, -, -, -, written⟩ := @write_of_opens folder .settings
        (String.ofList (handed.stream 0).text).toUTF8 opens
      obtain ⟨behind, text, whole⟩ := handed.toUTF8_stream .null
      rw [written, text]
      cases textless : handed.hasThing with
      | true => simp [opens]
      | false => simp [opens, whole textless]
    · -- The file is not opened, and nothing else is asked.
      obtain ⟨fault, written⟩ := @write_of_not_opens folder .settings
        (String.ofList (handed.stream 0).text).toUTF8 opens
      rw [written]
      simp [opens]
  · -- What cannot be opened is not touched.
    obtain ⟨fault, written⟩ := @write_of_not_opens folder .settings
      (String.ofList (handed.stream 0).text).toUTF8 closed
    rw [after, written]
  · -- What has been opened holds the front of the streamed text, itself a front of any filled one.
    obtain ⟨front, rest, split, written, -⟩ := @write_of_opens folder .settings
      (String.ofList (handed.stream 0).text).toUTF8 opens
    refine ⟨front, after.trans written, fun filling => ?_⟩
    obtain ⟨behind, text, -⟩ := handed.toUTF8_stream filling
    exact ⟨rest ++ behind, by rw [text, split, ByteArray.append_assoc]⟩

/-- Files of different sizes are different. -/
theorem FileState.ofText_ne {text other : String} (sizes : text.toUTF8.size ≠ other.toUTF8.size) :
    FileState.ofText text ≠ .ofText other := by
  intro same
  exact sizes (congrArg ByteArray.size (FileState.bytes.inj same))

/-- Empty settings are lost, both to a thing that has no text and to a lack of room. -/
theorem saveHanded_loses :
    (∃ folder : Folder, folder.settings = .ofText "\x7b\x7d" ∧
      (saveHanded folder (.object [("a", .thing)])).1.result = .json (.object []) ∧
      (saveHanded folder (.object [("a", .thing)])).2.settings = .ofText "\x7b\n    \"a\": " ∧
      (saveHanded folder (.object [("a", .thing)])).2.settings ≠ folder.settings) ∧
    ∃ folder : Folder, folder.settings = .ofText "\x7b\x7d" ∧
      (saveHanded folder (.object [("a", .json .null)])).1.result = .json (.object []) ∧
      (saveHanded folder (.object [("a", .json .null)])).2.settings = .ofText "\x7b" ∧
      (saveHanded folder (.object [("a", .json .null)])).2.settings ≠ folder.settings := by
  -- The first save stops before the thing, and the second one has room for one byte.
  have text : (saveHanded { settings := .ofText "\x7b\x7d" } (.object [("a", .thing)])).2.settings =
      .ofText "\x7b\n    \"a\": " := rfl
  have room : (saveHanded { settings := .ofText "\x7b\x7d", room := some 1 }
      (.object [("a", .json .null)])).2.settings = .ofText "\x7b" := rfl
  refine ⟨⟨{ settings := .ofText "\x7b\x7d" }, rfl, rfl, text, ?_⟩,
    { settings := .ofText "\x7b\x7d", room := some 1 }, rfl, rfl, room, ?_⟩
  · rw [text]
    exact FileState.ofText_ne (by decide)
  · rw [room]
    exact FileState.ofText_ne (by decide)

end Saving

end DeskCalc.Settings
