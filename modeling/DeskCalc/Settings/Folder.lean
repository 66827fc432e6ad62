import DeskCalc.Text.Utf8

/-! The folder of the program: what its two files hold,
and what happens when they are read or written. -/

namespace DeskCalc.Settings

/-- What stands under the name of a file. -/
inductive FileState
  | missing
  | directory
  | bytes (content : ByteArray)

/-- Why a file cannot be read or changed. -/
inductive FileFault
  | notFound
  | isDirectory
  | alreadyExists
  | noRoom
  | notText (fault : Text.Utf8Fault)

/-- The two files of the program: the settings, and the words that describe them. -/
inductive FileName
  | settings
  | descriptions

/-- The folder; it may be gone with all it held, and have room for only so many bytes in a file. -/
structure Folder where
  settings : FileState := .missing
  descriptions : FileState := .missing
  isGone : Bool := false
  room : Option Nat := none

namespace FileState

/-- A file that holds a text. -/
def ofText (text : String) : FileState :=
  bytes text.toUTF8

/-- A text with a line feed at the end of each line, however the lines ended before. -/
def unifyLineEnds : List Char → List Char
  | '\r' :: '\n' :: rest => '\n' :: unifyLineEnds rest
  | '\r' :: rest => '\n' :: unifyLineEnds rest
  | c :: rest => c :: unifyLineEnds rest
  | [] => []

/-- The text that a file holds. -/
def readText : FileState → Except FileFault String
  | missing => .error .notFound
  | directory => .error .isDirectory
  | bytes content =>
    match Text.decodeUtf8 content with
    | .error fault => .error (.notText fault)
    | .ok text => .ok (String.ofList (unifyLineEnds text.toList))

end FileState

namespace Folder

/-- What stands under a name. -/
def get (folder : Folder) : FileName → FileState
  | .settings => folder.settings
  | .descriptions => folder.descriptions

/-- Put something else under a name. -/
def set (folder : Folder) (file : FileName) (state : FileState) : Folder :=
  match file with
  | .settings => { folder with settings := state }
  | .descriptions => { folder with descriptions := state }

/-- What has been put under a name stands there. -/
@[simp] theorem get_set (folder : Folder) (file : FileName) (state : FileState) :
    (folder.set file state).get file = state := by
  -- Each name has a field of its own.
  cases file <;> rfl

/-- The folder after it has vanished: nothing is left, and nothing can be written any more. -/
def vanish (folder : Folder) : Folder :=
  { folder with settings := .missing, descriptions := .missing, isGone := true }

/-- Write a file: what it held is lost as soon as it is opened,
and a file that does not fit holds what fits. -/
def write (folder : Folder) (file : FileName) (content : ByteArray) :
    Except FileFault Unit × Folder :=
  if folder.isGone then (.error .notFound, folder)
  else
    match folder.get file with
    | .directory => (.error .isDirectory, folder)
    | _ =>
      match folder.room with
      | none => (.ok (), folder.set file (.bytes content))
      | some room =>
        if content.size ≤ room then (.ok (), folder.set file (.bytes content))
        else (.error .noRoom, folder.set file (.bytes (content.extract 0 room)))

/-- Remove a file. -/
def remove (folder : Folder) (file : FileName) : Except FileFault Folder :=
  match folder.get file with
  | .missing => .error .notFound
  | .directory => .error .isDirectory
  | .bytes _ => .ok (folder.set file .missing)

/-- Make a directory under the name of a file. -/
def makeDirectory (folder : Folder) (file : FileName) : Except FileFault Folder :=
  if folder.isGone then .error .notFound
  else
    match folder.get file with
    | .missing => .ok (folder.set file .directory)
    | _ => .error .alreadyExists

end Folder

end DeskCalc.Settings
