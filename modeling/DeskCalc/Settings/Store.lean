import DeskCalc.Journal
import DeskCalc.Json.Printer
import DeskCalc.Json.Reader
import DeskCalc.Number.Places
import DeskCalc.Settings.Folder

/-! The settings: loaded over their defaults, described by a second file, and saved as a whole. -/

namespace DeskCalc.Settings

variable {τ : Type}

/-- The settings of a program whose file says nothing else. -/
def defaults (τ : Type := String) [Text.Coded τ] : Json.Members τ :=
  [(Text.Coded.ofString "darkmode", .bool false), (Text.Coded.ofString "decimal_places", .int 8),
    (Text.Coded.ofString "after_paste_enter", .bool false)]

/-- The fewest decimal places that the dialog accepts. -/
def minPlaces : Int := 2

/-- The key that stands for all settings. -/
def allKey (τ : Type := String) [Text.Coded τ] : τ := Text.Coded.ofString "all"

/-- Why the settings or their descriptions cannot be had. -/
inductive Failure (τ : Type := String)
  | file (fault : FileFault)
  | text (fault : Json.ReadFault)
  | notSettings (found : Json τ)
  | notDescriptions (found : Json τ)

/-- What is shown for a failure, where it has words of its own. -/
def Failure.message? : Failure τ → Option String
  | file (.notText fault) => some fault.message
  | text (.integerTooLong fault) => some fault.message
  | notSettings found => some s!"'{found.kindName}' object is not a mapping"
  | notDescriptions found => some s!"'{found.kindName}' object has no attribute 'get'"
  | _ => none

/-- A result with the entries that came up on the way. -/
structure Noted (α : Type) where
  result : α
  entries : List Journal.Entry := []

/-- The JSON value of a file, or nothing for a file that is missing or holds no JSON. -/
def readFile (file : FileState) (τ : Type := String) [DecidableEq τ] [Text.Coded τ] :
    Except (Failure τ) (Option (Json τ)) :=
  match file.readText with
  | .error .notFound => .ok none
  | .error fault => .error (.file fault)
  | .ok text =>
    match Json.read text τ with
    | .ok value => .ok (some value)
    -- A file without JSON counts as missing, but one that cannot be read does not.
    | .error .malformed => .ok none
    | .error fault => .error (.text fault)

/-- All settings: those of the file over the defaults,
or the defaults where there is no readable file. -/
def loadAll (folder : Folder) (τ : Type := String) [DecidableEq τ] [Text.Coded τ] :
    Noted (Except (Failure τ) (Json.Members τ)) :=
  match readFile folder.settings τ with
  | .error failure => { result := .error failure }
  | .ok none =>
    { result := .ok (defaults τ),
      entries := [⟨.warning, "The settings could not be read, the defaults are used."⟩] }
  | .ok (some (.object members)) => { result := .ok ((defaults τ).override members) }
  | .ok (some found) => { result := .error (.notSettings found) }

/-- The value of a key among the settings, its default, or nothing. -/
def valueOf [DecidableEq τ] [Text.Coded τ] (settings : Json.Members τ) (key : τ) : Json τ :=
  if key == allKey τ then .object settings
  else ((settings.get? key).orElse fun _ => (defaults τ).get? key).getD .null

/-- Load the value of one setting, or of all. -/
def load [DecidableEq τ] [Text.Coded τ] (folder : Folder) (key : τ) :
    Noted (Except (Failure τ) (Json τ)) :=
  let all := loadAll folder τ
  { all with result := all.result.map (valueOf · key) }

/-- The descriptions as their file holds them; without a readable file there are none. -/
def loadDescriptions (folder : Folder) : Noted (Except Failure Json) :=
  match readFile folder.descriptions with
  | .error failure => { result := .error failure }
  | .ok none =>
    { result := .ok (.object []),
      entries := [⟨.warning, "The descriptions could not be read."⟩] }
  | .ok (some found) => { result := .ok found }

/-- The description of a key, which is the key itself where the descriptions do not know it. -/
def describedBy (descriptions : Json) (key : String) : Except Failure Json :=
  match descriptions with
  | .object members => .ok ((Json.Members.get? members key).getD (.text key))
  | found => .error (.notDescriptions found)

/-- The description of one setting, or all of them;
without a readable file every key gets all of them. -/
def describe (folder : Folder) (key : String) : Noted (Except Failure Json) :=
  match readFile folder.descriptions with
  | .ok (some found) =>
    { result := if key == allKey then .ok found else describedBy found key }
  | _ => loadDescriptions folder

/-- A save: the value that was saved, which is an empty object after a failure,
and the folder after it. -/
structure Saved (τ : Type := String) where
  value : Json τ
  folder : Folder
  entries : List Journal.Entry := []

/-- Save a value as the settings. -/
def save [Text.Coded τ] (folder : Folder) (value : Json τ) : Saved τ :=
  match folder.write .settings value.toText.toUTF8 with
  | (.ok (), folder) => { value, folder }
  | (.error _, folder) =>
    { value := .object [], folder, entries := [⟨.error, "The settings could not be saved."⟩] }

/-- Load all settings, give one of them a value, and save them. -/
def update [DecidableEq τ] [Text.Coded τ] (folder : Folder) (key : τ) (value : Json τ) :
    Noted (Except (Failure τ) (Json τ)) × Folder :=
  let all := loadAll folder τ
  match all.result with
  | .error failure => ({ all with result := .error failure }, folder)
  | .ok settings =>
    let saved := save folder (.object (settings.put key value))
    ({ result := .ok saved.value, entries := all.entries ++ saved.entries }, saved.folder)

/-- The decimal places that a value of that setting asks for. -/
def placesOf (setting : Json) : Number.Places :=
  .ofText setting.words

/-- The decimal places that the settings ask for. -/
def places (settings : Json.Members) : Number.Places :=
  placesOf (valueOf settings "decimal_places")

/-- Whether a setting counts as yes. -/
def isOn (settings : Json.Members) (key : String) : Bool :=
  (valueOf settings key).isTruthy

end DeskCalc.Settings
