import DeskCalc.Fault
import DeskCalc.Settings.Store
import DeskCalc.Text.Integer
import DeskCalc.Window.Theme

/-! The settings dialog: a checkbox for each setting that is true or false,
a field for each integer. -/

namespace DeskCalc.Window

/-- What a setting is edited with. -/
inductive Control
  | checkbox (checked : Bool)
  | field (placeholder text : String)

/-- A row of the dialog: the setting it edits, how it is labelled, and its control. -/
structure Row where
  key : String
  label : Json
  control : Control

/-- How a dialog was closed. -/
inductive Closing
  | accepted
  | rejected
deriving DecidableEq

/-- The dialog: the settings as they will be saved, the rows as they stand,
and what it has led to. -/
structure Dialog where
  settings : Json.Members
  rows : List Row
  closing : Option Closing := none
  saves : Nat := 0
  messages : List (String × String) := []
  entries : List Journal.Entry := []

/-- What a user does in the dialog. -/
inductive Action
  | check (key : String) (checked : Bool)
  | type (key : String) (text : String)
  | ok
  | cancel
  | loseFolder

namespace Dialog

/-- The title of the dialog. -/
def title : String := "Calculator Settings"

/-- The smallest size of the dialog. -/
def minSize : Nat × Nat := (300, 160)

/-- The row for a setting, if its value is of a kind that can be edited. -/
def rowFor? (description : Json) (key : String) : Json → Option Row
  | .bool checked => some ⟨key, description, .checkbox checked⟩
  | .int value =>
    let label := s!"{description.words} (min. {Settings.minPlaces}):"
    some ⟨key, .text label, .field (toString value) ""⟩
  | _ => none

/-- The rows for settings in their order. -/
def rowsFor (descriptions : Json) : Json.Members → Except Settings.Failure (List Row)
  | [] => .ok []
  | (key, value) :: rest =>
    match Settings.describedBy descriptions key with
    | .error failure => .error failure
    | .ok description =>
      (rowsFor descriptions rest).map ((rowFor? description key value).toList ++ ·)

/-- Open the dialog on the settings of a folder. -/
def open? (folder : Settings.Folder) : Except Settings.Failure Dialog :=
  match (Settings.loadAll folder).result with
  | .error failure => .error failure
  | .ok settings =>
    match (Settings.loadDescriptions folder).result with
    | .error failure => .error failure
    | .ok descriptions =>
      (rowsFor descriptions settings).map fun rows => { settings, rows }

/-- The style sheet of a dialog on settings. -/
def style (settings : Json.Members) : String :=
  Theme.dialogStyle (Settings.isOn settings "darkmode")

/-- Whether a row edits the setting of a key. -/
def hasRow (dialog : Dialog) (key : String) : Bool :=
  dialog.rows.any (·.key == key)

/-- Change the control of a key. -/
def edit (dialog : Dialog) (key : String) (change : Control → Control) : Dialog :=
  { dialog with
    rows := dialog.rows.map fun row =>
      if row.key == key then { row with control := change row.control } else row }

/-- The number in a field: blank keeps the old one, and too few decimal places are refused. -/
def fieldValue (key text : String) : Except String (Option Int) :=
  let text := Text.trimmed text
  if text == "" then .ok none
  else
    match Text.readInteger text with
    | .error fault => .error fault.message
    | .ok value =>
      if key == "decimal_places" && value < Settings.minPlaces then
        .error s!"'{value}' is too small. Minimum is {Settings.minPlaces}."
      else .ok (some value)

/-- Take the rows over into settings one by one, up to the first that is refused:
its key and why. -/
def collect (settings : Json.Members) : List Row → Json.Members × Option (String × String)
  | [] => (settings, none)
  | ⟨key, _, .checkbox checked⟩ :: rest => collect (settings.put key (.bool checked)) rest
  | ⟨key, _, .field _ text⟩ :: rest =>
    match fieldValue key text with
    -- What stands above the refused row has been taken over by now.
    | .error reason => (settings, some (key, reason))
    | .ok none => collect settings rest
    | .ok (some value) => collect (settings.put key (.int value)) rest

/-- Refuse the settings because of a row. -/
def refuse (dialog : Dialog) (key reason : String) : Dialog :=
  { dialog with
    messages := dialog.messages ++ [("Invalid Input:",
      s!"Error in input for '{key}':\n\n{reason}\n\nPlease correct your input.")]
    entries := dialog.entries ++ [⟨.info, s!"Invalid input for {key}: {reason}"⟩] }

/-- Say that the settings could not be saved. -/
def reportUnsaved (dialog : Dialog) : Dialog :=
  { dialog with
    messages := dialog.messages ++
      [("Error", s!"Error 4501: {Fault.notSaved}config.json")] }

/-- Accept the rows: what was taken over before a refusal stays in the settings of the dialog. -/
def accept (folder : Settings.Folder) (dialog : Dialog) : Dialog × Settings.Folder :=
  match collect dialog.settings dialog.rows with
  | (settings, some (key, reason)) => ({ dialog with settings }.refuse key reason, folder)
  | (settings, none) =>
    let dialog := { dialog with settings }
    let saved := Settings.save folder (.object settings)
    match saved.value with
    | .object [] => (dialog.reportUnsaved, saved.folder)
    | _ => ({ dialog with closing := some .accepted, saves := dialog.saves + 1 }, saved.folder)

/-- Do one action; a control that the dialog does not have cannot be used. -/
def act (folder : Settings.Folder) (dialog : Dialog) :
    Action → Except String (Dialog × Settings.Folder)
  | .check key checked =>
    if dialog.hasRow key then
      let change : Control → Control
        | .checkbox _ => .checkbox checked
        | control => control
      .ok (dialog.edit key change, folder)
    else .error key
  | .type key text =>
    if dialog.hasRow key then
      let change : Control → Control
        | .field placeholder _ => .field placeholder text
        | control => control
      .ok (dialog.edit key change, folder)
    else .error key
  | .ok => .ok (accept folder dialog)
  | .cancel => .ok ({ dialog with closing := some .rejected }, folder)
  | .loseFolder => .ok (dialog, folder.vanish)

/-- How a session with the dialog ended: the dialog, the folder,
and the key of a control it did not have. -/
structure Session where
  dialog : Dialog
  folder : Settings.Folder
  unknownKey : Option String := none

/-- Do actions in order, until the dialog is closed or one of them cannot be done. -/
def run (folder : Settings.Folder) (dialog : Dialog) : List Action → Session
  | [] => { dialog, folder }
  | action :: rest =>
    -- A closed dialog takes no more actions.
    if dialog.closing.isSome then { dialog, folder }
    else
      match act folder dialog action with
      | .error key => { dialog, folder, unknownKey := some key }
      | .ok (dialog, folder) => run folder dialog rest

end Dialog

end DeskCalc.Window
