import DeskCalc.Window.Holding
import DeskCalc.Window.Keyboard

/-! The desk: the window with the clipboard, the keyboard and the folder around it. -/

namespace DeskCalc.Window

/-- The window on its desk: the clipboard's text, whether the keyboard reports shift,
and the folder. -/
structure Desk where
  window : Window
  clipboard : String := ""
  isShiftReported : Bool := false
  folder : Settings.Folder

/-- What happens to the window. -/
inductive Event
  | click (button : String)
  | mouseDown (button : String)
  | mouseUp (button : String)
  | tick
  | keyDown (key : Key) (text : String)
  | keyUp (key : Key)
  | finish
  | world (clipboard : Option String) (isShiftReported : Option Bool)
  | openSettings (actions : List Action)
  | inspectStyles

/-- Paste text into the expression, and start to calculate where the settings ask for it. -/
def paste (window : Window) (text : String) : Window × Response :=
  if Text.allBlank text then (window, {})
  else
    let window := { window with display := window.display.paste text }.refresh
    if Settings.isOn window.settings "after_paste_enter" then window.startCalculation
    else (window, {})

namespace Desk

/-- Open a window on the settings of a folder. -/
def open? (folder : Settings.Folder) : Except Settings.Failure Desk :=
  (Settings.loadAll folder).result.map fun settings =>
    { window := .ofSettings settings, folder }

/-- The desk after its window has changed. -/
def withWindow (desk : Desk) (change : Window × Response) : Desk × Response :=
  ({ desk with window := change.1 }, change.2)

/-- The clipboard button: with shift it pastes, without it copies the result. -/
def useClipboard (desk : Desk) : Desk × Response :=
  if desk.window.isShiftHeld || desk.isShiftReported then
    desk.withWindow (desk.window.paste desk.clipboard)
  else (desk, { copied := some desk.window.display.result })

/-- Load the settings again and show their theme. -/
def reloadSettings (desk : Desk) : Except Settings.Failure Desk :=
  (Settings.loadAll desk.folder).result.map fun settings =>
    { desk with window := { desk.window with settings }.paint }

/-- Open the settings dialog, use it, and load the settings again unless it was interrupted. -/
def openSettings (desk : Desk) (actions : List Action) : Desk × Response :=
  match Dialog.open? desk.folder with
  | .error failure =>
    (desk, { interruption := some (.settings failure), dialogs := some [] })
  | .ok dialog =>
    -- The folder keeps what the dialog has written, even if it was interrupted.
    let session := dialog.run desk.folder actions
    let ended := session.dialog
    let desk := { desk with folder := session.folder }
    let report (ending : Option (Option Closing × Nat)) : Option (List DialogReport) :=
      some [{ rows := dialog.rows, style := Dialog.style dialog.settings, ending }]
    let response : Response := { entries := ended.entries, messages := ended.messages }
    match session.unknownKey with
    | some key =>
      (desk, { response with
        interruption := some (.unknownControl key), dialogs := report none })
    | none =>
      let response := { response with dialogs := report (some (ended.closing, ended.saves)) }
      match desk.reloadSettings with
      | .ok desk => (desk, response)
      | .error failure => (desk, { response with interruption := some (.settings failure) })

/-- A button comes up and is clicked. -/
def mouseUp (desk : Desk) (button : String) : Desk × Response :=
  if button == settingsButton then desk.openSettings []
  else if button == clipboardButton then desk.useClipboard
  else if repeatingButtons.contains button then
    desk.withWindow (desk.window.releaseButton.clickRepeating button)
  else desk.withWindow (desk.window.pressButton button)

/-- A button goes down, which only matters for one that repeats. -/
def mouseDown (desk : Desk) (button : String) : Desk :=
  if repeatingButtons.contains button then
    { desk with window := desk.window.holdButton button }
  else desk

/-- What an event does to the desk. -/
def step (desk : Desk) : Event → Desk × Response
  | .click button => (desk.mouseDown button).mouseUp button
  | .mouseDown button => (desk.mouseDown button, {})
  | .mouseUp button => desk.mouseUp button
  | .tick => desk.withWindow desk.window.tick
  | .keyDown key text => desk.withWindow (desk.window.keyDown key text)
  | .keyUp key => desk.withWindow (desk.window.keyUp key)
  | .finish => desk.withWindow desk.window.finish
  | .world clipboard isShiftReported =>
    ({ desk with
      clipboard := clipboard.getD desk.clipboard
      isShiftReported := isShiftReported.getD desk.isShiftReported }, {})
  | .openSettings actions => desk.openSettings actions
  | .inspectStyles => (desk, { styles := some desk.window.styles })

end Desk

end DeskCalc.Window
