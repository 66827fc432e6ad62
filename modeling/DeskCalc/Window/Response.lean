import DeskCalc.Window.Basic
import DeskCalc.Window.Dialog

/-! What an event brings besides the change of the window. -/

namespace DeskCalc.Window

/-- What leaves a handler before it is done. -/
inductive Interruption
  | press (failure : PressFailure)
  | settings (failure : Settings.Failure)
  | unknownControl (key : String)

/-- What a dialog looked like when it opened, and how it ended if it did. -/
structure DialogReport where
  rows : List Row
  style : String
  ending : Option (Option Closing × Nat)

/-- What an event brings besides the change of the window. -/
structure Response where
  entries : List Journal.Entry := []
  interruption : Option Interruption := none
  copied : Option String := none
  isAccepted : Option Bool := none
  waitingJobs : Option Nat := none
  dialogs : Option (List DialogReport) := none
  messages : List (String × String) := []
  styles : Option Styles := none

end DeskCalc.Window
