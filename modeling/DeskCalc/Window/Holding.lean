import DeskCalc.Window.Calculating

/-! Buttons that repeat while they are held down. -/

namespace DeskCalc.Window

/-- How long a button is held before it repeats, in milliseconds. -/
def initialDelay : Nat := 500

/-- How long a repeating button takes to repeat again, in milliseconds. -/
def repeatInterval : Nat := 100

/-- A repeating button goes down: the timer starts with the long delay. -/
def holdButton (window : Window) (button : String) : Window :=
  { window with wasHeld := false, heldButton := some button, timer := some initialDelay }

/-- A repeating button comes up: the timer stops. -/
def releaseButton (window : Window) : Window :=
  { window with timer := none, heldButton := none }

/-- A repeating button is clicked, which counts unless the timer has pressed it already. -/
def clickRepeating (window : Window) (button : String) : Window × Response :=
  if window.wasHeld then (window, {}) else window.pressButton button

/-- The timer fires: the held button is pressed, and from now on it repeats quickly. -/
def tick (window : Window) : Window × Response :=
  match window.timer with
  | none => (window, {})
  | some interval =>
    let timer := some (if interval == initialDelay then repeatInterval else interval)
    let window := { window with wasHeld := true, timer }
    match window.heldButton with
    | none => (window, {})
    | some button => window.pressButton button

end DeskCalc.Window
