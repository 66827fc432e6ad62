import DeskCalc.Window.Response

/-! Buttons change the display at once, but equals starts a job whose outcome is delivered later. -/

namespace DeskCalc.Window

/-- Press a button of the display and show the result; a press that fails changes nothing. -/
def pressDisplay (window : Window) (button : String) : Window × Response :=
  match window.display.press button with
  | .ok display => ({ window with display }.refresh, {})
  | .error failure => (window, { interruption := some (.press failure) })

/-- Start to calculate the expression in the background,
unless that is going on or there is none. -/
def startCalculation (window : Window) : Window × Response :=
  if window.isRunning then
    (window, { entries := [⟨.info, s!"Error 4002: {Fault.alreadyRunning}"⟩] })
  else if Text.allBlank window.display.expression then window.pressDisplay "="
  else
    -- The job keeps the expression of this moment, while the display stays open to changes.
    let job := window.display.expression
    ({ { window with isRunning := true }.paintEquals with
      lower := "...", jobs := window.jobs ++ [job] }, {})

/-- Press a button: equals starts a calculation, every other button changes the display. -/
def pressButton (window : Window) (button : String) : Window × Response :=
  if button == "=" then window.startCalculation else window.pressDisplay button

/-- The outcome of a job with the entries about it;
what fails in any other way is a fault of its own. -/
def outcomeOf (job : String) : Outcome × List Journal.Entry :=
  match (calculate (some job)).outcome with
  | .ok outcome => (outcome, [])
  | .error failure =>
    (.fault { cause := .unforeseen s!"Unexpected crash: {failure.message}", equation := some job },
      [⟨.error, s!"Unexpected crash while calculating {Text.quoted job}"⟩])

/-- The entry about an outcome that is a fault. -/
def faultEntries (job : String) : Outcome → List Journal.Entry
  | .value _ => []
  | .fault fault =>
    [⟨.info, s!"Error {fault.code} ({fault.kind}) in {Text.quoted job}: {fault.message}"⟩]

/-- Deliver the outcome of a job: it is put onto the display as that is by now. -/
def deliver (window : Window) (job : String) : Window × Response :=
  let (outcome, crash) := outcomeOf job
  -- The window is idle again even if the outcome cannot be shown.
  let window := { window with isRunning := false }.paintEquals
  let entries := crash ++ faultEntries job outcome
  match window.display.applyOutcome outcome (Settings.places window.settings) with
  | .ok display => ({ window with display }.refresh, { entries })
  | .error fault => (window, { entries, interruption := some (.press (.places fault)) })

/-- Deliver the outcome of the job that has waited longest. -/
def finish (window : Window) : Window × Response :=
  let waitingJobs := some window.jobs.length
  match window.jobs with
  | [] => (window, { waitingJobs })
  | job :: jobs =>
    let (window, response) := { window with jobs }.deliver job
    (window, { response with waitingJobs })

end DeskCalc.Window
