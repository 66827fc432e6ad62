import DeskCalc.Window.Desk

/-! Inputs: which button an event presses or which text it pastes,
and what inputs make of the display while a calculation is running. -/

namespace DeskCalc

namespace Display

/-- The display after a button of its own, which stays as it is where the press fails. -/
def pressed (display : Display) (button : String) : Display :=
  match display.press button with
  | .ok next => next
  | .error _ => display

/-- A press without anything to be calculated succeeds, and whatever the places are it does
the same. -/
theorem exists_press {display : Display} {button : String}
    (easy : button ≠ "=" ∨ Text.allBlank display.expression = true) :
    ∃ next, ∀ places, display.press button places = .ok next := by
  by_cases equals : button = "="
  · have blank := easy.resolve_left fun other => other equals
    exact ⟨_, fun places => by simp [press, equals, Display.equals, blank]; rfl⟩
  · -- Every other button has its own branch, which does not ask for the places.
    by_cases clears : button = "C"
    · exact ⟨clear, fun places => by simp [press, clears]⟩
    · by_cases deletes : button = "DEL"
      · exact ⟨display.deleteLast, fun places => by simp [press, deletes]⟩
      · exact ⟨display.appendToken button, fun places => by simp [press, equals, clears, deletes]⟩

end Display

namespace Window

/-- What the user puts into the window. -/
inductive Input
  | press (button : String)
  | paste (text : String)

/-- Put an input into the window. -/
def take (window : Window) : Input → Window × Response
  | .press button => window.pressButton button
  | .paste text => window.paste text

/-- What an input makes of the display while a calculation is running:
the equals button waits for it, and everything else acts as ever. -/
def Input.edit (display : Display) : Input → Display
  | press button => if button == "=" then display else display.pressed button
  | paste text => if Text.allBlank text then display else display.paste text

/-- Two windows have the same display on the same lines and wait for the same calculations. -/
structure SameWork (first second : Window) : Prop where
  display : first.display = second.display
  isRunning : first.isRunning = second.isRunning
  jobs : first.jobs = second.jobs
  upper : first.upper = second.upper
  lower : first.lower = second.lower

theorem SameWork.refl (window : Window) : SameWork window window :=
  ⟨rfl, rfl, rfl, rfl, rfl⟩

theorem SameWork.trans {first second third : Window} (left : SameWork first second)
    (right : SameWork second third) : SameWork first third :=
  ⟨left.display.trans right.display, left.isRunning.trans right.isRunning,
    left.jobs.trans right.jobs, left.upper.trans right.upper, left.lower.trans right.lower⟩

section Buttons

variable (window : Window) (button : String)

@[simp] theorem pressDisplay_display :
    (window.pressDisplay button).1.display = window.display.pressed button := by
  -- A press that fails leaves the window as it is, and with it the display.
  unfold pressDisplay Display.pressed
  cases window.display.press button <;> rfl

@[simp] theorem pressDisplay_isRunning :
    (window.pressDisplay button).1.isRunning = window.isRunning := by
  unfold pressDisplay
  cases window.display.press button <;> rfl

@[simp] theorem pressDisplay_jobs : (window.pressDisplay button).1.jobs = window.jobs := by
  unfold pressDisplay
  cases window.display.press button <;> rfl

/-- The lines show the display that a press has changed, and stay where the press fails. -/
theorem pressDisplay_lines : (window.pressDisplay button).1.upper =
      (match window.display.press button with
        | .ok next => next.expression
        | .error _ => window.upper) ∧
    (window.pressDisplay button).1.lower =
      (match window.display.press button with
        | .ok next => next.result
        | .error _ => window.lower) := by
  unfold pressDisplay
  cases window.display.press button <;> exact ⟨rfl, rfl⟩

/-- Equals only changes the display where nothing is to be calculated. -/
theorem startCalculation_display : window.startCalculation.1.display =
    if window.isRunning then window.display
    else if Text.allBlank window.display.expression then window.display.pressed "="
    else window.display := by
  -- Nothing is calculated where a calculation is running or the expression is blank.
  unfold startCalculation
  by_cases running : window.isRunning = true
  · simp [running]
  · by_cases blank : Text.allBlank window.display.expression = true
    · simp [running, blank]
    · simp [running, blank, paintEquals]

/-- Behind equals a calculation is running, unless there was nothing to be calculated. -/
theorem startCalculation_isRunning : window.startCalculation.1.isRunning =
    (window.isRunning || !Text.allBlank window.display.expression) := by
  -- A blank expression is shown as a fault at once, and a running calculation goes on.
  unfold startCalculation
  by_cases running : window.isRunning = true
  · simp [running]
  · by_cases blank : Text.allBlank window.display.expression = true
    · simp [running, blank]
    · simp [running, blank, paintEquals]

/-- Equals starts no second calculation. -/
theorem startCalculation_jobs : window.startCalculation.1.jobs =
    if window.isRunning || Text.allBlank window.display.expression then window.jobs
    else window.jobs ++ [window.display.expression] := by
  -- Only where a calculation is started does one wait.
  unfold startCalculation
  by_cases running : window.isRunning = true
  · simp [running]
  · by_cases blank : Text.allBlank window.display.expression = true
    · simp [running, blank]
    · simp [running, blank]

/-- Equals lets the lower line wait where it starts a calculation. -/
theorem startCalculation_lines : window.startCalculation.1.upper =
      (if window.isRunning then window.upper
        else if Text.allBlank window.display.expression then (window.pressDisplay "=").1.upper
        else window.upper) ∧
    window.startCalculation.1.lower =
      (if window.isRunning then window.lower
        else if Text.allBlank window.display.expression then (window.pressDisplay "=").1.lower
        else "...") := by
  -- The lines are those of the display where equals is pressed at once.
  unfold startCalculation
  by_cases running : window.isRunning = true
  · simp [running]
  · by_cases blank : Text.allBlank window.display.expression = true
    · simp [running, blank]
    · simp [running, blank, paintEquals]

end Buttons

/-- A button that changes the display does the same to the same work. -/
theorem SameWork.pressDisplay {first second : Window} (same : SameWork first second)
    (button : String) : SameWork (first.pressDisplay button).1 (second.pressDisplay button).1 := by
  obtain ⟨firstUpper, firstLower⟩ := first.pressDisplay_lines button
  obtain ⟨secondUpper, secondLower⟩ := second.pressDisplay_lines button
  -- Each part of the work only depends on the same part, and on the display.
  constructor
  · rw [pressDisplay_display, pressDisplay_display, same.display]
  · rw [pressDisplay_isRunning, pressDisplay_isRunning, same.isRunning]
  · rw [pressDisplay_jobs, pressDisplay_jobs, same.jobs]
  · rw [firstUpper, secondUpper, same.display, same.upper]
  · rw [firstLower, secondLower, same.display, same.lower]

/-- A button does the same to the same work. -/
theorem SameWork.pressButton {first second : Window} (same : SameWork first second)
    (button : String) : SameWork (first.pressButton button).1 (second.pressButton button).1 := by
  -- What a button does to the work only depends on the work.
  unfold Window.pressButton
  by_cases equals : (button == "=") = true
  · rw [if_pos equals, if_pos equals]
    obtain ⟨firstUpper, firstLower⟩ := first.startCalculation_lines
    obtain ⟨secondUpper, secondLower⟩ := second.startCalculation_lines
    have pressed := same.pressDisplay "="
    constructor
    · rw [startCalculation_display, startCalculation_display, same.isRunning, same.display]
    · rw [startCalculation_isRunning, startCalculation_isRunning, same.isRunning, same.display]
    · rw [startCalculation_jobs, startCalculation_jobs, same.isRunning, same.display, same.jobs]
    · rw [firstUpper, secondUpper, same.isRunning, same.display, pressed.upper, same.upper]
    · rw [firstLower, secondLower, same.isRunning, same.display, pressed.lower, same.lower]
  · rw [if_neg equals, if_neg equals]
    exact same.pressDisplay button

/-- While a calculation is running an input only edits the display. -/
theorem take_of_running {window : Window} (running : window.isRunning = true) (input : Input) :
    (window.take input).1.display = input.edit window.display ∧
      (window.take input).1.isRunning = true ∧ (window.take input).1.jobs = window.jobs := by
  -- Equals is refused, also behind a paste, and nothing else asks whether a calculation is running.
  cases input with
  | press button =>
    by_cases equals : (button == "=") = true
    · simp [take, pressButton, Input.edit, equals, startCalculation_display,
        startCalculation_isRunning, startCalculation_jobs, running]
    · simp [take, pressButton, Input.edit, equals, running]
  | paste text =>
    by_cases blank : Text.allBlank text = true
    · simp [take, paste, Input.edit, blank, running]
    · by_cases starts : Settings.isOn window.settings "after_paste_enter" = true
      · simp [take, paste, Input.edit, blank, refresh, starts, startCalculation_display,
          startCalculation_isRunning, startCalculation_jobs, running]
      · simp [take, paste, Input.edit, blank, refresh, starts, running]

/-- Where no calculation is running an input may start one, of the expression that is then shown. -/
theorem take_of_idle {window : Window} (idle : window.isRunning = false) (input : Input) :
    ((window.take input).1.isRunning = false ∧ (window.take input).1.jobs = window.jobs) ∨
    ((window.take input).1.isRunning = true ∧ (window.take input).1.jobs =
      window.jobs ++ [(window.take input).1.display.expression]) := by
  -- Only equals starts a calculation, and it leaves the display as it is when it does.
  have equals (other : Window) (idle : other.isRunning = false) :
      (other.startCalculation.1.isRunning = false ∧ other.startCalculation.1.jobs = other.jobs) ∨
      (other.startCalculation.1.isRunning = true ∧ other.startCalculation.1.jobs =
        other.jobs ++ [other.startCalculation.1.display.expression]) := by
    rw [startCalculation_display, startCalculation_isRunning, startCalculation_jobs, idle]
    by_cases blank : Text.allBlank other.display.expression = true
    · simp [blank]
    · simp [blank]
  cases input with
  | press button =>
    by_cases isEquals : (button == "=") = true
    · simpa only [take, pressButton, isEquals, if_true] using equals window idle
    · left
      simp [take, pressButton, isEquals, idle]
  | paste text =>
    by_cases blank : Text.allBlank text = true
    · left
      simp [take, paste, blank, idle]
    · by_cases starts : Settings.isOn window.settings "after_paste_enter" = true
      · have started := equals { window with display := window.display.paste text }.refresh idle
        simpa only [take, paste, blank, Bool.false_eq_true, if_false, refresh, starts, if_true]
          using started
      · left
        simp [take, paste, blank, refresh, starts, idle]

/-- A button that repeats is neither that of the settings nor that of the clipboard. -/
theorem other_of_repeats {button : String} (repeats : repeatingButtons.contains button = true) :
    (button == settingsButton) = false ∧ (button == clipboardButton) = false := by
  rw [List.contains_iff_mem] at repeats
  revert button
  decide

/-- The input of a button that comes up. -/
def Desk.releasedInput? (desk : Desk) (button : String) : Option Input :=
  if button == settingsButton then none
  else if button == clipboardButton then
    if desk.window.isShiftHeld || desk.isShiftReported then some (.paste desk.clipboard) else none
  else if repeatingButtons.contains button && desk.window.wasHeld then none
  else some (.press button)

/-- The button that a key presses. -/
def keyButton? (key : Key) (text : String) : Option String :=
  match key with
  | .shift => none
  | key => (shortcut? key).orElse fun _ => if isTyped text then some text else none

/-- The input that an event is at a desk, if it is one. -/
def Desk.input? (desk : Desk) : Event → Option Input
  | .click button => (desk.mouseDown button).releasedInput? button
  | .mouseUp button => desk.releasedInput? button
  | .tick => desk.window.timer.bind fun _ => desk.window.heldButton.map .press
  | .keyDown key text => (keyButton? key text).map .press
  | _ => none

/-- The window with the input of an event, if it is one. -/
def Desk.windowWith (desk : Desk) (input? : Option Input) : Window :=
  match input? with
  | none => desk.window
  | some input => (desk.window.take input).1

namespace Desk

/-- A desk without any files. -/
def bare : Desk :=
  { window := .ofSettings Settings.defaults, folder := {} }

/-- A third is typed and calculated. -/
def typedThird : List Event :=
  [.click "1", .click "/", .click "3", .click "=", .finish]

/-- A settings dialog leaves the work as it is. -/
theorem openSettings_sameWork (desk : Desk) (actions : List Action) :
    SameWork (desk.openSettings actions).1.window desk.window := by
  -- It may load other settings and paint the window anew, and nothing else.
  unfold openSettings
  cases Dialog.open? desk.folder with
  | error failure => exact .refl _
  | ok dialog =>
    simp only [reloadSettings]
    cases (dialog.run desk.folder actions).unknownKey with
    | some key => exact .refl _
    | none =>
      cases (Settings.loadAll (dialog.run desk.folder actions).folder).result with
      | ok settings => exact ⟨rfl, rfl, rfl, rfl, rfl⟩
      | error failure => exact .refl _

/-- A button that goes down leaves the work as it is. -/
theorem mouseDown_sameWork (desk : Desk) (button : String) :
    SameWork (desk.mouseDown button).window desk.window := by
  -- Going down starts the timer of a button that repeats, and nothing else.
  unfold mouseDown
  by_cases repeats : repeatingButtons.contains button = true
  · rw [if_pos repeats]
    exact ⟨rfl, rfl, rfl, rfl, rfl⟩
  · rw [if_neg repeats]
    exact .refl _

/-- A button that comes up is its input and nothing else. -/
theorem mouseUp_sameWork (desk : Desk) (button : String) :
    SameWork (desk.mouseUp button).1.window (desk.windowWith (desk.releasedInput? button)) := by
  -- The settings and the clipboard have buttons of their own; the others press or have repeated.
  unfold mouseUp releasedInput?
  by_cases settings : (button == settingsButton) = true
  · rw [if_pos settings, if_pos settings]
    exact desk.openSettings_sameWork []
  · rw [if_neg settings, if_neg settings]
    by_cases clipboard : (button == clipboardButton) = true
    · -- Without shift the result is copied, which changes nothing.
      rw [if_pos clipboard, if_pos clipboard]
      unfold useClipboard
      by_cases shift : (desk.window.isShiftHeld || desk.isShiftReported) = true
      · rw [if_pos shift, if_pos shift]
        exact .refl _
      · rw [if_neg shift, if_neg shift]
        exact .refl _
    · rw [if_neg clipboard, if_neg clipboard]
      by_cases repeats : repeatingButtons.contains button = true
      · -- The timer has pressed a button that was held, so coming up does not count.
        rw [if_pos repeats, repeats, Bool.true_and]
        cases held : desk.window.wasHeld with
        | true =>
          have silent : (desk.window.releaseButton.clickRepeating button).1 =
              desk.window.releaseButton := by
            simp [clickRepeating, releaseButton, held]
          rw [withWindow, silent]
          exact ⟨rfl, rfl, rfl, rfl, rfl⟩
        | false =>
          have clicked : desk.window.releaseButton.clickRepeating button =
              desk.window.releaseButton.pressButton button := by
            simp [clickRepeating, releaseButton, held]
          rw [withWindow, clicked, if_neg Bool.false_ne_true]
          refine SameWork.pressButton ?_ button
          exact ⟨rfl, rfl, rfl, rfl, rfl⟩
      · rw [if_neg repeats, Bool.not_eq_true _ |>.mp repeats, Bool.false_and]
        exact .refl _

/-- A click is the input of a button that has gone down. -/
theorem click_sameWork (desk : Desk) (button : String) :
    SameWork (desk.step (.click button)).1.window
      (desk.windowWith ((desk.mouseDown button).releasedInput? button)) := by
  have released := (desk.mouseDown button).mouseUp_sameWork button
  by_cases repeats : repeatingButtons.contains button = true
  · -- A button that repeats is not the one that pastes, so what it went down on does not matter.
    obtain ⟨noSettings, noClipboard⟩ := other_of_repeats repeats
    have input : (desk.mouseDown button).releasedInput? button = some (.press button) := by
      rw [releasedInput?, noSettings, noClipboard, mouseDown, if_pos repeats]
      simp [holdButton]
    rw [input] at released ⊢
    exact released.trans ((desk.mouseDown_sameWork button).pressButton button)
  · have same : desk.mouseDown button = desk := by
      rw [mouseDown, if_neg repeats]
    rw [same] at released ⊢
    rwa [step, same]

/-- A tick presses the button that is held down. -/
theorem tick_sameWork (desk : Desk) :
    SameWork desk.window.tick.1 (desk.windowWith (desk.input? .tick)) := by
  -- Without a timer or without a button that is held nothing is pressed.
  unfold tick input?
  cases desk.window.timer with
  | none => exact .refl _
  | some interval =>
    cases held : desk.window.heldButton with
    | none => exact ⟨rfl, rfl, rfl, rfl, rfl⟩
    | some button =>
      refine SameWork.pressButton ?_ button
      exact ⟨rfl, rfl, rfl, rfl, rfl⟩

/-- A key presses the button that it stands for. -/
theorem keyDown_sameWork (desk : Desk) (key : Key) (text : String) :
    SameWork (desk.window.keyDown key text).1
      (desk.windowWith (desk.input? (.keyDown key text))) := by
  cases key with
  | shift => exact ⟨rfl, rfl, rfl, rfl, rfl⟩
  | enter | backspace | escape => exact .refl _
  | other =>
    -- Any other key types its text, if that can be typed.
    simp only [Window.keyDown, input?, keyButton?, shortcut?, Option.orElse_none]
    by_cases typed : isTyped text = true
    · rw [if_pos typed, if_pos typed]
      exact .refl _
    · rw [if_neg typed, if_neg typed]
      exact .refl _

/-- An event that delivers nothing is its input and nothing else. -/
theorem step_sameWork (desk : Desk) {event : Event} (undelivered : event ≠ .finish) :
    SameWork (desk.step event).1.window (desk.windowWith (desk.input? event)) := by
  -- Each kind of event has its own lemma, or leaves the work as it is.
  cases event with
  | click button => exact desk.click_sameWork button
  | mouseDown button => exact desk.mouseDown_sameWork button
  | mouseUp button => exact desk.mouseUp_sameWork button
  | tick => exact desk.tick_sameWork
  | keyDown key text => exact desk.keyDown_sameWork key text
  | keyUp key => cases key <;> exact ⟨rfl, rfl, rfl, rfl, rfl⟩
  | finish => exact absurd rfl undelivered
  | world clipboard shift => exact .refl _
  | openSettings actions => exact desk.openSettings_sameWork actions
  | inspectStyles => exact .refl _

end Desk

end Window

end DeskCalc
