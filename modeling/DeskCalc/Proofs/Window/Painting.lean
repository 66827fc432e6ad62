import DeskCalc.Window.Desk

/-! Painting: a window has the theme that its settings ask for, and the equals button shows in it
whether a calculation is running. -/

namespace DeskCalc.Window

/-- A window is painted: in the theme that its settings ask for, with the equals button
in the colour for what is going on. -/
structure IsPainted (window : Window) : Prop where
  theme : window.theme = window.wantedTheme
  equals : window.equalsColor = window.theme.equalsColor window.isRunning

/-- The equals button shows whether a calculation is running: it is filled with the clear colour of
the theme exactly while one is, and with the accent colour exactly while none is. -/
structure ShowsRunning (window : Window) : Prop where
  theme : window.theme = window.wantedTheme
  button : window.styles.buttons.lookup "=" = some (Theme.boldStyle window.equalsColor)
  clear : window.equalsColor = window.wantedTheme.clear ↔ window.isRunning = true
  accent : window.equalsColor = window.wantedTheme.accent ↔ window.isRunning = false

/-- The two colours of the equals button are different in both themes. -/
theorem Theme.clear_ne_accent (isDark : Bool) :
    (Theme.of isDark).clear ≠ (Theme.of isDark).accent := by
  -- Each theme is a table of its own.
  cases isDark <;> decide

/-- In a painted window the equals button shows whether a calculation is running. -/
theorem IsPainted.showsRunning {window : Window} (painted : window.IsPainted) :
    window.ShowsRunning := by
  have apart : window.wantedTheme.clear ≠ window.wantedTheme.accent := Theme.clear_ne_accent _
  have color := painted.equals
  rw [painted.theme] at color
  -- The colours tell the two cases apart, because they are never the same.
  cases running : window.isRunning with
  | true =>
    rw [running] at color
    have clear : window.equalsColor = window.wantedTheme.clear := color
    exact ⟨painted.theme, rfl, by simp [clear, running], by simp [clear, running, apart]⟩
  | false =>
    rw [running] at color
    have accent : window.equalsColor = window.wantedTheme.accent := color
    exact ⟨painted.theme, rfl, by simp [accent, running, apart.symm], by simp [accent, running]⟩

/-- A new window is painted. -/
theorem isPainted_ofSettings (settings : Json.Members) : (ofSettings settings).IsPainted :=
  ⟨rfl, rfl⟩

section Buttons

variable {window : Window}

/-- A button that changes the display leaves a window painted. -/
theorem IsPainted.pressDisplay (painted : window.IsPainted) (button : String) :
    (window.pressDisplay button).1.IsPainted := by
  -- A press that succeeds changes the display and the lines, which are not painted.
  unfold Window.pressDisplay
  cases window.display.press button with
  | ok display => exact ⟨painted.theme, painted.equals⟩
  | error failure => exact painted

/-- Equals paints its button anew where it starts a calculation. -/
theorem IsPainted.startCalculation (painted : window.IsPainted) :
    window.startCalculation.1.IsPainted := by
  unfold Window.startCalculation
  split
  · -- A running calculation is not disturbed.
    exact painted
  · split
    · exact painted.pressDisplay "="
    · -- Only here the button gets another colour, and it is the one for a running calculation.
      exact ⟨painted.theme, congrArg (·.equalsColor true) painted.theme.symm⟩

/-- A button leaves a window painted. -/
theorem IsPainted.pressButton (painted : window.IsPainted) (button : String) :
    (window.pressButton button).1.IsPainted := by
  unfold Window.pressButton
  -- Equals has a branch of its own, every other button changes the display.
  split
  · exact painted.startCalculation
  · exact painted.pressDisplay button

/-- A pasted text leaves a window painted, whether it is calculated or not. -/
theorem IsPainted.paste (painted : window.IsPainted) (text : String) :
    (window.paste text).1.IsPainted := by
  -- The text is shown before anything is calculated, and showing it paints nothing.
  have shown : { window with display := window.display.paste text }.refresh.IsPainted :=
    ⟨painted.theme, painted.equals⟩
  simp only [Window.paste]
  split
  · exact painted
  · split
    · exact shown.startCalculation
    · exact shown

/-- A delivery paints the equals button anew, also if the outcome cannot be shown. -/
theorem IsPainted.deliver (painted : window.IsPainted) (job : String) :
    (window.deliver job).1.IsPainted := by
  -- The button is painted before the outcome is looked at.
  have idle : { window with isRunning := false }.paintEquals.IsPainted :=
    ⟨painted.theme, congrArg (·.equalsColor false) painted.theme.symm⟩
  simp only [Window.deliver]
  split
  · -- The outcome is shown on the lines alone.
    exact ⟨idle.theme, idle.equals⟩
  · exact idle

/-- The end of a calculation leaves a window painted. -/
theorem IsPainted.finish (painted : window.IsPainted) : window.finish.1.IsPainted := by
  -- Nothing is painted where nothing is waited for.
  unfold Window.finish
  cases window.jobs with
  | nil => exact painted
  | cons job later =>
    have waiting : { window with jobs := later }.IsPainted := ⟨painted.theme, painted.equals⟩
    exact waiting.deliver job

/-- A tick leaves a window painted. -/
theorem IsPainted.tick (painted : window.IsPainted) : window.tick.1.IsPainted := by
  unfold Window.tick
  cases window.timer with
  | none => exact painted
  -- The timer only keeps count; it is the button it presses that may paint.
  | some interval =>
    cases window.heldButton with
    | none => exact ⟨painted.theme, painted.equals⟩
    | some button =>
      refine IsPainted.pressButton ?_ button
      exact ⟨painted.theme, painted.equals⟩

/-- A key leaves a window painted. -/
theorem IsPainted.keyDown (painted : window.IsPainted) (key : Key) (text : String) :
    (window.keyDown key text).1.IsPainted := by
  cases key with
  | shift => exact ⟨painted.theme, painted.equals⟩
  | enter => exact painted.pressButton "="
  | backspace => exact painted.pressButton "DEL"
  | escape => exact painted.pressButton "C"
  | other =>
    -- Any other key is a button where its text can be typed, and ignored elsewhere.
    simp only [Window.keyDown, shortcut?]
    split
    · exact painted.pressButton text
    · exact painted

end Buttons

namespace Desk

variable {desk : Desk}

/-- A settings dialog leaves a window painted: it is painted anew where other settings are loaded,
and otherwise it keeps its own. -/
theorem openSettings_isPainted (painted : desk.window.IsPainted) (actions : List Action) :
    (desk.openSettings actions).1.window.IsPainted := by
  unfold openSettings
  -- The window is only painted anew behind a dialog that has come to its end.
  cases Dialog.open? desk.folder with
  | error failure => exact painted
  | ok dialog =>
    simp only [reloadSettings]
    cases (dialog.run desk.folder actions).unknownKey with
    | some key => exact painted
    | none =>
      cases (Settings.loadAll (dialog.run desk.folder actions).folder).result with
      -- Other settings may ask for the other theme, so everything is painted from them.
      | ok settings => exact ⟨rfl, rfl⟩
      | error failure => exact painted

/-- A button that goes down leaves a window painted. -/
theorem mouseDown_isPainted (painted : desk.window.IsPainted) (button : String) :
    (desk.mouseDown button).window.IsPainted := by
  unfold mouseDown
  -- Holding a button starts the timer, which is not painted.
  split
  · exact ⟨painted.theme, painted.equals⟩
  · exact painted

/-- A button that comes up leaves a window painted. -/
theorem mouseUp_isPainted (painted : desk.window.IsPainted) (button : String) :
    (desk.mouseUp button).1.window.IsPainted := by
  have released : desk.window.releaseButton.IsPainted := ⟨painted.theme, painted.equals⟩
  unfold mouseUp
  split
  · exact openSettings_isPainted painted []
  · split
    · -- Shift tells a paste from a copy.
      unfold useClipboard
      split
      · exact painted.paste desk.clipboard
      · exact painted
    · split
      · -- The timer may have pressed the button already.
        show (desk.window.releaseButton.clickRepeating button).1.IsPainted
        unfold clickRepeating
        split
        · exact released
        · exact released.pressButton button
      · exact painted.pressButton button

/-- Every event leaves a window painted. -/
theorem step_isPainted (painted : desk.window.IsPainted) (event : Event) :
    (desk.step event).1.window.IsPainted := by
  -- Each kind of event has its own lemma, or leaves the window as it is.
  cases event with
  | click button => exact mouseUp_isPainted (mouseDown_isPainted painted button) button
  | mouseDown button => exact mouseDown_isPainted painted button
  | mouseUp button => exact mouseUp_isPainted painted button
  | tick => exact painted.tick
  | keyDown key text => exact painted.keyDown key text
  | keyUp key => cases key <;> exact ⟨painted.theme, painted.equals⟩
  | finish => exact painted.finish
  | world clipboard shift => exact painted
  | openSettings actions => exact openSettings_isPainted painted actions
  | inspectStyles => exact painted

end Desk

end DeskCalc.Window
