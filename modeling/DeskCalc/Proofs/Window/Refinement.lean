import DeskCalc.Proofs.Settings.Saving
import DeskCalc.Proofs.ShownResult
import DeskCalc.Proofs.Window.Delivery

/-! Refinement: where every calculation is delivered before anything else happens, the display of
the window is what the pressed buttons and the pasted texts make of it by themselves, one after
the other, except that it goes on behind a press that fails. -/

namespace DeskCalc

open DeskCalc.Number

namespace Display

/-- With what the window goes on where a press by itself comes to nothing: a calculation that fails
without a fault is shown as an error, and places that are refused leave the display as it is. -/
def afterFailure (display : Display) : PressFailure → Display
  | .calculation _ => { display with result := errorText, justEvaluated := true }
  | .places _ => display

/-- When a press fails at a number of places: only equals does, where the calculation fails without
a fault, or where its value is finite and no integer and more places are asked for than can be. -/
structure FailsWhere (display : Display) (button : String) (places : ℤ) : Prop where
  calculation :
    (∃ failure, display.press button (Settings.placesOf (.int places)) =
      .error (.calculation failure)) ↔
    button = "=" ∧ ∃ failure, (calculate (some display.expression)).outcome = .error failure
  places :
    (∃ fault, display.press button (Settings.placesOf (.int places)) = .error (.places fault)) ↔
    button = "=" ∧ Places.maxCount < places ∧ ∃ value,
      (calculate (some display.expression)).outcome = .ok (.value value) ∧
        value.isFinite = true ∧ (Binary.ofFloat value).toInt? = none

/-- A press fails for its calculation where that fails without a fault, and for its places where
they are refused for the value. -/
theorem press_eq_error_iff (display : Display) {button : String} {places : Places}
    {failure : PressFailure} : display.press button places = .error failure ↔ button = "=" ∧
      match (calculate (some display.expression)).outcome with
      | .error broken => failure = .calculation broken
      | .ok (.fault _) => False
      | .ok (.value value) =>
        ∃ fault, Number.display value places = .error fault ∧ failure = .places fault := by
  by_cases isEquals : button = "="
  · have pressed : display.press button places = display.equals places := by
      rw [isEquals]
      rfl
    rw [pressed, equals]
    -- The calculation comes first, so the places only count for a value that it comes to.
    by_cases blank : Text.allBlank display.expression = true
    · -- Nothing is worked out, and the calculation of nothing comes to a fault.
      simp [blank, calculate]
    · simp only [blank, isEquals, true_and, Bool.false_eq_true, if_false]
      cases (calculate (some display.expression)).outcome with
      | error broken => simp [eq_comm]
      | ok outcome =>
        cases outcome with
        | fault fault => simp [applyOutcome]
        | value value =>
          -- The value takes the place of the display, unless it cannot be shown.
          cases shown : Number.display value places with
          | ok text => simp [applyOutcome, shown, Except.map]
          | error fault => simp [applyOutcome, shown, Except.map, eq_comm]
  · -- Every other button succeeds at any places.
    obtain ⟨next, pressed⟩ := @exists_press display button (.inl isEquals)
    simp [pressed, isEquals]

end Display

/-- A double is refused where it is finite and no integer and too many places are asked for. -/
theorem display_isError_iff {value : Float} {places : ℤ} (positive : 1 ≤ places) :
    (∃ fault, display value (Settings.placesOf (.int places)) = .error fault) ↔
      Places.maxCount < places ∧ value.isFinite = true ∧ (Binary.ofFloat value).toInt? = none := by
  by_cases finite : value.isFinite = true
  · have shown := display_isOk_iff positive finite
    cases result : display value (Settings.placesOf (.int places)) with
    | ok text =>
      -- What is shown is an integer, or the places are few enough.
      rcases shown.mp ⟨text, result⟩ with whole | few
      · simp [Option.isSome_iff_ne_none.mp whole]
      · simp [Int.not_lt.mpr few]
    | error fault =>
      -- What is refused is neither.
      have refused := mt shown.mpr (by simp [result])
      rw [not_or, Option.not_isSome_iff_eq_none, Int.not_le] at refused
      simp [finite, refused]
  · -- What is not finite is shown by a name of its own at any places.
    simp only [finite, Bool.false_eq_true, false_and, and_false, iff_false, not_exists]
    intro fault refused
    cases taken : Binary.ofFloat value with
    | nan =>
      rw [display, taken] at refused
      cases refused
    | infinity negative =>
      rw [display, taken] at refused
      cases refused
    | finite negative mantissa exponent =>
      exact finite (isFinite_iff.mpr ⟨negative, mantissa, exponent, taken⟩)

/-- When presses fail is known for every display at any positive number of places. -/
theorem Display.failsWhere (display : Display) (button : String) {places : ℤ}
    (positive : 1 ≤ places) : display.FailsWhere button places := by
  constructor
  · -- An outcome of either kind leaves nothing but the places to fail for.
    simp only [press_eq_error_iff, exists_and_left]
    cases (calculate (some display.expression)).outcome with
    | error broken => simp
    | ok outcome => cases outcome <;> simp
  · -- Without a value there is nothing that the places could be refused for.
    simp only [press_eq_error_iff, exists_and_left]
    cases (calculate (some display.expression)).outcome with
    | error broken => simp
    | ok outcome =>
      cases outcome with
      | fault fault => simp
      | value value => simp [display_isError_iff positive]

namespace Window

/-- What is asked of a display by itself: a press of a button with what is set for the decimal
places, or a pasted text. -/
inductive Operation
  | press (button : String) (setting : Json)
  | paste (text : String)

/-- What an operation by itself makes of a display, or how it fails. -/
def Operation.run (display : Display) : Operation → Except PressFailure Display
  | press button setting => display.press button (Settings.placesOf setting)
  | paste text => .ok (display.paste text)

/-- The display of the window behind an operation: what that makes of it by itself, or that with
which the window goes on where it fails. -/
def Operation.shown (display : Display) (operation : Operation) : Display :=
  match operation.run display with
  | .ok next => next
  | .error failure => display.afterFailure failure

/-- What the settings hold for the decimal places. -/
def placesSetting (settings : Json.Members) : Json :=
  (settings.get? "decimal_places").getD .null

/-- The settings hold a positive integer for the decimal places. -/
def HasPlaces (settings : Json.Members) : Prop :=
  ∃ places : ℤ, 1 ≤ places ∧ settings.get? "decimal_places" = some (.int places)

/-- The places in effect are those that the integer in the settings asks for. -/
theorem HasPlaces.places_eq {settings : Json.Members} (has : HasPlaces settings) :
    Settings.places settings = Settings.placesOf (placesSetting settings) := by
  obtain ⟨places, -, held⟩ := has
  -- The default only counts for settings that hold nothing.
  have other : ("decimal_places" == Settings.allKey) = false := by decide
  simp [Settings.places, Settings.valueOf, placesSetting, held, other]

/-- The operations that an input comes to with the settings of the window: text that is not blank is
pasted, and equals is pressed behind it where the settings ask for it. -/
def Input.operations (settings : Json.Members) : Input → List Operation
  | press button => [.press button (placesSetting settings)]
  | paste text =>
    if Text.allBlank text then []
    else
      .paste text ::
        if Settings.isOn settings "after_paste_enter" then [.press "=" (placesSetting settings)]
        else []

/-- The operations that an event comes to at a desk. A click is a press of its button, but the
settings have a button of their own, and so has the clipboard, which pastes while shift is held and
copies otherwise. An accepted key is a press. Buttons that are held come to what is put in. -/
def Desk.operations (desk : Desk) (event : Event) : List Operation :=
  let settings := desk.window.settings
  match event with
  | .click button =>
    if button == settingsButton then []
    else if button == clipboardButton then
      if desk.window.isShiftHeld || desk.isShiftReported then
        (Input.paste desk.clipboard).operations settings
      else []
    else (Input.press button).operations settings
  | .keyDown key text =>
    match keyButton? key text with
    | some button => (Input.press button).operations settings
    | none => []
  | event => (desk.input? event).toList.flatMap (·.operations settings)

@[simp] theorem Operation.shown_paste (display : Display) (text : String) :
    (Operation.paste text).shown display = display.paste text := rfl

/-- Operations of which none fails make the same display by themselves as in the window. -/
theorem Operation.foldl_shown_of_foldlM {operations : List Operation} {display next : Display}
    (succeeds : operations.foldlM run display = .ok next) :
    operations.foldl shown display = next := by
  -- Induction on the operations: the first one succeeds, and the others behind it.
  induction operations generalizing display with
  | nil => exact Except.ok.inj succeeds
  | cons first rest inner =>
    rw [List.foldlM_cons] at succeeds
    cases ran : run display first with
    | error failure =>
      rw [ran] at succeeds
      cases succeeds
    | ok middle =>
      rw [ran] at succeeds
      rw [List.foldl_cons, shown, ran]
      exact inner succeeds

/-- A window settles on a display when it shows it, or will show it behind the delivery of the
calculation that is waited for. -/
inductive Settles (window : Window) : Display → Prop
  | idle (idle : window.isRunning = false) : Settles window window.display
  | waiting (running : window.isRunning = true) (jobs : window.jobs = [window.display.expression])
      (solid : Text.allBlank window.display.expression = false) :
      Settles window
        ((Operation.press "=" (placesSetting window.settings)).shown window.display)

section Settings

variable (window : Window) (button text : String)

@[simp] theorem pressDisplay_settings :
    (window.pressDisplay button).1.settings = window.settings := by
  -- A press has only the display and the lines to change.
  unfold pressDisplay
  cases window.display.press button <;> rfl

@[simp] theorem startCalculation_settings :
    window.startCalculation.1.settings = window.settings := by
  -- Equals is ignored, is pressed on a blank expression, or lets a calculation wait.
  unfold startCalculation
  split
  · rfl
  · split
    · exact window.pressDisplay_settings "="
    · rfl

@[simp] theorem pressButton_settings :
    (window.pressButton button).1.settings = window.settings := by
  unfold pressButton
  split <;> simp

@[simp] theorem take_settings (input : Input) :
    (window.take input).1.settings = window.settings := by
  cases input with
  | press button => exact window.pressButton_settings button
  | paste text =>
    -- Blank text is ignored; behind any other the settings say whether equals is pressed.
    simp only [take, paste]
    split
    · rfl
    · split
      · simp [refresh]
      · rfl

end Settings

/-- Places only matter where there is something to be calculated. -/
theorem shown_press {display : Display} {button : String}
    (easy : button ≠ "=" ∨ Text.allBlank display.expression = true) (setting : Json) :
    (Operation.press button setting).shown display = display.pressed button := by
  obtain ⟨next, pressed⟩ := Display.exists_press easy
  simp [Operation.shown, Operation.run, Display.pressed, pressed]

section Settling

variable {window : Window}

/-- A display that is shown by an idle window is the one that the window settles on. -/
theorem Settles.of_idle {display : Display} (idle : window.isRunning = false)
    (shown : window.display = display) : window.Settles display :=
  shown ▸ .idle idle

/-- What a window settles on only depends on its work and its settings. -/
theorem Settles.of_sameWork {other : Window} {display : Display} (same : SameWork window other)
    (settings : window.settings = other.settings) (settles : other.Settles display) :
    window.Settles display := by
  cases settles with
  | idle idle => exact .of_idle (same.isRunning.trans idle) same.display
  | waiting running jobs solid =>
    -- The delivery is one of the same expression, at the same places.
    rw [← same.display, ← settings]
    exact .waiting (same.isRunning.trans running) (by rw [same.jobs, jobs, same.display])
      (by rw [same.display, solid])

/-- Behind equals an idle window settles on what a press of equals makes of the display. -/
theorem settles_startCalculation (idle : window.isRunning = false) (nothing : window.jobs = []) :
    window.startCalculation.1.Settles
      ((Operation.press "=" (placesSetting window.settings)).shown window.display) := by
  have display := window.startCalculation_display
  have running := window.startCalculation_isRunning
  have jobs := window.startCalculation_jobs
  rw [idle] at display running jobs
  cases solid : Text.allBlank window.display.expression with
  | true =>
    -- There is nothing to be calculated, so the press is done at once.
    rw [solid] at display running
    exact .of_idle running (display.trans (shown_press (.inr solid) _).symm)
  | false =>
    -- The calculation waits, and its delivery is going to be the press.
    rw [solid] at display running jobs
    have same : window.startCalculation.1.display = window.display := display
    rw [← same, ← window.startCalculation_settings]
    refine .waiting running ?_ (same.symm ▸ solid)
    rw [jobs, nothing, same]
    rfl

/-- Behind an input an idle window settles on what its operations make of the display. -/
theorem settles_take (idle : window.isRunning = false) (nothing : window.jobs = [])
    (input : Input) : (window.take input).1.Settles
      ((input.operations window.settings).foldl Operation.shown window.display) := by
  cases input with
  | press button =>
    -- Only equals is more than a press of the display.
    simp only [take, pressButton, Input.operations, List.foldl_cons, List.foldl_nil]
    split
    · rename_i equals
      rw [eq_of_beq equals]
      exact settles_startCalculation idle nothing
    · rename_i other
      refine .of_idle (by simp [idle]) ?_
      rw [pressDisplay_display, shown_press (.inl (by simpa using other))]
  | paste text =>
    by_cases blank : Text.allBlank text = true
    · -- Blank text comes to no operation.
      simp only [take, paste, Input.operations, blank, if_true]
      exact .idle idle
    · -- The text is pasted at once, and what is calculated behind it is what is shown then.
      by_cases starts : Settings.isOn window.settings "after_paste_enter" = true
      · have pasted := @settles_startCalculation
          { window with display := window.display.paste text }.refresh idle nothing
        simpa only [take, paste, Input.operations, blank, Bool.false_eq_true, if_false, refresh,
          starts, if_true, List.foldl_cons, List.foldl_nil, Operation.shown_paste] using pasted
      · simp only [take, paste, Input.operations, blank, Bool.false_eq_true, if_false, refresh,
          starts, List.foldl_cons, List.foldl_nil, Operation.shown_paste]
        exact .of_idle idle rfl

/-- A calculation of what is shown is delivered as a press of equals. -/
theorem deliver_display_eq_shown (has : HasPlaces window.settings)
    (solid : Text.allBlank window.display.expression = false) :
    (window.deliver window.display.expression).1.display =
      (Operation.press "=" (placesSetting window.settings)).shown window.display := by
  rw [deliver_display, has.places_eq]
  have pressed (places : Places) :
      window.display.press "=" places = window.display.equals places := rfl
  simp only [Operation.shown, Operation.run, pressed, Display.equals, solid, outcomeOf]
  -- The outcome is a value or a fault, or the calculation fails and the fault is made up for it.
  cases (calculate (some window.display.expression)).outcome with
  | error failure => rfl
  | ok outcome =>
    cases outcome with
    | fault fault => rfl
    | value value =>
      cases shown : Number.display value (Settings.placesOf (placesSetting window.settings)) with
      | ok text => simp [Display.applyOutcome, shown, Except.map]
      | error fault => simp [Display.applyOutcome, shown, Except.map, Display.afterFailure]

end Settling

namespace Desk

variable {desk : Desk} {event : Event}

/-- A click is a press of its button, unless that is the button of the settings or the clipboard. -/
theorem input?_click (desk : Desk) (button : String) : desk.input? (.click button) =
    if button == settingsButton then none
    else if button == clipboardButton then
      if desk.window.isShiftHeld || desk.isShiftReported then some (.paste desk.clipboard)
      else none
    else some (.press button) := by
  -- The button goes down first, and since then the timer has not pressed it.
  simp only [input?, mouseDown]
  by_cases repeats : repeatingButtons.contains button = true
  · -- Holding it starts the timer anew.
    rw [if_pos repeats]
    simp [releasedInput?, holdButton]
  · -- The timer only presses buttons that repeat.
    rw [if_neg repeats]
    rw [Bool.not_eq_true] at repeats
    simp only [releasedInput?, repeats, Bool.false_and, Bool.false_eq_true, if_false]

/-- The operations of an event are those of its input. -/
theorem operations_eq (desk : Desk) (event : Event) : desk.operations event =
    (desk.input? event).toList.flatMap (·.operations desk.window.settings) := by
  -- Only clicks and keys have operations of their own, the others have those of their inputs.
  cases event with
  | click button =>
    rw [input?_click, operations]
    split
    · rfl
    · split
      · split <;> simp
      · simp
  | keyDown key text =>
    simp only [operations, input?]
    cases keyButton? key text <;> simp
  | _ => rfl

/-- A button other than that of the settings leaves these as they are when it comes up. -/
theorem mouseUp_settings (desk : Desk) {button : String}
    (other : (button == settingsButton) = false) :
    (desk.mouseUp button).1.window.settings = desk.window.settings := by
  simp only [mouseUp, other, Bool.false_eq_true, if_false]
  split
  · -- The clipboard is pasted or copied to.
    unfold useClipboard
    split
    · exact desk.window.take_settings (.paste desk.clipboard)
    · rfl
  · split
    · -- A button that repeats is only pressed if it has not been held.
      simp only [withWindow, clickRepeating]
      split
      · rfl
      · exact pressButton_settings _ button
    · exact desk.window.pressButton_settings button

/-- A click on a button other than that of the settings leaves these as they are. -/
theorem click_settings (desk : Desk) {button : String}
    (other : (button == settingsButton) = false) :
    (desk.step (.click button)).1.window.settings = desk.window.settings := by
  -- The button comes up on settings that going down has not changed.
  rw [step, mouseUp_settings _ other, mouseDown]
  split <;> rfl

/-- An event with an input leaves the settings as they are. -/
theorem step_settings {input : Input} (found : desk.input? event = some input) :
    (desk.step event).1.window.settings = desk.window.settings := by
  cases event with
  | click button =>
    -- The button of the settings has no input.
    have other : (button == settingsButton) = false := by
      rw [input?_click] at found
      split at found
      · cases found
      · rename_i other
        simpa using other
    exact desk.click_settings other
  | mouseUp button =>
    refine mouseUp_settings desk ?_
    simp only [input?, releasedInput?] at found
    split at found
    · cases found
    · rename_i other
      simpa using other
  | tick =>
    -- A tick presses the button that is held, if there is one.
    simp only [step, withWindow, tick]
    cases desk.window.timer with
    | none => rfl
    | some interval =>
      cases desk.window.heldButton with
      | none => rfl
      | some button => exact pressButton_settings _ button
  | keyDown key text =>
    cases key with
    | other =>
      -- The text of any other key is pressed where it can be typed.
      simp only [step, withWindow, keyDown, shortcut?]
      split
      · exact desk.window.pressButton_settings text
      · rfl
    | shift => rfl
    | enter | backspace | escape =>
      simp only [step, withWindow, keyDown, shortcut?]
      exact desk.window.pressButton_settings _
  | _ => cases found

/-- An event in its turn has the window settle on what its operations make of the display. -/
theorem step_settles {display : Display} (settles : desk.window.Settles display)
    (counted : desk.window.IsCounted) (has : HasPlaces desk.window.settings)
    (turn : desk.window.isRunning = true → event = .finish) :
    (desk.step event).1.window.Settles ((desk.operations event).foldl Operation.shown display) := by
  cases settles with
  | waiting running jobs solid =>
    -- It is the turn of the delivery, whose equals has been pressed before.
    obtain rfl := turn running
    refine .of_idle (step_finish counted).1 ?_
    rw [step_finish_window jobs]
    exact @deliver_display_eq_shown { desk.window with jobs := [] } has solid
  | idle idle =>
    have nothing : desk.window.jobs = [] := by
      rw [IsCounted, idle] at counted
      exact List.eq_nil_of_length_eq_zero counted
    by_cases delivered : event = .finish
    · -- Nothing is waited for, so nothing is delivered.
      subst delivered
      rw [step_finish_silent nothing]
      exact .idle idle
    · have same := desk.step_sameWork delivered
      rw [operations_eq]
      unfold windowWith at same
      cases found : desk.input? event with
      | none =>
        rw [found] at same
        exact .of_idle (same.isRunning.trans idle) same.display
      | some input =>
        -- The input is put in, and the event leaves the settings as they are.
        rw [found] at same
        refine .of_sameWork same ?_ (by simpa using settles_take idle nothing input)
        rw [step_settings found, take_settings]

/-- Every press among the operations of an event is one at what is set for the places. -/
theorem setting_of_mem_operations {button : String} {setting : Json}
    (asked : .press button setting ∈ desk.operations event) :
    setting = placesSetting desk.window.settings := by
  rw [operations_eq] at asked
  obtain ⟨input, -, asked⟩ := List.mem_flatMap.mp asked
  cases input with
  | press other =>
    obtain ⟨-, rfl⟩ := Operation.press.inj (List.mem_singleton.mp asked)
    rfl
  | paste text =>
    -- Only equals can be pressed behind a paste.
    simp only [Input.operations] at asked
    split at asked
    · cases asked
    · rcases List.mem_cons.mp asked with pasted | asked
      · cases pasted
      · split at asked
        · obtain ⟨-, rfl⟩ := Operation.press.inj (List.mem_singleton.mp asked)
          rfl
        · cases asked

/-- Every calculation is delivered before anything else happens, and whatever happens, the settings
hold a positive integer for the decimal places. -/
def IsPrompt (desk : Desk) : List Event → Prop
  | [] => desk.window.isRunning = false
  | event :: rest => HasPlaces desk.window.settings ∧
    (desk.window.isRunning = true → event = .finish) ∧ (desk.step event).1.IsPrompt rest

/-- The operations that some events come to, each event at the desk on which it comes. -/
def operationsOf (desk : Desk) : List Event → List Operation
  | [] => []
  | event :: rest => desk.operations event ++ (desk.step event).1.operationsOf rest

/-- Where every calculation is delivered before anything else happens, the operations of the events
make the display out of the one that the window settles on. -/
theorem after_of_isPrompt {display : Display} (settles : desk.window.Settles display)
    (counted : desk.window.IsCounted) {events : List Event} (prompt : desk.IsPrompt events) :
    (desk.after events).window.display =
      (desk.operationsOf events).foldl Operation.shown display := by
  -- Induction on the events: each of them carries on what the window settles on.
  induction events generalizing desk display with
  | nil =>
    cases settles with
    | idle => rfl
    | waiting running =>
      -- At the end everything has been delivered.
      rw [IsPrompt, running] at prompt
      cases prompt
  | cons event rest inner =>
    obtain ⟨has, turn, prompt⟩ := prompt
    rw [after_cons, operationsOf, List.foldl_append]
    exact inner (step_settles settles counted has turn) (step_isCounted counted event) prompt

/-- Every press among the operations of a run is one at a positive integer of places. -/
theorem exists_places_of_isPrompt {events : List Event} (prompt : desk.IsPrompt events)
    {button : String} {setting : Json}
    (asked : .press button setting ∈ desk.operationsOf events) :
    ∃ places : ℤ, 1 ≤ places ∧ setting = .int places := by
  -- Induction on the events: a press belongs to one of them, and the settings are those before it.
  induction events generalizing desk with
  | nil => cases asked
  | cons event rest inner =>
    obtain ⟨⟨places, positive, held⟩, -, prompt⟩ := prompt
    rcases List.mem_append.mp asked with now | later
    · refine ⟨places, positive, ?_⟩
      rw [setting_of_mem_operations now, placesSetting, held]
      rfl
    · exact inner prompt later

/-- Where every calculation is delivered before anything else happens, the window has the display
that the operations make by themselves out of a clear one, as long as none of them fails: a button
is pressed for each click and each accepted key, at the decimal places that the settings hold then,
and text that is not blank is pasted. Behind a press that fails the window goes on; its calculation
fails without a fault, or its value has the places refused. -/
theorem display_of_isPrompt {folder : Settings.Folder} {opened : Desk}
    (opens : open? folder = .ok opened) {events : List Event} (prompt : opened.IsPrompt events) :
    (opened.after events).window.display =
      (opened.operationsOf events).foldl Operation.shown .clear ∧
    (∀ display, (opened.operationsOf events).foldlM Operation.run .clear = .ok display →
      (opened.after events).window.display = display) ∧
    ∀ button setting, .press button setting ∈ opened.operationsOf events →
      ∃ places : ℤ, 1 ≤ places ∧ setting = .int places ∧
        ∀ display : Display, display.FailsWhere button places := by
  obtain ⟨idle, counted⟩ := idle_of_open opens
  have shown : (opened.after events).window.display =
      (opened.operationsOf events).foldl Operation.shown .clear := by
    obtain ⟨settings, rfl⟩ := exists_settings_of_open opens
    exact after_of_isPrompt (.idle idle) counted prompt
  refine ⟨shown, fun display succeeds => ?_, fun button setting asked => ?_⟩
  · rw [shown, Operation.foldl_shown_of_foldlM succeeds]
  · obtain ⟨places, positive, held⟩ := exists_places_of_isPrompt prompt asked
    exact ⟨places, positive, held, fun display => display.failsWhere button positive⟩

/-- Two numbers are added with a click, with keys and with the clipboard. -/
def typedSum : List Event :=
  [.click "1", .keyDown .other "+", .world (some " 2 ") (some true), .click clipboardButton,
    .keyDown .enter "", .finish]

/-- The window comes to the same sum as the presses and the paste by themselves, at eight places. -/
theorem display_of_isPrompt_typed :
    bare.IsPrompt typedSum ∧
      bare.operationsOf typedSum = [.press "1" (.int 8), .press "+" (.int 8), .paste " 2 ",
        .press "=" (.int 8)] ∧
      (bare.after typedSum).window.display = ⟨"3", "3", true⟩ ∧
      ∀ display : Display, display.FailsWhere "=" 8 := by
  have opens : open? {} = .ok bare := rfl
  have has : HasPlaces Settings.defaults := ⟨8, by decide, rfl⟩
  have prompt : bare.IsPrompt typedSum :=
    ⟨has, nofun, has, nofun, has, nofun, has, nofun, has, nofun, has, fun _ => rfl, rfl⟩
  have operations : bare.operationsOf typedSum = [.press "1" (.int 8), .press "+" (.int 8),
      .paste " 2 ", .press "=" (.int 8)] := rfl
  obtain ⟨-, pure, fails⟩ := display_of_isPrompt opens prompt
  refine ⟨prompt, operations, pure _ ?_, ?_⟩
  · rw [operations]
    rfl
  · obtain ⟨places, -, held, fails⟩ := fails "=" (.int 8) (by simp [operations])
    obtain rfl := Json.int.inj held
    exact fails

/-- A folder whose settings ask for one decimal place more than there can be. -/
def morePlaces : Settings.Folder :=
  { settings := .bytes (Json.object [("decimal_places", .int 2147483648)]).toText.toUTF8 }

/-- The desk that opens on this folder. -/
def morePlacesDesk : Desk :=
  { window := .ofSettings [("darkmode", .bool false), ("decimal_places", .int 2147483648),
      ("after_paste_enter", .bool false)]
    folder := morePlaces }

theorem open?_morePlaces : open? morePlaces = .ok morePlacesDesk := by
  have fits : Json.Fits Json.maxDepth (.object [("decimal_places", .int 2147483648)]) := by
    refine .object ?_ (List.forall_mem_singleton.mpr (.int ?_))
    · unfold Json.Members.HasDistinctKeys
      decide
    · -- The integer has ten digits, which is far from too many.
      have ten : (2147483648 : ℤ).natAbs < 10 ^ 10 := by decide
      exact ten.trans_le (Nat.pow_le_pow_right (by decide) (by decide))
  rw [open?, Settings.loadAll_toText fits rfl]
  rfl

/-- With more places than there can be a third is worked out, but pressing equals fails by itself,
while the window goes on with the display that was typed. -/
theorem refused_press_stays :
    open? morePlaces = .ok morePlacesDesk ∧ morePlacesDesk.IsPrompt typedThird ∧
      (∃ value, (calculate (some "1/3")).outcome = .ok (.value value)) ∧
      (morePlacesDesk.operationsOf typedThird).foldlM Operation.run .clear =
        .error (.places .tooBig) ∧
      (morePlacesDesk.after typedThird).window.display = ⟨"1/3", "0", false⟩ := by
  have has : HasPlaces morePlacesDesk.window.settings := ⟨2147483648, by decide, rfl⟩
  refine ⟨open?_morePlaces, ?_, ⟨_, rfl⟩, rfl, by decide +kernel⟩
  exact ⟨has, nofun, has, nofun, has, nofun, has, nofun, has, fun _ => rfl, rfl⟩

end Desk

end Window

end DeskCalc
