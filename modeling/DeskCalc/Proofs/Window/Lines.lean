import DeskCalc.Proofs.Window.Delivery

/-! Lines: what the two lines of the window show. The upper one always shows the expression; the
lower one shows the result, or waits for it, and it waits in vain exactly where the places for
a value have been refused. -/

namespace DeskCalc.Window

/-- Both lines show the display. -/
structure IsShown (window : Window) : Prop where
  upper : window.upper = window.display.expression
  lower : window.lower = window.display.result

/-- The upper line shows the expression, and the lower line waits for its outcome. -/
structure IsWaiting (window : Window) : Prop where
  upper : window.upper = window.display.expression
  lower : window.lower = "..."

/-- The value of a calculation is refused for the places that the settings ask for. -/
def Refuses (window : Window) (job : String) : Prop :=
  ∃ value fault, (outcomeOf job).1 = .value value ∧
    Number.display value (Settings.places window.settings) = .error fault

/-- An input that does nothing: blank text is not pasted. -/
def Input.isSilent : Input → Bool
  | press _ => false
  | paste text => Text.allBlank text

section Inputs

variable {window : Window}

/-- A press of the display is shown, where it is not the one that works the expression out. -/
theorem isShown_pressDisplay {button : String}
    (works : button ≠ "=" ∨ Text.allBlank window.display.expression = true) :
    (window.pressDisplay button).1.IsShown := by
  -- Such a press cannot fail, and what it comes to is shown at once.
  obtain ⟨next, pressed⟩ := Display.exists_press works
  simp only [pressDisplay, pressed]
  exact ⟨rfl, rfl⟩

/-- Behind equals both lines show the display, or a calculation is running: it has just been started
and the lower line waits for it, or it goes on and nothing has changed. -/
theorem startCalculation_cases (upper : window.upper = window.display.expression) :
    window.startCalculation.1.IsShown ∨ window.startCalculation.1.isRunning = true ∧
      (window.startCalculation.1.IsWaiting ∨ window.startCalculation.1 = window) := by
  unfold startCalculation
  split
  · -- Equals waits for a running calculation.
    rename_i running
    exact .inr ⟨running, .inr rfl⟩
  · split
    · -- Nothing is to be worked out, so equals is pressed at once.
      rename_i blank
      exact .inl (isShown_pressDisplay (.inr blank))
    · -- A calculation is started, and the lower line says so.
      exact .inr ⟨rfl, .inl ⟨upper, rfl⟩⟩

/-- Behind an input that does something both lines show the display, or a calculation is running. -/
theorem take_cases (upper : window.upper = window.display.expression) {input : Input}
    (heard : input.isSilent = false) :
    (window.take input).1.IsShown ∨ (window.take input).1.isRunning = true ∧
      ((window.take input).1.IsWaiting ∨ (window.take input).1 = window) := by
  cases input with
  | press button =>
    -- Equals has a branch of its own, and every other button changes the display.
    simp only [take, pressButton]
    split
    · exact startCalculation_cases upper
    · rename_i other
      exact .inl (isShown_pressDisplay (.inl (by simpa using other)))
  | paste text =>
    -- Behind a paste the lines are shown, and a calculation may be started.
    simp only [Input.isSilent] at heard
    simp only [take, paste, heard, Bool.false_eq_true, if_false]
    set pasted := { window with display := window.display.paste text }.refresh
    have shown : pasted.IsShown := ⟨rfl, rfl⟩
    split
    · rcases startCalculation_cases shown.upper with started | ⟨running, waits | same⟩
      · exact .inl started
      · exact .inr ⟨running, .inl waits⟩
      · exact .inl (same.symm ▸ shown)
    · exact .inl shown

/-- An input that does nothing leaves the window as it is. -/
theorem take_of_isSilent {input : Input} (silent : input.isSilent = true) :
    (window.take input).1 = window := by
  cases input with
  | press button => cases silent
  | paste text =>
    simp only [Input.isSilent] at silent
    simp only [take, paste, silent, if_true]

/-- Behind a delivery both lines show the display, unless the value is refused. -/
theorem isShown_deliver {job : String} (accepted : ¬ window.Refuses job) :
    (window.deliver job).1.IsShown := by
  -- The outcome is folded into the display and shown, unless its places are refused.
  unfold deliver
  cases worked : outcomeOf job with
  | mk outcome entries =>
    cases outcome with
    | fault fault => exact ⟨rfl, rfl⟩
    | value value =>
      cases shown : Number.display value (Settings.places window.settings) with
      | ok text =>
        simp only [Display.applyOutcome, paintEquals, shown, Except.map]
        exact ⟨rfl, rfl⟩
      | error fault => exact absurd ⟨value, fault, congrArg Prod.fst worked, shown⟩ accepted

/-- A value that is refused leaves the display and both lines as they are. -/
theorem deliver_of_refuses {job : String} (refused : window.Refuses job) :
    (window.deliver job).1.display = window.display ∧
      (window.deliver job).1.upper = window.upper ∧
      (window.deliver job).1.lower = window.lower := by
  -- What is refused changes nothing but the equals button.
  obtain ⟨value, fault, comes, shown⟩ := refused
  unfold deliver
  cases worked : outcomeOf job with
  | mk outcome entries =>
    obtain rfl : outcome = .value value := (congrArg Prod.fst worked).symm.trans comes
    simp [Display.applyOutcome, paintEquals, shown, Except.map]

end Inputs

namespace Desk

/-- The lower line is left waiting in vain behind some events: it was waiting for a value that has
been refused, and since then no input has done anything. -/
def LeavesWaiting (desk : Desk) (events : List Event) : Prop :=
  ∃ earlier later job, events = earlier ++ .finish :: later ∧
    job ∈ (desk.after earlier).window.jobs ∧ (desk.after earlier).window.lower = "..." ∧
    (desk.after earlier).window.Refuses job ∧
    ∀ input ∈ ((desk.after earlier).step .finish).1.inputs later, input.isSilent = true

variable {desk : Desk}

/-- An event that delivers nothing and whose input does nothing leaves the lines as they are. -/
theorem step_of_isSilent {event : Event} (undelivered : event ≠ .finish)
    (silent : ∀ input ∈ desk.input? event, input.isSilent = true) :
    SameWork (desk.step event).1.window desk.window := by
  -- The event is its input and nothing else, and that does nothing.
  have same := desk.step_sameWork undelivered
  unfold windowWith at same
  cases found : desk.input? event with
  | none => rwa [found] at same
  | some input =>
    rw [found] at same
    simp only [take_of_isSilent (silent input found)] at same
    exact same

/-- Where nothing is waited for, events whose inputs do nothing leave the lines as they are. -/
theorem after_of_isSilent {events : List Event} (nothing : desk.window.jobs = [])
    (silent : ∀ input ∈ desk.inputs events, input.isSilent = true) :
    SameWork (desk.after events).window desk.window := by
  -- A delivery does nothing either, as long as nothing is started.
  induction events generalizing desk with
  | nil => exact .refl _
  | cons event rest inner =>
    have first : SameWork (desk.step event).1.window desk.window := by
      by_cases delivered : event = .finish
      · subst delivered
        rw [step_finish_silent nothing]
        exact .refl _
      · -- Any other event has only inputs of the run.
        refine step_of_isSilent delivered fun input found => silent input ?_
        rw [inputs, List.mem_append, Option.mem_toList]
        exact .inl found
    -- The events behind it find the lines as they were.
    refine (inner (first.jobs.trans nothing) fun input found => silent input ?_).trans first
    rw [inputs, List.mem_append]
    exact .inr found

/-- A lower line that is left waiting waits while nothing is running. -/
theorem lower_of_leavesWaiting (counted : desk.window.IsCounted) {events : List Event}
    (leaves : desk.LeavesWaiting events) :
    (desk.after events).window.lower = "..." := by
  obtain ⟨earlier, later, job, rfl, waits, lower, refused, silent⟩ := leaves
  -- What was waited for was the only calculation, so since then there is none.
  have countedThen := after_isCounted counted earlier
  obtain ⟨-, only⟩ := countedThen.of_mem waits
  obtain ⟨-, nothing⟩ := step_finish countedThen
  have same := after_of_isSilent nothing silent
  rw [after_append, after_cons, same.lower, step_finish_window only]
  exact (@deliver_of_refuses { (desk.after earlier).window with jobs := [] } job
    refused).2.2.trans lower

/-- What the lines show behind some events: the upper one the expression, and the lower one
the result, unless it waits for a running calculation or is left waiting. -/
structure ShowsLines (desk : Desk) (events : List Event) : Prop where
  upper : (desk.after events).window.upper = (desk.after events).window.display.expression
  lower : (desk.after events).window.lower = (desk.after events).window.display.result ∨
    (desk.after events).window.lower = "..." ∧
      ((desk.after events).window.isRunning = true ∨ desk.LeavesWaiting events)

/-- A window that shows its display shows its lines. -/
theorem ShowsLines.of_isShown {events : List Event} (shown : (desk.after events).window.IsShown) :
    desk.ShowsLines events :=
  ⟨shown.upper, .inl shown.lower⟩

theorem inputs_append (desk : Desk) (first second : List Event) :
    desk.inputs (first ++ second) = desk.inputs first ++ (desk.after first).inputs second := by
  induction first generalizing desk with
  | nil => rfl
  | cons event rest inner => simp [inputs, inner, List.append_assoc]

/-- An event without an input that does anything leaves waiting what was left waiting. -/
theorem LeavesWaiting.concat {events : List Event} (leaves : desk.LeavesWaiting events)
    {event : Event} (silent : ∀ input ∈ (desk.after events).input? event, input.isSilent = true) :
    desk.LeavesWaiting (events ++ [event]) := by
  obtain ⟨earlier, later, job, rfl, waits, lower, refused, none⟩ := leaves
  refine ⟨earlier, later ++ [event], job, by simp, waits, lower, refused, fun input found => ?_⟩
  -- The inputs are those before the event and that of the event itself.
  rw [inputs_append, List.mem_append] at found
  rcases found with before | last
  · exact none input before
  · rw [after_append, after_cons] at silent
    simp only [inputs, List.append_nil, Option.mem_toList] at last
    exact silent input last

/-- What the lines show is kept by an event that leaves them as they are. -/
theorem ShowsLines.concat_of_sameWork {events : List Event} (shows : desk.ShowsLines events)
    {event : Event} (silent : ∀ input ∈ (desk.after events).input? event, input.isSilent = true)
    (same : SameWork (desk.after (events ++ [event])).window (desk.after events).window) :
    desk.ShowsLines (events ++ [event]) := by
  -- Both lines, the display and the work are as before, and so is what is left waiting.
  obtain ⟨upper, lower⟩ := shows
  rw [← same.upper, ← same.display] at upper
  rw [← same.lower, ← same.display, ← same.isRunning] at lower
  exact ⟨upper, lower.imp_right fun waits =>
    ⟨waits.1, waits.2.imp_right fun leaves => leaves.concat silent⟩⟩

/-- A delivery shows its outcome, or leaves the lower line waiting in vain. -/
theorem ShowsLines.concat_finish {events : List Event} (shows : desk.ShowsLines events)
    (counted : (desk.after events).window.IsCounted) :
    desk.ShowsLines (events ++ [.finish]) := by
  cases waits : (desk.after events).window.jobs with
  -- Where nothing is waited for the delivery does nothing.
  | nil =>
    refine shows.concat_of_sameWork (by rintro _ ⟨⟩) ?_
    rw [after_concat, step_finish_silent waits]
    exact .refl _
  | cons job later =>
    have only := (counted.of_mem (waits ▸ List.mem_cons_self)).2
    have delivered := step_finish_window only
    rw [← after_concat] at delivered
    by_cases refused : (desk.after events).window.Refuses job
    · -- The window does not run any more, and nothing else has changed.
      obtain ⟨display, upper, lower⟩ :=
        @deliver_of_refuses { (desk.after events).window with jobs := [] } job refused
      rw [← delivered] at display upper lower
      refine ⟨by rw [upper, display, shows.upper], ?_⟩
      rw [lower, display]
      refine shows.lower.imp_right fun waiting => ⟨waiting.1, .inr ?_⟩
      exact ⟨events, [], job, rfl, only ▸ List.mem_singleton_self job, waiting.1, refused,
        by rintro _ ⟨⟩⟩
    · -- What is not refused is shown.
      refine .of_isShown ?_
      rw [delivered]
      exact @isShown_deliver { (desk.after events).window with jobs := [] } job refused

/-- Every other event shows the display, starts a calculation, or leaves the lines as they are. -/
theorem ShowsLines.concat {events : List Event} (shows : desk.ShowsLines events) {event : Event}
    (undelivered : event ≠ .finish) : desk.ShowsLines (events ++ [event]) := by
  by_cases silent : ∀ input ∈ (desk.after events).input? event, input.isSilent = true
  · -- Nothing is done, so the lines stay.
    refine shows.concat_of_sameWork silent ?_
    rw [after_concat]
    exact step_of_isSilent undelivered silent
  · -- The event has an input, and the lines are those behind it.
    push Not at silent
    obtain ⟨input, found, heard⟩ := silent
    have same := (desk.after events).step_sameWork undelivered
    unfold windowWith at same
    rw [Option.mem_def.mp found, ← after_concat] at same
    rcases take_cases shows.upper (Bool.eq_false_iff.mpr heard) with
      shown | ⟨running, waits | unchanged⟩
    · -- The display is shown at once.
      exact .of_isShown ⟨by rw [same.upper, same.display, shown.upper],
        by rw [same.lower, same.display, shown.lower]⟩
    · -- A calculation has just been started.
      exact ⟨by rw [same.upper, same.display, waits.upper],
        .inr ⟨by rw [same.lower, waits.lower], .inl (by rw [same.isRunning, running])⟩⟩
    · -- A calculation goes on, so the lines may go on waiting for it.
      have still := same.isRunning.trans running
      simp only [unchanged] at same
      refine ⟨by rw [same.upper, same.display, shows.upper], ?_⟩
      rw [same.lower, same.display]
      exact shows.lower.imp_right fun waits => ⟨waits.1, .inl still⟩

/-- In every run from a new window the lines are shown. -/
theorem showsLines_of_open {folder : Settings.Folder} {opened : Desk}
    (opens : open? folder = .ok opened) (events : List Event) : opened.ShowsLines events := by
  have counted := (idle_of_open opens).2
  -- Induction on the run, event by event from the front.
  induction events using List.reverseRecOn with
  | nil =>
    -- A new window shows a clear display.
    obtain ⟨settings, rfl⟩ := exists_settings_of_open opens
    exact .of_isShown ⟨rfl, rfl⟩
  | append_singleton front last shows =>
    by_cases delivered : last = .finish
    · subst delivered
      exact shows.concat_finish (after_isCounted counted front)
    · exact shows.concat delivered

/-- The upper line always shows the expression. The lower line shows the result or waits while a
calculation is running; while none is running it shows the result, unless it is left waiting
for a value that was refused for the places that the settings ask for. -/
theorem lines_of_run {folder : Settings.Folder} {opened : Desk}
    (opens : open? folder = .ok opened) (events : List Event) :
    (opened.after events).window.upper = (opened.after events).window.display.expression ∧
    ((opened.after events).window.isRunning = true →
      (opened.after events).window.lower = "..." ∨
        (opened.after events).window.lower = (opened.after events).window.display.result) ∧
    ((opened.after events).window.isRunning = false →
      (opened.LeavesWaiting events → (opened.after events).window.lower = "...") ∧
      (¬ opened.LeavesWaiting events →
        (opened.after events).window.lower = (opened.after events).window.display.result)) := by
  obtain ⟨upper, lower⟩ := showsLines_of_open opens events
  refine ⟨upper, fun _ => lower.symm.imp_left And.left, fun idle => ⟨?_, fun shown => ?_⟩⟩
  · exact lower_of_leavesWaiting (idle_of_open opens).2
  · -- While nothing is running the line can only have been left waiting.
    rcases lower with result | ⟨-, running | leaves⟩
    · exact result
    · rw [idle] at running
      cases running
    · exact absurd leaves shown

/-- Behind a one that is calculated the upper line shows the one. -/
theorem lines_of_run_typed :
    (bare.after [.click "1", .click "=", .finish]).window.upper = "1" ∧
      (bare.after [.click "1", .click "="]).window.isRunning = true ∧
      ((bare.after [.click "1", .click "="]).window.lower = "..." ∨
        (bare.after [.click "1", .click "="]).window.lower = "0") := by
  have opens : open? {} = .ok bare := rfl
  have running : (bare.after [.click "1", .click "="]).window.isRunning = true := by decide +kernel
  have upper := (lines_of_run opens [.click "1", .click "=", .finish]).1
  have shown : (bare.after [.click "1", .click "=", .finish]).window.display.expression = "1" := by
    decide +kernel
  have result : (bare.after [.click "1", .click "="]).window.display.result = "0" := by
    decide +kernel
  have lower := (lines_of_run opens [.click "1", .click "="]).2.1 running
  rw [result] at lower
  exact ⟨upper.trans shown, running, lower⟩

/-- A folder whose settings ask for more decimal places than there can be. -/
def farPlaces : Settings.Folder :=
  { settings := .ofText "\x7b\"decimal_places\": 2147483648\x7d" }

/-- With such settings a third is never shown: no calculation is running any more, but the lower
line still waits for its outcome. -/
theorem lower_left_waiting : ∃ opened, open? farPlaces = .ok opened ∧
    (opened.after typedThird).window.isRunning = false ∧
    (opened.after typedThird).window.lower = "..." ∧
    (opened.after typedThird).window.display.result = "0" := by
  -- The window that opens is worked out, and with it the run.
  have checked : (match open? farPlaces with
      | .error _ => false
      | .ok opened => decide ((opened.after typedThird).window.isRunning = false ∧
        (opened.after typedThird).window.lower = "..." ∧
        (opened.after typedThird).window.display.result = "0")) = true := by
    decide +kernel
  cases opens : open? farPlaces with
  | error failure =>
    rw [opens] at checked
    cases checked
  | ok opened =>
    rw [opens] at checked
    exact ⟨opened, rfl, of_decide_eq_true checked⟩

end Desk

end DeskCalc.Window
