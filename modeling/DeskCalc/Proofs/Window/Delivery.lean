import DeskCalc.Proofs.Window.Inputs
import Mathlib.Data.List.Induction

/-! Deliveries: what is waited for, what the user has made of the display meanwhile,
and what the outcome makes of that. -/

namespace DeskCalc.Window

/-- One calculation is waited for while one is running, and none otherwise. -/
def IsCounted (window : Window) : Prop :=
  window.jobs.length = window.isRunning.toNat

/-- A calculation that is waited for is running, and it is the only one. -/
theorem IsCounted.of_mem {window : Window} (counted : window.IsCounted) {job : String}
    (waits : job ∈ window.jobs) : window.isRunning = true ∧ window.jobs = [job] := by
  unfold IsCounted at counted
  -- The list has as many calculations as are running, which is none or one.
  cases running : window.isRunning with
  | false =>
    rw [running] at counted
    rw [List.eq_nil_of_length_eq_zero counted] at waits
    cases waits
  | true =>
    rw [running] at counted
    obtain ⟨only, single⟩ := List.length_eq_one_iff.mp counted
    rw [single, List.mem_singleton] at waits
    exact ⟨rfl, by rw [single, waits]⟩

section Deliver

variable (window : Window) (job : String)

/-- Delivered, a fault leaves the expression as it is, and a value takes the place of the display
unless the places are refused. -/
theorem deliver_display : (window.deliver job).1.display =
    match (outcomeOf job).1 with
    | .fault _ => { window.display with result := Display.errorText, justEvaluated := true }
    | .value value =>
      match Number.display value (Settings.places window.settings) with
      | .ok text => ⟨text, text, true⟩
      | .error _ => window.display := by
  -- Both kinds of outcomes are folded into the display, and neither asks what the display shows.
  unfold deliver
  cases outcomeOf job with
  | mk outcome entries =>
    cases outcome with
    | fault fault => rfl
    | value value =>
      cases shown : Number.display value (Settings.places window.settings) with
      | ok text => simp [Display.applyOutcome, paintEquals, refresh, shown, Except.map]
      | error fault => simp [Display.applyOutcome, paintEquals, shown, Except.map]

/-- What is delivered is no longer running, and nothing else is taken from the list. -/
theorem deliver_work : (window.deliver job).1.isRunning = false ∧
    (window.deliver job).1.jobs = window.jobs := by
  unfold deliver
  cases outcomeOf job with
  | mk outcome entries =>
    -- Whether the outcome can be shown or not, the window has stopped to run before.
    cases applied : window.display.applyOutcome outcome (Settings.places window.settings) with
    | ok display => simp [paintEquals, refresh, applied]
    | error fault => simp [paintEquals, applied]

end Deliver

namespace Desk

/-- The desk behind some events. -/
def after (desk : Desk) (events : List Event) : Desk :=
  events.foldl (fun desk event => (desk.step event).1) desk

/-- The inputs among some events, each of them as it is at the desk on which it comes. -/
def inputs (desk : Desk) : List Event → List Input
  | [] => []
  | event :: rest => (desk.input? event).toList ++ (desk.step event).1.inputs rest

@[simp] theorem after_nil (desk : Desk) : desk.after [] = desk := rfl

@[simp] theorem after_cons (desk : Desk) (event : Event) (rest : List Event) :
    desk.after (event :: rest) = (desk.step event).1.after rest := rfl

theorem after_append (desk : Desk) (first second : List Event) :
    desk.after (first ++ second) = (desk.after first).after second := by
  simp [after]

theorem after_concat (desk : Desk) (events : List Event) (event : Event) :
    desk.after (events ++ [event]) = ((desk.after events).step event).1 := by
  rw [after_append, after_cons, after_nil]

/-- What every event preserves is preserved by a run. -/
theorem after_invariant (holds : Desk → Prop)
    (preserved : ∀ {desk : Desk}, holds desk → ∀ event, holds (desk.step event).1)
    {desk : Desk} (initial : holds desk) (events : List Event) : holds (desk.after events) := by
  induction events generalizing desk with
  | nil => exact initial
  | cons event rest inner => exact inner (preserved initial event)

/-- A desk that has just been opened has a new window. -/
theorem exists_settings_of_open {folder : Settings.Folder} {opened : Desk}
    (opens : open? folder = .ok opened) :
    ∃ settings, opened = { window := .ofSettings settings, folder } := by
  -- The window opens on what has been loaded, or not at all.
  unfold open? at opens
  cases loaded : (Settings.loadAll folder).result with
  | error failure =>
    rw [loaded] at opens
    cases opens
  | ok settings =>
    rw [loaded] at opens
    exact ⟨settings, (Except.ok.inj opens).symm⟩

/-- On a desk that has just been opened nothing is waited for. -/
theorem idle_of_open {folder : Settings.Folder} {opened : Desk}
    (opens : open? folder = .ok opened) :
    opened.window.isRunning = false ∧ opened.window.IsCounted := by
  -- The window is painted from its settings alone, so nothing has been pressed or started yet.
  obtain ⟨settings, rfl⟩ := exists_settings_of_open opens
  exact ⟨rfl, rfl⟩

section Step

variable {desk : Desk} {event : Event}

/-- While a calculation is running an event only edits the display, until that is delivered. -/
theorem step_of_running (running : desk.window.isRunning = true) (undelivered : event ≠ .finish) :
    (desk.step event).1.window.display =
        (desk.input? event).toList.foldl Input.edit desk.window.display ∧
      (desk.step event).1.window.isRunning = true ∧
      (desk.step event).1.window.jobs = desk.window.jobs := by
  have same := desk.step_sameWork undelivered
  -- The window is the one with the input, as far as its work is concerned.
  unfold windowWith at same
  cases found : desk.input? event with
  | none =>
    rw [found] at same
    exact ⟨same.display, same.isRunning.trans running, same.jobs⟩
  | some input =>
    rw [found] at same
    obtain ⟨display, running, jobs⟩ := take_of_running running input
    exact ⟨same.display.trans display, same.isRunning.trans running, same.jobs.trans jobs⟩

/-- Where no calculation is running an event may start one, of the expression that is then shown. -/
theorem step_of_idle (idle : desk.window.isRunning = false) (undelivered : event ≠ .finish) :
    ((desk.step event).1.window.isRunning = false ∧
      (desk.step event).1.window.jobs = desk.window.jobs) ∨
    ((desk.step event).1.window.isRunning = true ∧ (desk.step event).1.window.jobs =
      desk.window.jobs ++ [(desk.step event).1.window.display.expression]) := by
  have same := desk.step_sameWork undelivered
  -- Only an input can start anything.
  rw [same.isRunning, same.jobs, same.display]
  unfold windowWith
  cases desk.input? event with
  | none => exact .inl ⟨idle, rfl⟩
  | some input => exact take_of_idle idle input

/-- What has waited longest is delivered to a window that does not wait for it any more. -/
theorem step_finish_window {job : String} {later : List String}
    (waits : desk.window.jobs = job :: later) :
    (desk.step .finish).1.window = ({ desk.window with jobs := later }.deliver job).1 := by
  -- The first calculation on the list is the one that has come to its outcome.
  show desk.window.finish.1 = _
  simp only [finish, waits]

/-- Where nothing is waited for nothing is delivered. -/
theorem step_finish_silent (nothing : desk.window.jobs = []) :
    (desk.step .finish).1.window = desk.window := by
  show desk.window.finish.1 = _
  simp only [finish, nothing]

/-- A delivery leaves nothing to wait for. -/
theorem step_finish (counted : desk.window.IsCounted) :
    (desk.step .finish).1.window.isRunning = false ∧ (desk.step .finish).1.window.jobs = [] := by
  cases waits : desk.window.jobs with
  -- Without a calculation to wait for the window has not been running.
  | nil =>
    rw [step_finish_silent waits]
    refine ⟨?_, waits⟩
    rw [IsCounted, waits, List.length_nil] at counted
    cases running : desk.window.isRunning with
    | false => rfl
    | true =>
      rw [running] at counted
      cases counted
  | cons job later =>
    -- Nothing waits behind the only calculation.
    obtain ⟨-, only⟩ := counted.of_mem (waits ▸ List.mem_cons_self)
    rw [step_finish_window only]
    exact deliver_work { desk.window with jobs := [] } job

/-- An event starts no second calculation. -/
theorem step_isCounted (counted : desk.window.IsCounted) (event : Event) :
    (desk.step event).1.window.IsCounted := by
  by_cases delivered : event = .finish
  · -- Behind a delivery there is nothing that could be waited for.
    subst delivered
    obtain ⟨idle, none⟩ := step_finish counted
    rw [IsCounted, idle, none]
    rfl
  · cases running : desk.window.isRunning with
    -- While one is running nothing is added to the list.
    | true =>
      obtain ⟨-, still, jobs⟩ := step_of_running running delivered
      rw [IsCounted, still, jobs, ← running]
      exact counted
    -- Otherwise the list was empty, and an event adds one calculation at most.
    | false =>
      rw [IsCounted, running] at counted
      rcases step_of_idle running delivered with ⟨idle, jobs⟩ | ⟨started, jobs⟩
      · rw [IsCounted, idle, jobs]
        exact counted
      · rw [IsCounted, started, jobs, List.length_append, counted]
        rfl

end Step

section Run

/-- In every run at most one calculation is waited for. -/
theorem after_isCounted {desk : Desk} (counted : desk.window.IsCounted) (events : List Event) :
    (desk.after events).window.IsCounted :=
  after_invariant (·.window.IsCounted) step_isCounted counted events

/-- Until a running calculation is delivered the inputs edit the display, each in its turn. -/
theorem after_of_running {desk : Desk} (running : desk.window.isRunning = true)
    {events : List Event} (undelivered : Event.finish ∉ events) :
    (desk.after events).window.display =
        (desk.inputs events).foldl Input.edit desk.window.display ∧
      (desk.after events).window.isRunning = true ∧
      (desk.after events).window.jobs = desk.window.jobs := by
  -- The first event edits the display, and the others edit what it has made of it.
  induction events generalizing desk with
  | nil => exact ⟨rfl, running, rfl⟩
  | cons event rest inner =>
    have first : event ≠ .finish := fun delivered => undelivered (delivered ▸ List.mem_cons_self)
    obtain ⟨display, still, jobs⟩ := step_of_running running first
    obtain ⟨displayRest, stillRest, jobsRest⟩ :=
      inner still fun member => undelivered (List.mem_cons_of_mem event member)
    refine ⟨?_, stillRest, jobsRest.trans jobs⟩
    rw [after_cons, displayRest, inputs, List.foldl_append, display]

/-- What is waited for was started by an event at an idle desk, from the expression that was shown
then, and has not been delivered since. -/
theorem exists_start {desk : Desk} (counted : desk.window.IsCounted)
    (idle : desk.window.isRunning = false) {events : List Event}
    (running : (desk.after events).window.isRunning = true) :
    ∃ before start later, events = before ++ start :: later ∧ Event.finish ∉ later ∧
      (desk.after before).window.isRunning = false ∧
      (desk.after (before ++ [start])).window.isRunning = true ∧
      (desk.after (before ++ [start])).window.jobs =
        [(desk.after (before ++ [start])).window.display.expression] := by
  -- The last event either started the calculation or came while it was running already.
  induction events using List.reverseRecOn with
  | nil =>
    rw [after_nil, idle] at running
    cases running
  | append_singleton front last inner =>
    have countedFront := after_isCounted counted front
    -- A delivery would have left nothing running.
    have undelivered : last ≠ .finish := by
      intro same
      subst same
      rw [after_concat, (step_finish countedFront).1] at running
      cases running
    cases still : (desk.after front).window.isRunning with
    | true =>
      obtain ⟨before, start, later, rfl, none, started⟩ := inner still
      refine ⟨before, start, later ++ [last], by simp, ?_, started⟩
      rw [List.mem_append, List.mem_singleton]
      exact not_or.mpr ⟨none, undelivered.symm⟩
    | false =>
      rcases step_of_idle still undelivered with ⟨silent, -⟩ | ⟨started, jobs⟩
      · rw [after_concat, silent] at running
        cases running
      · -- Nothing has been waited for before, so the list has only the new calculation.
        have nothing : (desk.after front).window.jobs = [] := by
          rw [IsCounted, still] at countedFront
          exact List.eq_nil_of_length_eq_zero countedFront
        rw [nothing, List.nil_append, ← after_concat] at jobs
        exact ⟨front, last, [], rfl, List.not_mem_nil, still, running, jobs⟩

end Run

/-- An outcome is delivered to the display as it is by then. The event that started it came to a
desk that was not running, and took the expression that it left on the display; since then every
input has edited the display. A fault leaves the expression that has come of it, a value takes the
place of the display, and where its places are refused the display stays. -/
theorem display_of_delivery {folder : Settings.Folder} {opened : Desk}
    (opens : open? folder = .ok opened) (events : List Event) {equation : String}
    (waits : equation ∈ (opened.after events).window.jobs) :
    (∃ before start later, events = before ++ start :: later ∧ Event.finish ∉ later ∧
      (opened.after before).window.isRunning = false ∧
      (opened.after (before ++ [start])).window.isRunning = true ∧
      (opened.after (before ++ [start])).window.jobs = [equation] ∧
      (opened.after (before ++ [start])).window.display.expression = equation ∧
      (opened.after events).window.display =
        ((opened.after (before ++ [start])).inputs later).foldl Input.edit
          (opened.after (before ++ [start])).window.display) ∧
    (opened.after (events ++ [.finish])).window.display =
      match (outcomeOf equation).1 with
      | .fault _ => { (opened.after events).window.display with
          result := Display.errorText, justEvaluated := true }
      | .value value =>
        match Number.display value (Settings.places (opened.after events).window.settings) with
        | .ok text => ⟨text, text, true⟩
        | .error _ => (opened.after events).window.display := by
  obtain ⟨idle, counted⟩ := idle_of_open opens
  -- What is waited for is the only calculation, and it is running.
  obtain ⟨running, only⟩ := (after_isCounted counted events).of_mem waits
  constructor
  · obtain ⟨before, start, later, rfl, undelivered, silent, started, jobs⟩ :=
      exists_start counted idle running
    have split : opened.after (before ++ start :: later) =
        (opened.after (before ++ [start])).after later := by
      rw [← after_append, List.append_assoc, List.singleton_append]
    -- The list of calculations has not changed since then, but the inputs have edited the display.
    obtain ⟨display, -, same⟩ := after_of_running started undelivered
    have expression : (opened.after (before ++ [start])).window.display.expression = equation := by
      rw [split, same, jobs] at only
      exact List.singleton_inj.mp only
    exact ⟨before, start, later, rfl, undelivered, silent, started, by rw [jobs, expression],
      expression, by rw [split, display]⟩
  · rw [after_concat, step_finish_window only]
    exact deliver_display { (opened.after events).window with jobs := [] } equation

/-- A two that is typed while a one is calculated is an input since the start of the calculation,
and edits the display; the value of the one then takes the place of both digits. -/
theorem display_of_delivery_typed :
    (∃ before start later, [Event.click "1", .click "=", .click "2"] = before ++ start :: later ∧
      Event.finish ∉ later ∧ (bare.after before).window.isRunning = false ∧
      (bare.after (before ++ [start])).window.isRunning = true ∧
      (bare.after (before ++ [start])).window.display.expression = "1" ∧
      ((bare.after (before ++ [start])).inputs later).foldl Input.edit
        (bare.after (before ++ [start])).window.display = ⟨"12", "0", false⟩) ∧
    (bare.after [.click "1", .click "=", .click "2", .finish]).window.display =
      ⟨"1", "1", true⟩ := by
  -- The desk is the one that opens without any files.
  have opens : open? {} = .ok bare := rfl
  have waits : "1" ∈ (bare.after [.click "1", .click "=", .click "2"]).window.jobs := by
    decide +kernel
  have typed : (bare.after [.click "1", .click "=", .click "2"]).window.display =
      ⟨"12", "0", false⟩ := by decide +kernel
  obtain ⟨⟨before, start, later, split, undelivered, silent, started, -, shown, edited⟩,
    delivered⟩ := display_of_delivery opens _ waits
  refine ⟨⟨before, start, later, split, undelivered, silent, started, shown,
    edited.symm.trans typed⟩, delivered.trans ?_⟩
  -- The outcome is a value, and eight places show it as a one.
  decide +kernel

/-- A stale value takes the place of what was typed while it was calculated: the two is gone
when the outcome of the one has come. -/
theorem stale_delivery_overwrites :
    open? {} = .ok bare ∧
      (bare.after [.click "1", .click "=", .click "2"]).window.jobs = ["1"] ∧
      (bare.after [.click "1", .click "=", .click "2"]).window.display = ⟨"12", "0", false⟩ ∧
      (bare.after [.click "1", .click "=", .click "2", .finish]).window.display =
        ⟨"1", "1", true⟩ := by
  -- The run is closed, so each part of the desk behind it can be worked out.
  refine ⟨rfl, ?_, ?_, ?_⟩ <;> decide +kernel

end Desk

end DeskCalc.Window
