import DeskCalc.Proofs.Window.Delivery
import DeskCalc.Proofs.Window.Painting

/-! Running: which expressions are started to be calculated and which outcomes are delivered.
Whatever happens, every start has one delivery, and a new start has to wait for it. -/

namespace DeskCalc

/-- An outcome belongs to an expression: the calculation comes to it, or the calculation fails
and the outcome is a fault which carries the expression. -/
def Outcome.BelongsTo (outcome : Outcome) (equation : String) : Prop :=
  match (calculate (some equation)).outcome with
  | .ok worked => outcome = worked
  | .error _ => ∃ fault, outcome = .fault fault ∧ fault.code = "9999" ∧
      fault.equation = some equation

namespace Window

/-- What is delivered for a job belongs to it. -/
theorem outcomeOf_belongsTo (job : String) : (outcomeOf job).1.BelongsTo job := by
  unfold outcomeOf Outcome.BelongsTo
  cases (calculate (some job)).outcome with
  | ok outcome => rfl
  | error failure => exact ⟨_, rfl, rfl, rfl⟩

/-- The expression that equals starts to calculate on a display: none while a calculation
is running, and none where there is nothing to be calculated. -/
def startable? (isRunning : Bool) (display : Display) : Option String :=
  if isRunning || Text.allBlank display.expression then none else some display.expression

/-- The expression that an input starts to calculate: equals does, and so does a paste where
the settings ask for it. -/
def Input.start? (window : Window) : Input → Option String
  | press button => if button == "=" then startable? window.isRunning window.display else none
  | paste text =>
    if !Text.allBlank text && Settings.isOn window.settings "after_paste_enter" then
      startable? window.isRunning (window.display.paste text)
    else none

/-- Equals puts the expression that it starts to calculate behind those that are waited for. -/
theorem startCalculation_jobs_eq (window : Window) : window.startCalculation.1.jobs =
    window.jobs ++ (startable? window.isRunning window.display).toList := by
  rw [startCalculation_jobs, startable?]
  split
  · exact (List.append_nil _).symm
  · rfl

/-- An input puts the expression that it starts to calculate behind those that are waited for. -/
theorem take_jobs (window : Window) (input : Input) :
    (window.take input).1.jobs = window.jobs ++ (input.start? window).toList := by
  cases input with
  | press button =>
    by_cases equals : (button == "=") = true
    · simp only [take, pressButton, Input.start?, equals, if_true, startCalculation_jobs_eq]
    · simp [take, pressButton, Input.start?, equals]
  | paste text =>
    by_cases blank : Text.allBlank text = true
    · simp [take, Window.paste, Input.start?, blank]
    · by_cases starts : Settings.isOn window.settings "after_paste_enter" = true
      · -- What is calculated is the expression with the text in it.
        have started :=
          startCalculation_jobs_eq { window with display := window.display.paste text }.refresh
        simpa [take, Window.paste, Input.start?, blank, starts, refresh] using started
      · simp [take, Window.paste, Input.start?, blank, starts, refresh]

namespace Desk

/-- The expression that an event starts to calculate. -/
def start? (desk : Desk) (event : Event) : Option String :=
  (desk.input? event).bind (·.start? desk.window)

/-- The outcome that an event delivers, with the expression of its calculation. -/
def delivery? (desk : Desk) : Event → Option (Outcome × String)
  | .finish => desk.window.jobs.head?.map fun job => ((outcomeOf job).1, job)
  | _ => none

/-- The expressions that some events start to calculate, in their order. -/
def starts (desk : Desk) : List Event → List String
  | [] => []
  | event :: rest => (desk.start? event).toList ++ (desk.step event).1.starts rest

/-- What some events deliver, in their order. -/
def deliveries (desk : Desk) : List Event → List (Outcome × String)
  | [] => []
  | event :: rest => (desk.delivery? event).toList ++ (desk.step event).1.deliveries rest

theorem starts_append (desk : Desk) (first second : List Event) :
    desk.starts (first ++ second) = desk.starts first ++ (desk.after first).starts second := by
  induction first generalizing desk with
  | nil => rfl
  | cons event rest inner => simp [starts, inner, List.append_assoc]

/-- Nothing is lost by an event: what has been waited for or is started
is delivered or is waited for. -/
theorem step_jobs (desk : Desk) (event : Event) :
    desk.window.jobs ++ (desk.start? event).toList =
      (desk.delivery? event).toList.map (·.2) ++ (desk.step event).1.window.jobs := by
  by_cases delivered : event = .finish
  · subst delivered
    -- A delivery starts nothing, and takes away what it delivers.
    show desk.window.jobs ++ [] = _
    rw [List.append_nil]
    cases waits : desk.window.jobs with
    | nil =>
      rw [step_finish_silent waits, waits]
      simp [delivery?, waits]
    | cons job later =>
      rw [step_finish_window waits, (deliver_work _ job).2]
      simp [delivery?, waits]
  · have none : desk.delivery? event = none := by
      cases event with
      | finish => exact absurd rfl delivered
      | _ => rfl
    rw [none, (desk.step_sameWork delivered).jobs, start?]
    -- Any other event starts what its input does.
    unfold windowWith
    cases desk.input? event with
    | none => simp
    | some input => simp [take_jobs]

/-- Nothing is lost in a run: what has been waited for or was started
has been delivered or is waited for, in the same order. -/
theorem after_jobs (desk : Desk) (events : List Event) :
    desk.window.jobs ++ desk.starts events =
      (desk.deliveries events).map (·.2) ++ (desk.after events).window.jobs := by
  -- The first event keeps the balance, and the others keep that of the desk behind it.
  induction events generalizing desk with
  | nil => simp [starts, deliveries]
  | cons event rest inner =>
    calc desk.window.jobs ++ desk.starts (event :: rest)
        = (desk.window.jobs ++ (desk.start? event).toList) ++ (desk.step event).1.starts rest := by
          rw [starts, List.append_assoc]
      _ = (desk.delivery? event).toList.map (·.2) ++
            ((desk.step event).1.window.jobs ++ (desk.step event).1.starts rest) := by
          rw [step_jobs, List.append_assoc]
      _ = (desk.deliveries (event :: rest)).map (·.2) ++
            (desk.after (event :: rest)).window.jobs := by
          rw [inner, deliveries, List.map_append, List.append_assoc, after_cons]

/-- What is delivered belongs to the expression that it is delivered with. -/
theorem belongsTo_of_mem_deliveries {desk : Desk} {events : List Event} {outcome : Outcome}
    {equation : String} (delivered : (outcome, equation) ∈ desk.deliveries events) :
    outcome.BelongsTo equation := by
  -- Induction on the events, of which only a delivery delivers anything.
  induction events generalizing desk with
  | nil => cases delivered
  | cons event rest inner =>
    rw [deliveries, List.mem_append, Option.mem_toList] at delivered
    rcases delivered with first | later
    · cases event with
      | finish =>
        obtain ⟨job, -, same⟩ := Option.map_eq_some_iff.mp first
        obtain ⟨rfl, rfl⟩ := Prod.mk.inj same
        exact outcomeOf_belongsTo job
      | _ => cases first
    · exact inner later

/-- In every run a painted window stays painted. -/
theorem after_isPainted {desk : Desk} (painted : desk.window.IsPainted) (events : List Event) :
    (desk.after events).window.IsPainted :=
  after_invariant (·.window.IsPainted) step_isPainted painted events

/-- One calculation runs at a time, and none locks the window out. Behind any events the window
runs exactly while one calculation that was started has not been delivered, which the equals button
shows. An outcome is delivered with the expression it belongs to, and behind the next delivery
every calculation has been delivered once and the window is idle. -/
theorem one_calculation_at_a_time {folder : Settings.Folder} {opened : Desk}
    (opens : open? folder = .ok opened) (events : List Event) :
    (∃ waiting, opened.starts events = (opened.deliveries events).map (·.2) ++ waiting ∧
      waiting.length = (opened.after events).window.isRunning.toNat) ∧
    (∀ outcome equation, (outcome, equation) ∈ opened.deliveries events →
      outcome.BelongsTo equation) ∧
    (opened.deliveries (events ++ [.finish])).map (·.2) = opened.starts events ∧
    (opened.after (events ++ [.finish])).window.isRunning = false ∧
    (opened.after events).window.ShowsRunning := by
  have counted := (idle_of_open opens).2
  obtain ⟨painted, nothing⟩ : opened.window.IsPainted ∧ opened.window.jobs = [] := by
    obtain ⟨settings, rfl⟩ := exists_settings_of_open opens
    exact ⟨isPainted_ofSettings settings, rfl⟩
  -- Nothing was waited for at first, so every start has been delivered or is waited for.
  have balance (events : List Event) : opened.starts events =
      (opened.deliveries events).map (·.2) ++ (opened.after events).window.jobs := by
    rw [← after_jobs, nothing, List.nil_append]
  have last := opened.after_concat events .finish
  obtain ⟨idle, empty⟩ := step_finish (after_isCounted counted events)
  refine ⟨⟨_, balance events, after_isCounted counted events⟩,
    fun _ _ => belongsTo_of_mem_deliveries, ?_, ?_, ?_⟩
  · have all := balance (events ++ [.finish])
    rw [last, empty, List.append_nil, starts_append] at all
    -- The delivery itself starts nothing.
    have silent : (opened.after events).starts [.finish] = [] := rfl
    rw [← all, silent, List.append_nil]
  · rw [last]
    exact idle
  · exact (after_isPainted painted events).showsRunning

/-- A one that is typed and calculated is delivered once, and then the window is idle. -/
theorem one_calculation_at_a_time_typed :
    (bare.deliveries [.click "1", .click "=", .click "=", .finish]).map (·.2) = ["1"] ∧
      (bare.after [.click "1", .click "=", .click "=", .finish]).window.isRunning = false := by
  have opens : open? {} = .ok bare := rfl
  obtain ⟨-, -, delivered, idle, -⟩ :=
    one_calculation_at_a_time opens [.click "1", .click "=", .click "="]
  have started : bare.starts [.click "1", .click "=", .click "="] = ["1"] := by decide +kernel
  exact ⟨delivered.trans started, idle⟩

end Desk

end Window

end DeskCalc
