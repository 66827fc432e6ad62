import DeskCalc.Proofs.Window.Delivery

/-! Repeating: a button that is held down is clicked by each tick of the timer, and by coming up
only where no tick has clicked it. -/

namespace DeskCalc.Window

/-- What a window knows of a button that is held down. -/
structure Hold where
  wasHeld : Bool
  heldButton : Option String
  timer : Option Nat

/-- A button is held down, and the timer may have pressed it already. -/
@[simps] def Hold.down (button : String) (wasHeld : Bool) : Hold :=
  ⟨wasHeld, some button, some (if wasHeld then repeatInterval else initialDelay)⟩

/-- No button is held down, and the timer may have pressed the last one. -/
def Hold.up (wasHeld : Bool) : Hold :=
  ⟨wasHeld, none, none⟩

/-- A window with another hold. -/
@[simps] def withHold (window : Window) (hold : Hold) : Window :=
  { window with wasHeld := hold.wasHeld, heldButton := hold.heldButton, timer := hold.timer }

/-- A change ignores the hold: it is the same for any hold, and leaves the hold as it is. -/
def IgnoresHold (change : Window → Window × Response) : Prop :=
  ∀ window hold,
    change (window.withHold hold) = ((change window).1.withHold hold, (change window).2)

/-- The hold of a window. -/
def hold (window : Window) : Hold :=
  ⟨window.wasHeld, window.heldButton, window.timer⟩

/-- The timer is running exactly while a button is held down: with the long delay until it has
pressed the button, and with the short interval from then on. -/
def Hold.IsTimed (hold : Hold) : Prop :=
  hold.timer = hold.heldButton.map fun _ => if hold.wasHeld then repeatInterval else initialDelay

/-- In a timed hold no button is held down, or one is with the timer that belongs to it. -/
theorem Hold.IsTimed.eq_up_or_down {hold : Hold} (timed : hold.IsTimed) :
    hold = .up hold.wasHeld ∨ ∃ button, hold = .down button hold.wasHeld := by
  -- The timer of a timed hold follows from its other two parts.
  obtain ⟨wasHeld, heldButton, timer⟩ := hold
  have timer_eq : timer = heldButton.map fun _ =>
    if wasHeld then repeatInterval else initialDelay := timed
  subst timer_eq
  cases heldButton with
  | none => exact .inl rfl
  | some button => exact .inr ⟨button, rfl⟩

section Changes

/-- A button that changes the display ignores the hold. -/
theorem ignoresHold_pressDisplay (button : String) : IgnoresHold (·.pressDisplay button) := by
  intro window hold
  -- Only the display decides what the press comes to.
  simp only [pressDisplay, withHold_display]
  cases window.display.press button <;> rfl

/-- Equals ignores the hold. -/
theorem ignoresHold_startCalculation : IgnoresHold startCalculation := by
  intro window hold
  -- None of the three branches asks for the hold.
  by_cases running : window.isRunning = true
  · simp [startCalculation, running]
  · by_cases blank : Text.allBlank window.display.expression = true
    · have pressed := ignoresHold_pressDisplay "=" window hold
      simpa [startCalculation, running, blank] using pressed
    · simp only [startCalculation, withHold_isRunning, running, withHold_display, blank]
      rfl

/-- A button that is pressed by itself ignores the hold. -/
theorem ignoresHold_pressButton (button : String) : IgnoresHold (·.pressButton button) := by
  intro window hold
  -- Equals has a branch of its own, and both branches ignore the hold.
  simp only [pressButton]
  split
  · exact ignoresHold_startCalculation window hold
  · exact ignoresHold_pressDisplay button window hold

/-- A pasted text ignores the hold, whether it is calculated or not. -/
theorem ignoresHold_paste (text : String) : IgnoresHold (·.paste text) := by
  intro window hold
  -- Blank text is ignored; behind any other a calculation may be started.
  by_cases blank : Text.allBlank text = true
  · simp [paste, blank]
  · have started := ignoresHold_startCalculation
      { window with display := window.display.paste text }.refresh hold
    by_cases starts : Settings.isOn window.settings "after_paste_enter" = true
    · simpa [paste, blank, starts, refresh, withHold] using started
    · simp [paste, blank, starts, refresh, withHold]

/-- A delivery ignores the hold, also if the outcome cannot be shown. -/
theorem ignoresHold_deliver (job : String) : IgnoresHold (·.deliver job) := by
  intro window hold
  -- The outcome only depends on the calculation, and the settings on the window.
  simp only [deliver, paintEquals, withHold_display, withHold_settings]
  cases outcomeOf job with
  | mk outcome entries =>
    dsimp only
    cases window.display.applyOutcome outcome (Settings.places window.settings) <;> rfl

/-- The end of a calculation ignores the hold. -/
theorem ignoresHold_finish : IgnoresHold finish := by
  intro window hold
  -- What is delivered first is taken from the list beforehand.
  simp only [finish, withHold_jobs]
  cases window.jobs with
  | nil => rfl
  | cons job later =>
    have delivered := ignoresHold_deliver job { window with jobs := later } hold
    simp only [withHold] at delivered ⊢
    simp only [delivered]

/-- A key ignores the hold, even if it presses the button that is held down. -/
theorem ignoresHold_keyDown (key : Key) (text : String) : IgnoresHold (·.keyDown key text) := by
  intro window hold
  -- Every accepted key comes to a button.
  have pressed (button : String) := ignoresHold_pressButton button window hold
  simp only at pressed
  cases key with
  | shift => rfl
  | enter | backspace | escape => simp only [keyDown, shortcut?, pressed]
  | other =>
    simp only [keyDown, shortcut?, pressed]
    split <;> rfl

/-- A key that comes up ignores the hold. -/
theorem ignoresHold_keyUp (key : Key) : IgnoresHold (·.keyUp key) := by
  intro window hold
  cases key <;> rfl

end Changes

/-- A tick of the timer. -/
def Event.isTick : Event → Bool
  | tick => true
  | _ => false

/-- An event of the mouse on a button that repeats. -/
def Event.isRepeating : Event → Bool
  | click button | mouseDown button | mouseUp button => repeatingButtons.contains button
  | _ => false

/-- A click on a button. -/
def Event.isClickOn (button : String) : Event → Bool
  | click clicked => clicked == button
  | _ => false

/-- An event, with a click on a button in the place of a tick. -/
def Event.asClick (button : String) : Event → Event
  | tick => click button
  | event => event

/-- A tick is one by its kind. -/
theorem Event.eq_tick {event : Event} (tick : event.isTick = true) : event = .tick := by
  cases event with
  | tick => rfl
  | _ => cases tick

/-- Any other event stays in its place. -/
theorem Event.asClick_of_not_tick {event : Event} (noTick : event.isTick = false)
    (button : String) : event.asClick button = event := by
  -- A tick is the only event that has a click in its place.
  cases event with
  | tick => cases noTick
  | _ => rfl

/-- The events while a button is held down, with clicks in the places of the ticks, and with a click
behind them where there are no ticks. -/
def asClicks (button : String) (events : List Event) : List Event :=
  events.map (·.asClick button) ++ if events.any (·.isTick) then [] else [.click button]

namespace Desk

/-- A desk with another hold of its window. -/
@[simps] def withHold (desk : Desk) (hold : Hold) : Desk :=
  { desk with window := desk.window.withHold hold }

@[simp] theorem withHold_withHold (desk : Desk) (first second : Hold) :
    (desk.withHold first).withHold second = desk.withHold second := rfl

section Step

variable (desk : Desk) (hold : Hold) {button : String}

/-- A change of the window that ignores the hold is one of the desk. -/
theorem withWindow_withHold {change : Window → Window × Response} (ignores : IgnoresHold change) :
    (desk.withHold hold).withWindow (change (desk.window.withHold hold)) =
      ((desk.withWindow (change desk.window)).1.withHold hold,
        (desk.withWindow (change desk.window)).2) := by
  rw [ignores]
  rfl

/-- A settings dialog ignores the hold. -/
theorem openSettings_withHold (actions : List Action) : (desk.withHold hold).openSettings actions =
    ((desk.openSettings actions).1.withHold hold, (desk.openSettings actions).2) := by
  -- The dialog works on the folder, and the settings that are loaded behind it are painted.
  simp only [openSettings, withHold_folder]
  cases Dialog.open? desk.folder with
  | error failure => rfl
  | ok dialog =>
    simp only [reloadSettings]
    cases (dialog.run desk.folder actions).unknownKey with
    | some key => rfl
    | none =>
      dsimp only
      cases (Settings.loadAll (dialog.run desk.folder actions).folder).result <;> rfl

/-- A button that does not repeat ignores the hold when it comes up. -/
theorem mouseUp_withHold (single : repeatingButtons.contains button = false) :
    (desk.withHold hold).mouseUp button =
      ((desk.mouseUp button).1.withHold hold, (desk.mouseUp button).2) := by
  -- A button that does not repeat leaves the timer alone.
  simp only [mouseUp, single, Bool.false_eq_true, if_false]
  split
  · exact desk.openSettings_withHold hold []
  · split
    · simp only [useClipboard, withHold_window, withHold_isShiftHeld, withHold_isShiftReported]
      split
      · exact desk.withWindow_withHold hold (ignoresHold_paste desk.clipboard)
      · rfl
    · exact desk.withWindow_withHold hold (ignoresHold_pressButton button)

/-- Ticks and buttons that repeat apart, an event ignores the hold. -/
theorem step_withHold {event : Event} (noTick : event.isTick = false)
    (single : event.isRepeating = false) : (desk.withHold hold).step event =
      ((desk.step event).1.withHold hold, (desk.step event).2) := by
  -- Each kind of event is a change that ignores the hold, or changes nothing.
  cases event with
  | tick => cases noTick
  | click button =>
    simp only [step, mouseDown, show repeatingButtons.contains button = false from single,
      Bool.false_eq_true, if_false]
    exact desk.mouseUp_withHold hold single
  | mouseDown button =>
    simp only [step, mouseDown, show repeatingButtons.contains button = false from single,
      Bool.false_eq_true, if_false]
  | mouseUp button => exact desk.mouseUp_withHold hold single
  | keyDown key text => exact desk.withWindow_withHold hold (ignoresHold_keyDown key text)
  | keyUp key => exact desk.withWindow_withHold hold (ignoresHold_keyUp key)
  | finish => exact desk.withWindow_withHold hold ignoresHold_finish
  | world clipboard shift => rfl
  | openSettings actions => exact desk.openSettings_withHold hold actions
  | inspectStyles => rfl

/-- Such an event leaves the hold as it is. -/
theorem step_hold {event : Event} (noTick : event.isTick = false)
    (single : event.isRepeating = false) : (desk.step event).1.window.hold = desk.window.hold := by
  have same := desk.step_withHold desk.window.hold noTick single
  -- The desk has its own hold, so it is the same with that.
  show ((desk.withHold desk.window.hold).step event).1.window.hold = _
  rw [same]
  rfl

/-- A tick presses the button that is held down. -/
theorem step_tick (button : String) (wasHeld : Bool) :
    ((desk.withHold (.down button wasHeld)).step .tick).1 =
      (desk.withWindow (desk.window.pressButton button)).1.withHold (.down button true) := by
  -- The press ignores that the button is held down, and the timer is quick from then on.
  have pressed := desk.withWindow_withHold (.down button true) (ignoresHold_pressButton button)
  cases wasHeld <;> exact congrArg Prod.fst pressed

variable (repeats : button ∈ repeatingButtons)

include repeats

/-- A repeating button does nothing but hold when it goes down. -/
theorem step_mouseDown :
    (desk.step (.mouseDown button)).1 = desk.withHold (.down button false) := by
  -- Only the hold is set.
  simp [step, mouseDown, repeats]
  rfl

/-- A repeating button that comes up is pressed, unless the timer has pressed it. -/
theorem step_mouseUp : ((desk.withHold hold).step (.mouseUp button)).1 =
    if hold.wasHeld then desk.withHold (.up true)
    else (desk.withWindow (desk.window.pressButton button)).1.withHold (.up false) := by
  -- A repeating button is not the one for the settings or the clipboard.
  have contained := List.contains_iff_mem.mpr repeats
  have single := other_of_repeats contained
  obtain ⟨wasHeld, heldButton, timer⟩ := hold
  simp only [step, mouseUp, single, Bool.false_eq_true, if_false, contained, if_true]
  cases wasHeld with
  | true => rfl
  | false => exact congrArg Prod.fst (desk.withWindow_withHold (.up false)
      (ignoresHold_pressButton button))

/-- A click on a repeating button presses it. -/
theorem step_click : (desk.step (.click button)).1 =
    (desk.withWindow (desk.window.pressButton button)).1.withHold (.up false) := by
  -- It goes down and comes up, with no tick in between.
  have down := desk.step_mouseDown repeats
  have up := desk.step_mouseUp (.down button false) repeats
  rw [← down] at up
  exact up

end Step

section Run

variable {desk : Desk} {button : String} {events : List Event}

/-- While a button is held down its ticks are clicks, and everything else is as ever. -/
theorem after_withHold (repeats : button ∈ repeatingButtons)
    (undisturbed : ∀ event ∈ events, event.isRepeating = false) (wasHeld : Bool) :
    (desk.withHold (.down button wasHeld)).after events =
      (desk.after (events.map (·.asClick button))).withHold
        (.down button (wasHeld || events.any (·.isTick))) := by
  -- Induction on the events: a tick clicks the button, and any other event ignores the hold.
  induction events generalizing desk wasHeld with
  | nil => simp
  | cons event rest inner =>
    obtain ⟨single, later⟩ := List.forall_mem_cons.mp undisturbed
    rw [after_cons, List.map_cons, after_cons, List.any_cons]
    cases tick : event.isTick with
    | true =>
      -- The tick presses as a click does, and the hold goes on.
      obtain rfl := Event.eq_tick tick
      rw [step_tick, ← withHold_withHold _ (.up false), ← step_click desk repeats, inner later,
        Bool.true_or, Bool.or_true, Event.asClick]
    | false =>
      -- Any other event does the same on the desk without the hold.
      rw [desk.step_withHold _ tick single, inner later, Event.asClick_of_not_tick tick,
        Bool.false_or]

/-- A hold is clicks in the places of its ticks, or a click at its end. -/
theorem after_mouseDown_mouseUp (repeats : button ∈ repeatingButtons)
    (undisturbed : ∀ event ∈ events, event.isRepeating = false) :
    desk.after (.mouseDown button :: events ++ [.mouseUp button]) =
      (desk.after (asClicks button events)).withHold (.up (events.any (·.isTick))) := by
  -- The button goes down, is held, and comes up.
  rw [List.cons_append, after_cons, desk.step_mouseDown repeats, after_append,
    after_withHold repeats undisturbed, after_cons, after_nil, step_mouseUp _ _ repeats,
    Bool.false_or, Hold.down_wasHeld, asClicks, after_append]
  cases events.any (·.isTick) with
  | true => rfl
  -- Without a tick it is pressed by coming up, as by a click.
  | false =>
    rw [if_neg Bool.false_ne_true, if_neg Bool.false_ne_true, after_cons, after_nil,
      step_click _ repeats, withHold_withHold]

/-- A hold is clicks as often as it has ticks, and at least once. -/
theorem countP_asClicks (undisturbed : ∀ event ∈ events, event.isRepeating = false)
    (repeats : button ∈ repeatingButtons) :
    (asClicks button events).countP (·.isClickOn button) =
      max 1 (events.countP (·.isTick)) := by
  -- The ticks are the only clicks on the button while it is held.
  have ticks : (events.map (·.asClick button)).countP (·.isClickOn button) =
      events.countP (·.isTick) := by
    rw [List.countP_map]
    refine List.countP_congr fun event member => ?_
    cases event with
    | tick => simp [Event.asClick, Event.isClickOn, Event.isTick]
    | click other =>
      -- Another click among the events is one on another button.
      have single : repeatingButtons.contains other = false := undisturbed _ member
      have different : other ≠ button := by
        rintro rfl
        simp [repeats] at single
      simp [Event.asClick, Event.isClickOn, Event.isTick, different]
    | _ => simp [Event.asClick, Event.isClickOn, Event.isTick]
  rw [asClicks, List.countP_append, ticks]
  cases some : events.any (·.isTick) with
  | true =>
    -- There are ticks, so no click comes behind them.
    have positive : 0 < events.countP (·.isTick) := by
      simpa [List.countP_pos_iff] using some
    rw [if_pos rfl, List.countP_nil, Nat.add_zero, Nat.max_eq_right positive]
  | false =>
    -- There are none, and one click comes at the end.
    have none : events.countP (·.isTick) = 0 := by
      simpa [List.countP_eq_zero] using some
    rw [if_neg Bool.false_ne_true, none]
    simp [Event.isClickOn]

/-- An event leaves a hold timed. -/
theorem step_isTimed (timed : desk.window.hold.IsTimed) (event : Event) :
    (desk.step event).1.window.hold.IsTimed := by
  -- The desk is one with its own hold, as the lemmas about events ask.
  have own : desk.withHold desk.window.hold = desk := rfl
  cases mouse : event.isRepeating with
  | true =>
    -- The mouse holds a button or lets it go.
    cases event with
    | mouseDown button =>
      rw [step_mouseDown desk (List.contains_iff_mem.mp mouse)]
      rfl
    | mouseUp button =>
      rw [← own, step_mouseUp desk _ (List.contains_iff_mem.mp mouse)]
      split <;> rfl
    | click button =>
      rw [step_click desk (List.contains_iff_mem.mp mouse)]
      rfl
    | _ => cases mouse
  | false =>
    cases tick : event.isTick with
    | true =>
      -- A tick presses what is held down, and from then on the timer ticks quickly.
      obtain rfl := Event.eq_tick tick
      rcases timed.eq_up_or_down with none | ⟨button, held⟩
      · rw [← own, none]
        rfl
      · rw [← own, held, step_tick]
        rfl
    | false =>
      -- Every other event leaves the hold as it is.
      rw [desk.step_hold tick mouse]
      exact timed

end Run

/-- In every run the timer is running exactly while a button is held down, with the delay until it
has pressed the button and with the interval from then on. A button that is held is clicked by each
tick of the timer, and by coming up only where no tick has come, so as often as there are ticks but
at least once; each click is one press of the display. -/
theorem held_button_is_clicked {folder : Settings.Folder} {opened : Desk}
    (opens : open? folder = .ok opened) (events : List Event) :
    (opened.after events).window.hold.IsTimed ∧
    ∀ button ∈ repeatingButtons,
      (∀ held, (∀ event ∈ held, event.isRepeating = false) →
        opened.after (events ++ (.mouseDown button :: held ++ [.mouseUp button])) =
          (opened.after (events ++ asClicks button held)).withHold
            (.up (held.any (·.isTick))) ∧
        (asClicks button held).countP (·.isClickOn button) =
          max 1 (held.countP (·.isTick))) ∧
      ∀ desk : Desk, ∃ next, (∀ places, desk.window.display.press button places = .ok next) ∧
        (desk.step (.click button)).1 =
          { desk with window := { desk.window with display := next }.refresh }.withHold
            (.up false) := by
  -- A new window holds nothing, and its timer is not running.
  have initial : opened.window.hold.IsTimed := by
    obtain ⟨settings, rfl⟩ := exists_settings_of_open opens
    rfl
  refine ⟨after_invariant (·.window.hold.IsTimed) step_isTimed initial events,
    fun button repeats => ⟨fun held undisturbed => ⟨?_, countP_asClicks undisturbed repeats⟩,
      fun desk => ?_⟩⟩
  · -- The events before the hold come to a desk, on which it is its clicks.
    rw [after_append opened events, after_append opened events,
      after_mouseDown_mouseUp repeats undisturbed]
  · -- No repeating button is equals, so a press of it cannot fail.
    have single : button ≠ "=" := by
      rintro rfl
      exact absurd repeats (by decide)
    obtain ⟨next, pressed⟩ : ∃ next, ∀ places,
        desk.window.display.press button places = .ok next := Display.exists_press (.inl single)
    refine ⟨next, pressed, ?_⟩
    rw [step_click desk repeats]
    simp [pressButton, pressDisplay, single, pressed, withWindow]

/-- A one is held down for two ticks, with a two on the keyboard between them. -/
def heldOne : List Event :=
  [.tick, .keyDown .other "2", .tick]

/-- A one that is held for two ticks is clicked twice. -/
theorem held_button_is_clicked_twice :
    bare.after (.mouseDown "1" :: heldOne ++ [.mouseUp "1"]) =
        (bare.after [.click "1", .keyDown .other "2", .click "1"]).withHold (.up true) ∧
      (asClicks "1" heldOne).countP (·.isClickOn "1") = 2 := by
  -- The desk is the one that opens without any files.
  have opens : open? {} = .ok bare := rfl
  have repeats : "1" ∈ repeatingButtons := by decide
  have undisturbed : ∀ event ∈ heldOne, event.isRepeating = false := by decide
  exact ((held_button_is_clicked opens []).2 "1" repeats).1 heldOne undisturbed

end Desk

end DeskCalc.Window
