import DeskCalc.Proofs.Settings.Saving
import DeskCalc.Window.Dialog

/-! Attempts: what each OK takes over from the rows of the settings dialog, and what is in the file
when one is accepted. An attempt that is refused has taken over the rows above the refused one, and
a number from there is saved later on where its field is blank by then. -/

namespace DeskCalc.Window

open Json (Members)

namespace Row

/-- Whether a row is refused: its field holds no number, or too few decimal places. -/
def isRefused (row : Row) : Bool :=
  match row.control with
  | .checkbox _ => false
  | .field _ text =>
    match Dialog.fieldValue row.key text with
    | .error _ => true
    | .ok _ => false

/-- The value that a row gives to its setting: a checkbox its state, a field its number.
A blank field and one that is refused give none. -/
def value? (row : Row) : Option Json :=
  match row.control with
  | .checkbox checked => some (.bool checked)
  | .field _ text =>
    match Dialog.fieldValue row.key text with
    | .error _ => none
    | .ok number => number.map .int

end Row

namespace Dialog

/-- What an attempt takes over: the values of the rows above the first one that is refused. -/
def takenOver (rows : List Row) : Members :=
  (rows.takeWhile (!·.isRefused)).filterMap fun row => row.value?.map (row.key, ·)

/-- The value that the row of a key gives. -/
def valueIn? (rows : List Row) (key : String) : Option Json :=
  (rows.find? (·.key == key)).bind Row.value?

/-- What the latest of some attempts has taken over for a key. -/
def lastTaken? (attempts : List (List Row)) (key : String) : Option Json :=
  attempts.reverse.findSome? fun rows => (takenOver rows).get? key

/-- Settings with what some attempts have taken over on top. -/
def carried (settings : Members) (attempts : List (List Row)) : Members :=
  settings.map fun member => (member.1, (lastTaken? attempts member.1).getD member.2)

/-- Settings with each checkbox's state and each field's number; all else keeps its value. -/
def filledIn (settings : Members) (rows : List Row) : Members :=
  settings.map fun member => (member.1, (valueIn? rows member.1).getD member.2)

/-- The rows as they stand at each attempt, as long as the dialog takes actions. -/
def attempts (folder : Settings.Folder) (dialog : Dialog) : List Action → List (List Row)
  | [] => []
  | action :: rest =>
    if dialog.closing.isSome then []
    else
      match act folder dialog action, action with
      | .error _, _ => []
      | .ok (next, after), .ok => dialog.rows :: attempts after next rest
      | .ok (next, after), _ => attempts after next rest

section Collect

variable (settings : Members) (rows : List Row)

/-- A row that is not refused gives its value, if it has one, and the rows below it follow. -/
theorem takenOver_cons (row : Row) : takenOver (row :: rows) =
    if row.isRefused then [] else (row.value?.map (row.key, ·)).toList ++ takenOver rows := by
  -- A row that is refused ends what is taken over, and any other one gives a value or none.
  cases refused : row.isRefused with
  | true => simp [takenOver, refused]
  | false => cases value : row.value? <;> simp [takenOver, refused, value]

/-- The rows are taken over up to the first that is refused. -/
theorem collect_settings : (collect settings rows).1 = settings.override (takenOver rows) := by
  -- Induction on the rows: each one that is not refused puts its value, if it has one.
  induction rows generalizing settings with
  | nil => rfl
  | cons row rest inner =>
    obtain ⟨key, label, control⟩ := row
    rw [takenOver_cons]
    cases control with
    | checkbox checked => exact inner _
    | field placeholder text =>
      cases number : fieldValue key text with
      | error reason => simp [collect, Row.isRefused, number, Members.override]
      | ok value =>
        cases value with
        | none => simp [collect, Row.isRefused, Row.value?, number, inner]
        | some value => simp [collect, Row.isRefused, Row.value?, number, inner, Members.override]

/-- There is a reason for a refusal just where a row is refused. -/
theorem collect_refusal : (collect settings rows).2.isSome = rows.any (·.isRefused) := by
  -- Induction on the rows, of which a checkbox is never refused.
  induction rows generalizing settings with
  | nil => rfl
  | cons row rest inner =>
    obtain ⟨key, label, control⟩ := row
    cases control with
    | checkbox checked => exact inner _
    | field placeholder text =>
      cases number : fieldValue key text with
      | error reason => simp [collect, Row.isRefused, number]
      | ok value => cases value <;> simp [collect, Row.isRefused, number, inner]

end Collect

section Accept

variable (folder : Settings.Folder) (dialog : Dialog)

/-- An attempt leaves the dialog with what it has taken over, whether it is accepted or not. -/
theorem accept_settings :
    (accept folder dialog).1.settings = dialog.settings.override (takenOver dialog.rows) := by
  rw [← collect_settings]
  -- The values are put while the rows are looked at, before the dialog knows of a refusal.
  unfold accept
  split
  · rename_i refused
    rw [refused]
    rfl
  · rename_i collected
    rw [collected]
    dsimp only
    split <;> rfl

/-- An attempt leaves the rows as they are. -/
theorem accept_rows : (accept folder dialog).1.rows = dialog.rows := by
  -- Neither a refusal nor a save touches the controls.
  unfold accept
  split
  · rfl
  · dsimp only
    split <;> rfl

variable {folder dialog}

/-- A refused attempt writes nothing and leaves the dialog open. -/
theorem accept_of_isRefused (refused : dialog.rows.any (·.isRefused) = true) :
    (accept folder dialog).2 = folder ∧ (accept folder dialog).1.closing = dialog.closing := by
  rw [← collect_refusal dialog.settings] at refused
  -- A refusal is reported before anything is saved.
  unfold accept
  split
  · exact ⟨rfl, rfl⟩
  · rename_i collected
    rw [collected] at refused
    cases refused

/-- Any other attempt writes what is taken over by now, and is accepted if that can be written. -/
theorem accept_of_valid {written : Members} (valid : dialog.rows.any (·.isRefused) = false)
    (all : dialog.settings.override (takenOver dialog.rows) = written) (occupied : written ≠ [])
    (going : dialog.closing = none) :
    (accept folder dialog).2 = (Settings.save folder (.object written)).folder ∧
      ((accept folder dialog).1.closing = some .accepted ↔
        (Settings.save folder (.object written)).entries = []) := by
  rw [← collect_refusal dialog.settings] at valid
  rw [← collect_settings] at all
  unfold accept
  split
  · rename_i refused
    rw [refused] at valid
    cases valid
  · rename_i collected
    rw [collected] at all
    subst all
    -- What was saved is returned, and nothing after a failure.
    unfold Settings.save
    cases folder.write .settings (Json.object _ : Json).toText.toUTF8 with
    | mk result after =>
      cases result with
      | error fault => simp [reportUnsaved, going]
      | ok _ =>
        dsimp only
        split
        · rename_i nothing
          exact absurd (Json.object.inj nothing) occupied
        · exact ⟨rfl, by simp⟩

end Accept

section Run

variable {folder : Settings.Folder} {dialog : Dialog}

/-- The keys of the rows, in their order. -/
def rowKeys (dialog : Dialog) : List String :=
  dialog.rows.map (·.key)

/-- An action leaves the rows with their keys. -/
theorem act_rowKeys {action : Action} {next : Dialog} {after : Settings.Folder}
    (done : act folder dialog action = .ok (next, after)) : next.rowKeys = dialog.rowKeys := by
  -- What a control holds is changed in its row.
  have edited (key : String) (change : Control → Control) :
      (dialog.edit key change).rowKeys = dialog.rowKeys := by
    simp only [rowKeys, edit, List.map_map]
    refine List.map_congr_left fun row _ => ?_
    simp only [Function.comp_apply]
    split <;> rfl
  -- Only edits change controls, and they change what is in a row.
  cases action with
  | check key checked | type key text =>
    simp only [act] at done
    split at done
    · cases done
      exact edited key _
    · cases done
  | ok =>
    simp only [act, Except.ok.injEq] at done
    rw [rowKeys, ← congrArg (·.1.rows) done, accept_rows]
    rfl
  | cancel | loseFolder =>
    cases done
    rfl

/-- Only an attempt changes the settings of the dialog. -/
theorem act_settings {action : Action} {next : Dialog} {after : Settings.Folder}
    (done : act folder dialog action = .ok (next, after)) (other : action ≠ .ok) :
    next.settings = dialog.settings := by
  -- All other actions are about the controls, the dialog or the folder.
  cases action with
  | check key checked | type key text =>
    simp only [act] at done
    split at done
    · cases done
      rfl
    · cases done
  | ok => exact absurd rfl other
  | cancel | loseFolder =>
    cases done
    rfl

/-- The dialog ends with what each attempt has taken over, one on top of the other. -/
theorem run_settings (actions : List Action) : (run folder dialog actions).dialog.settings =
    (attempts folder dialog actions).foldl (fun settings rows => settings.override (takenOver rows))
      dialog.settings := by
  -- Induction on the actions, of which only attempts count.
  induction actions generalizing folder dialog with
  | nil => rfl
  | cons action rest inner =>
    unfold run attempts
    split
    · -- A closed dialog takes no more actions.
      rfl
    · cases done : act folder dialog action with
      | error key => cases action <;> rfl
      | ok result =>
        obtain ⟨next, after⟩ := result
        -- An attempt takes over on top of the settings that it has found.
        by_cases attempt : action = .ok
        · subst attempt
          have taken := accept_settings folder dialog
          simp only [act, Except.ok.injEq] at done
          rw [done] at taken
          simp only [inner, List.foldl_cons]
          rw [← taken]
        · -- Any other action leaves the settings as they are, and is no attempt.
          have same := act_settings done attempt
          cases action <;> simp_all

/-- What each action keeps of the rows holds at all attempts and at the end. -/
theorem rows_of_run {P : List Row → Prop} (kept : ∀ {folder : Settings.Folder} {dialog : Dialog}
      {action : Action} {next : Dialog} {after : Settings.Folder},
      act folder dialog action = .ok (next, after) → P dialog.rows → P next.rows)
    (holds : P dialog.rows) (actions : List Action) :
    P (run folder dialog actions).dialog.rows ∧
      ∀ rows ∈ attempts folder dialog actions, P rows := by
  -- Induction on the actions: an attempt is on the rows that the actions before it have left.
  induction actions generalizing folder dialog with
  | nil => exact ⟨holds, by simp [attempts]⟩
  | cons action rest inner =>
    unfold run attempts
    split
    · -- A closed dialog takes no more actions, so its rows stay.
      exact ⟨holds, by simp⟩
    · cases done : act folder dialog action with
      | error key => exact ⟨holds, by cases action <;> simp⟩
      | ok result =>
        obtain ⟨next, after⟩ := result
        obtain ⟨atEnd, later⟩ := @inner after next (kept done holds)
        refine ⟨atEnd, ?_⟩
        -- Only an attempt adds its rows to the list.
        cases action with
        | ok => exact List.forall_mem_cons.mpr ⟨holds, later⟩
        | _ => exact later

/-- All rows of a session have the keys that the dialog has opened with. -/
theorem rowKeys_of_run (actions : List Action) :
    (run folder dialog actions).dialog.rowKeys = dialog.rowKeys ∧
      ∀ rows ∈ attempts folder dialog actions, rows.map (·.key) = dialog.rowKeys :=
  @rows_of_run folder dialog (fun rows => rows.map (·.key) = dialog.rowKeys)
    (fun done same => (act_rowKeys done).trans same) rfl actions

/-- A session goes on while the dialog is open and every control has been there. -/
structure Session.IsGoing (session : Session) : Prop where
  closing : session.dialog.closing = none
  unknownKey : session.unknownKey = none

/-- Another attempt is made on the dialog as the session has left it. -/
theorem run_concat_ok {actions : List Action} (going : (run folder dialog actions).IsGoing) :
    run folder dialog (actions ++ [.ok]) =
      { dialog := (accept (run folder dialog actions).folder (run folder dialog actions).dialog).1
        folder := (accept (run folder dialog actions).folder (run folder dialog actions).dialog).2
        : Session } := by
  -- Induction on the actions: none of them ends a session that goes on behind them all.
  induction actions generalizing folder dialog with
  | nil =>
    have here : dialog.closing = none := going.closing
    simp [run, act, here]
  | cons action rest inner =>
    rw [List.cons_append]
    unfold run at going ⊢
    split
    · -- The session would have ended by now.
      rename_i closed
      rw [if_pos closed] at going
      rw [going.closing] at closed
      cases closed
    · rename_i here
      rw [if_neg here] at going
      cases done : act folder dialog action with
      | error key =>
        -- The session would have met an unknown control.
        rw [done] at going
        cases going.unknownKey
      | ok result =>
        rw [done] at going
        exact inner going

end Run

section Opened

variable {rows : List Row} {settings : Members}

/-- The rows for settings are those for the settings behind the first one, with a row for the first
one in front if it has one. -/
theorem rowsFor_cons {descriptions value : Json} {key : String} {rest : Members}
    (built : rowsFor descriptions ((key, value) :: rest) = .ok rows) :
    ∃ description others, rowsFor descriptions rest = .ok others ∧
      rows = (rowFor? description key value).toList ++ others := by
  unfold rowsFor at built
  -- Rows are built from the end, and any description that cannot be had ends it all.
  split at built
  · cases built
  · rename_i description _
    cases later : rowsFor descriptions rest with
    | error failure =>
      rw [later] at built
      cases built
    | ok others =>
      rw [later] at built
      exact ⟨description, others, rfl, (Except.ok.inj built).symm⟩

/-- The rows of a dialog edit settings, each of them once and in their order. -/
theorem rowsFor_sublist {descriptions : Json} (built : rowsFor descriptions settings = .ok rows) :
    (rows.map (·.key)).Sublist settings.keys := by
  -- Each setting has one row or none.
  induction settings generalizing rows with
  | nil =>
    cases built
    exact .refl _
  | cons member rest inner =>
    obtain ⟨key, value⟩ := member
    obtain ⟨description, others, later, rfl⟩ := rowsFor_cons built
    have below := inner later
    -- Only a setting that is a truth value or an integer has a row.
    cases value with
    | bool checked | int number => exact below.cons_cons key
    | _ => exact below.cons key

/-- A dialog opens on settings that have been loaded, with the rows for them. -/
theorem open?_cases {folder : Settings.Folder} {opened : Dialog}
    (opens : open? folder = .ok opened) :
    (Settings.loadAll folder).result = .ok opened.settings ∧ opened.closing = none ∧
      ∃ descriptions, rowsFor descriptions opened.settings = .ok opened.rows := by
  unfold open? at opens
  -- Either file may keep the dialog from opening.
  split at opens
  · cases opens
  · rename_i settings loaded
    split at opens
    · cases opens
    · rename_i descriptions _
      cases built : rowsFor descriptions settings with
      | error failure =>
        rw [built] at opens
        cases opens
      | ok rows =>
        rw [built] at opens
        cases opens
        exact ⟨loaded, rfl, descriptions, built⟩

/-- A dialog opens on settings that have been loaded, each of them once, with rows for some. -/
theorem open?_spec {folder : Settings.Folder} {opened : Dialog}
    (opens : open? folder = .ok opened) :
    (Settings.loadAll folder).result = .ok opened.settings ∧
      opened.settings.HasDistinctKeys ∧ opened.rowKeys.Sublist opened.settings.keys := by
  obtain ⟨loaded, -, descriptions, built⟩ := open?_cases opens
  -- Settings that have been loaded fit, so none of them is there twice.
  have fits := (Settings.areLoaded_of_loadAll loaded).fits
  exact ⟨loaded, (Json.fits_object_iff.mp fits).1, rowsFor_sublist built⟩

/-- What is taken over are values of rows. -/
theorem keys_takenOver (rows : List Row) :
    (takenOver rows).keys.Sublist (rows.map (·.key)) := by
  -- Induction on the rows: a row adds its key where it gives a value.
  induction rows with
  | nil => exact .refl _
  | cons row rest inner =>
    rw [takenOver_cons]
    split
    · exact List.nil_sublist _
    · cases row.value? with
      | none => exact inner.cons row.key
      | some value => exact inner.cons_cons row.key

theorem valueIn?_cons (row : Row) (rows : List Row) (key : String) :
    valueIn? (row :: rows) key = if row.key = key then row.value? else valueIn? rows key := by
  by_cases same : row.key = key <;> simp [valueIn?, same]

/-- Where no row is refused, all rows are taken over with the values that they give. -/
theorem get?_takenOver (valid : rows.any (·.isRefused) = false)
    (distinct : (rows.map (·.key)).Nodup) (key : String) :
    (takenOver rows).get? key = valueIn? rows key := by
  -- Induction on the rows: the first one decides about its key, the others about all other keys.
  induction rows with
  | nil => rfl
  | cons row rest inner =>
    simp only [List.any_cons, Bool.or_eq_false_iff] at valid
    obtain ⟨new, distinct⟩ := List.nodup_cons.mp distinct
    have below := inner valid.2 distinct
    rw [takenOver_cons, valid.1, if_neg Bool.false_ne_true, Members.get?_append, below,
      valueIn?_cons]
    by_cases same : row.key = key
    · -- No row below has the same key.
      subst same
      have none : valueIn? rest row.key = none := by
        rw [← below, Members.get?_eq_none_iff]
        exact fun inside => new ((keys_takenOver rest).subset inside)
      cases row.value? <;> simp [none, Members.get?_cons]
    · cases row.value? <;> simp [same, Ne.symm same, Members.get?_cons]

/-- What is taken over changes no keys. -/
theorem keys_carried (settings : Members) (attempts : List (List Row)) :
    (carried settings attempts).keys = settings.keys := by
  simp [carried, Members.keys, Function.comp_def]

/-- What several attempts have taken over from rows of the settings. -/
theorem foldl_override_eq_carried (distinct : settings.HasDistinctKeys)
    {attempts : List (List Row)}
    (known : ∀ rows ∈ attempts, (rows.map (·.key)).Sublist settings.keys) :
    attempts.foldl (fun settings rows => settings.override (takenOver rows)) settings =
      carried settings attempts := by
  -- Induction on the attempts: the last of them counts for what it has taken over.
  induction attempts using List.reverseRecOn with
  | nil => simp [carried, lastTaken?]
  | append_singleton front last inner =>
    -- The keys stay those of the settings, so the last attempt only replaces values.
    have before := inner fun rows made => known rows (List.mem_append_left _ made)
    have taken := (keys_takenOver last).trans (known last (by simp))
    have keys := keys_carried settings front
    rw [List.foldl_append, before, List.foldl_cons, List.foldl_nil,
      Members.override_of_subset (by rw [Members.HasDistinctKeys, keys]; exact distinct)
        (distinct.sublist taken) (keys ▸ taken.subset), carried, carried, List.map_map]
    refine List.map_congr_left fun member _ => ?_
    simp only [Function.comp_apply, lastTaken?, List.reverse_append, List.reverse_singleton,
      List.singleton_append, List.findSome?_cons]
    cases (takenOver last).get? member.1 <;> rfl

end Opened

/-- Without any number that was taken over for a blank field, earlier attempts do not count. -/
theorem filledIn_carried {settings : Members} {rows : List Row} {earlier : List (List Row)}
    (fresh : ∀ key, valueIn? rows key = none → lastTaken? earlier key = none) :
    filledIn (carried settings earlier) rows = filledIn settings rows := by
  -- A field that gives no number has had none taken over before.
  rw [filledIn, filledIn, carried, List.map_map]
  refine List.map_congr_left fun member _ => ?_
  cases value : valueIn? rows member.1 with
  | none => simp [value, fresh member.1 value]
  | some given => simp [value]

section Session

variable {folder : Settings.Folder} {opened : Dialog} (opens : open? folder = .ok opened)
  (actions : List Action)

include opens

/-- The settings of a session are those that were loaded, with what the attempts have taken over. -/
theorem run_settings_eq_carried : (run folder opened actions).dialog.settings =
    carried opened.settings (attempts folder opened actions) := by
  -- The rows of every attempt edit settings that were loaded, each of them once.
  obtain ⟨-, distinct, sublist⟩ := open?_spec opens
  rw [run_settings, foldl_override_eq_carried distinct]
  exact fun rows made => (rowKeys_of_run actions).2 rows made ▸ sublist

/-- A session takes over from rows that are not refused just what fills in its settings. -/
theorem override_takenOver_eq_filledIn
    (valid : (run folder opened actions).dialog.rows.any (·.isRefused) = false) :
    (run folder opened actions).dialog.settings.override
        (takenOver (run folder opened actions).dialog.rows) =
      filledIn (carried opened.settings (attempts folder opened actions))
        (run folder opened actions).dialog.rows := by
  obtain ⟨-, distinct, sublist⟩ := open?_spec opens
  -- The rows still have keys among the settings, so that they only replace values.
  have keys : (run folder opened actions).dialog.settings.keys = opened.settings.keys := by
    rw [run_settings_eq_carried opens, keys_carried]
  have rows : (run folder opened actions).dialog.rowKeys.Sublist opened.settings.keys := by
    rw [(rowKeys_of_run actions).1]
    exact sublist
  have taken := (keys_takenOver _).trans rows
  rw [Members.override_of_subset (by rw [Members.HasDistinctKeys, keys]; exact distinct)
    (distinct.sublist taken) (keys ▸ taken.subset), run_settings_eq_carried opens, filledIn]
  refine List.map_congr_left fun member _ => ?_
  rw [get?_takenOver valid (distinct.sublist rows)]

/-- There is always something to be written, because every default has a value. -/
theorem filledIn_ne_nil (attempts : List (List Row)) (rows : List Row) :
    filledIn (carried opened.settings attempts) rows ≠ [] := by
  -- The defaults stand in front of all settings that are loaded.
  have front := (Settings.areLoaded_of_loadAll (open?_spec opens).1).front
  intro nothing
  have empty : opened.settings = [] := by simpa [filledIn, carried] using nothing
  rw [empty] at front
  cases List.prefix_nil.mp front

end Session

/-- What an attempt leaves in the file. A refused one leaves the file as it is and the dialog open.
Any other one is accepted if it can be written, and then the file has the loaded settings with each
checkbox's state and each field's number; the setting of a blank field has the number that an
earlier attempt has taken over for it, and only where none has, the value that was loaded. -/
theorem file_of_attempt {folder : Settings.Folder} {opened : Dialog}
    (opens : open? folder = .ok opened) {actions : List Action}
    (going : (run folder opened actions).IsGoing) :
    let before := run folder opened actions
    let after := run folder opened (actions ++ [.ok])
    let earlier := attempts folder opened actions
    let written := filledIn (carried opened.settings earlier) before.dialog.rows
    (before.dialog.rows.any (·.isRefused) = true →
      after.folder = before.folder ∧ after.dialog.closing = none) ∧
    (after.dialog.closing = some .accepted ↔
      before.dialog.rows.any (·.isRefused) = false ∧
        (Settings.save before.folder (.object written)).entries = []) ∧
    (after.dialog.closing = some .accepted → after.folder =
      before.folder.set .settings (.bytes (Json.object written).toText.toUTF8)) ∧
    ((∀ key, valueIn? before.dialog.rows key = none → lastTaken? earlier key = none) →
      written = filledIn opened.settings before.dialog.rows) := by
  intro before after earlier written
  have closing : before.dialog.closing = none := going.closing
  have attempted : after = _ := run_concat_ok going
  -- Refused, the attempt leaves the folder and the dialog as they are.
  have refusing (refused : before.dialog.rows.any (·.isRefused) = true) :
      after.folder = before.folder ∧ after.dialog.closing = none := by
    obtain ⟨same, still⟩ := @accept_of_isRefused before.folder _ refused
    rw [attempted]
    exact ⟨same, still.trans closing⟩
  -- Otherwise it writes the settings with what all attempts have taken over.
  have writing (valid : before.dialog.rows.any (·.isRefused) = false) :
      after.folder = (Settings.save before.folder (.object written)).folder ∧
        (after.dialog.closing = some .accepted ↔
          (Settings.save before.folder (.object written)).entries = []) := by
    rw [attempted]
    exact accept_of_valid valid (override_takenOver_eq_filledIn opens actions valid)
      (filledIn_ne_nil opens _ _) closing
  -- So it is accepted just where it is not refused and can be written.
  have accepting : after.dialog.closing = some .accepted ↔
      before.dialog.rows.any (·.isRefused) = false ∧
        (Settings.save before.folder (.object written)).entries = [] := by
    cases valid : before.dialog.rows.any (·.isRefused) with
    | true => simp [(refusing valid).2]
    | false => simp [(writing valid).2]
  refine ⟨refusing, accepting, fun accepted => ?_, filledIn_carried⟩
  -- A save without an entry has written its text, and nothing else.
  obtain ⟨valid, saved⟩ := accepting.mp accepted
  rw [(writing valid).1, (Settings.write_spec (Settings.write_of_saved saved)).1]

section Columns

/-- A folder whose settings have one number more than the defaults. -/
def columns : Settings.Folder :=
  { settings := .bytes (Json.object [("columns", .int 4)]).toText.toUTF8 }

/-- The dialog that opens on this folder. -/
def columnsDialog : Dialog :=
  { settings := [("darkmode", .bool false), ("decimal_places", .int 8),
      ("after_paste_enter", .bool false), ("columns", .int 4)]
    rows := [⟨"darkmode", .text "darkmode", .checkbox false⟩,
      ⟨"decimal_places", .text "decimal_places (min. 2):", .field "8" ""⟩,
      ⟨"after_paste_enter", .text "after_paste_enter", .checkbox false⟩,
      ⟨"columns", .text "columns (min. 2):", .field "4" ""⟩] }

/-- A first attempt is refused because of the last row, and then both fields are blanked. -/
def blanking : List Action :=
  [.type "decimal_places" "3", .type "columns" "x", .ok, .type "decimal_places" "",
    .type "columns" ""]

theorem open?_columns : open? columns = .ok columnsDialog := by
  -- What is in the file are the settings that have been written into it.
  have fits : Json.Fits Json.maxDepth (.object [("columns", .int 4)]) := by
    refine .object ?_ (List.forall_mem_singleton.mpr (.int_of_lt_ten (by decide)))
    unfold Members.HasDistinctKeys
    decide
  have loaded : (Settings.loadAll columns).result = .ok columnsDialog.settings :=
    Settings.loadAll_toText fits rfl
  rw [open?, loaded]
  rfl

/-- An attempt on two blank fields writes the number that the refused attempt has taken over. -/
theorem file_of_attempt_blanked :
    (run columns columnsDialog (blanking ++ [.ok])).folder = columns.set .settings
      (.bytes (Json.object (columnsDialog.settings.put "decimal_places" (.int 3))).toText.toUTF8) := by
  -- Up to the second attempt the dialog is open, and no control has been unknown.
  have going : (run columns columnsDialog blanking).IsGoing := ⟨rfl, rfl⟩
  obtain ⟨-, -, file, -⟩ := file_of_attempt open?_columns going
  exact file rfl

/-- So the file does not have the value that was loaded for a field that is blank. -/
theorem file_lacks_loaded_value :
    open? columns = .ok columnsDialog ∧
      (run columns columnsDialog (blanking ++ [.ok])).dialog.closing = some .accepted ∧
      filledIn columnsDialog.settings (run columns columnsDialog blanking).dialog.rows =
        columnsDialog.settings ∧
      (run columns columnsDialog (blanking ++ [.ok])).folder.settings ≠
        .bytes (Json.object columnsDialog.settings).toText.toUTF8 := by
  refine ⟨open?_columns, rfl, rfl, fun same => ?_⟩
  -- The two texts are worked out, and differ in the decimal places.
  have written : (run columns columnsDialog (blanking ++ [.ok])).folder.settings = .bytes
      (Json.object (columnsDialog.settings.put "decimal_places" (.int 3))).toText.toUTF8 := rfl
  rw [written, Settings.FileState.bytes.injEq] at same
  have texts := String.toByteArray_inj.mp same
  exact absurd texts (by decide +kernel)

end Columns

end Dialog

end DeskCalc.Window
