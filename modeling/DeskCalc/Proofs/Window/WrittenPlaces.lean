import DeskCalc.Proofs.Text.Typed
import DeskCalc.Proofs.Window.Attempts

/-! Written places: the decimal places that an accepted dialog leaves in the file. A number that is
taken over from their field is not below the minimum, but a field that stays blank lets the loaded
places through, however few they are. -/

namespace DeskCalc.Window

open Json (Members Fits maxDepth)
open Settings (AreLoaded minPlaces)

section Rows

variable {row : Row} {key text : String} {value : Json}

/-- A number of a field can be written, and for decimal places it is not below the minimum. -/
theorem Dialog.number_of_fieldValue {number : Int}
    (given : fieldValue key text = .ok (some number)) :
    number.natAbs < 10 ^ Text.maxIntegerDigits ∧
      (key = "decimal_places" → minPlaces ≤ number) := by
  -- Only a text that is read as an integer, and for places as one that is large enough, is left.
  unfold fieldValue at given
  dsimp only at given
  split at given
  · cases given
  · split at given
    · cases given
    · rename_i read
      split at given
      · cases given
      · rename_i enough
        obtain rfl := Option.some.inj (Except.ok.inj given)
        refine ⟨Text.natAbs_lt_of_readInteger read, fun places => ?_⟩
        simpa [places] using enough

/-- A field has no number and is not refused just where it is blank. -/
theorem Dialog.fieldValue_eq_none_iff :
    fieldValue key text = .ok none ↔ Text.allBlank text = true := by
  rw [← Text.trimmed_eq_empty_iff, fieldValue]
  by_cases blank : Text.trimmed text = ""
  · simp [blank]
  -- Any other text is refused or gives a number.
  · refine iff_of_false (fun none => ?_) blank
    simp only [blank, beq_iff_eq, if_false] at none
    split at none
    · cases none
    · split at none <;> cases none

namespace Row

/-- The row of a key, if it is this one, has a field. -/
def HasField (row : Row) (key : String) : Prop :=
  row.key = key → ∃ placeholder text, row.control = .field placeholder text

/-- The value of a row can be written. -/
theorem fits_of_value? (given : row.value? = some value) (depth : Nat) : Fits depth value := by
  -- A checkbox gives a truth value, and a field an integer that has been read.
  unfold value? at given
  split at given
  · obtain rfl := Option.some.inj given
    exact .bool _
  · split at given
    · cases given
    · rename_i read
      obtain ⟨number, rfl, rfl⟩ := Option.map_eq_some_iff.mp given
      exact .int (Dialog.number_of_fieldValue read).1

/-- A field for decimal places gives an integer that is not below the minimum. -/
theorem minPlaces_le_of_value? (field : row.HasField "decimal_places")
    (places : row.key = "decimal_places") (given : row.value? = some value) :
    ∃ number, value = .int number ∧ minPlaces ≤ number := by
  -- The number of such a field has been compared with the minimum.
  obtain ⟨placeholder, text, control⟩ := field places
  simp only [value?, control] at given
  split at given
  · cases given
  · rename_i read
    obtain ⟨number, rfl, rfl⟩ := Option.map_eq_some_iff.mp given
    exact ⟨number, rfl, (Dialog.number_of_fieldValue read).2 places⟩

/-- A row with a field that gives nothing is blank, unless it is refused. -/
theorem allBlank_of_value? {placeholder : String} (control : row.control = .field placeholder text)
    (valid : row.isRefused = false) (nothing : row.value? = none) :
    Text.allBlank text = true := by
  -- A field that is neither refused nor blank would give a number.
  rw [← @Dialog.fieldValue_eq_none_iff row.key]
  simp only [value?, isRefused, control] at valid nothing
  split at nothing
  · rename_i refused
    rw [refused] at valid
    cases valid
  · rename_i read
    rw [read, Option.map_eq_none_iff.mp nothing]

end Row

end Rows

namespace Dialog

section Attempts

variable {folder after : Settings.Folder} {dialog next : Dialog} {rows : List Row}
  {settings : Members} {key : String}

/-- What is taken over for a key is the value of a row that edits it. -/
theorem exists_row_of_mem_takenOver {member : String × Json} (taken : member ∈ takenOver rows) :
    ∃ row ∈ rows, row.key = member.1 ∧ row.value? = some member.2 := by
  obtain ⟨row, inside, same⟩ := List.mem_filterMap.mp taken
  obtain ⟨value, given, rfl⟩ := Option.map_eq_some_iff.mp same
  exact ⟨row, (List.takeWhile_prefix _).subset inside, rfl, given⟩

/-- A session leaves settings as they are loaded. -/
theorem run_areLoaded (loaded : AreLoaded dialog.settings) (actions : List Action) :
    AreLoaded (run folder dialog actions).dialog.settings := by
  rw [run_settings]
  generalize dialog.settings = settings at loaded
  -- Each attempt puts values of rows on top, and all of these can be written.
  induction attempts folder dialog actions generalizing settings with
  | nil => exact loaded
  | cons rows rest inner =>
    refine inner _ (loaded.override fun member taken => ?_)
    obtain ⟨row, -, -, given⟩ := exists_row_of_mem_takenOver taken
    exact Row.fits_of_value? given _

/-- An attempt leaves the dialog open, or closes it with the settings written. -/
theorem accept_cases (folder : Settings.Folder) (dialog : Dialog) :
    (accept folder dialog).1.closing = dialog.closing ∨
      (accept folder dialog).1.closing = some .accepted ∧
        dialog.rows.any (·.isRefused) = false ∧ (accept folder dialog).2.settings =
          .bytes (Json.object (accept folder dialog).1.settings).toText.toUTF8 := by
  rw [← collect_refusal dialog.settings]
  unfold accept
  split
  · exact .inl rfl
  · rename_i settings collected
    dsimp only
    split
    · exact .inl rfl
    · rename_i written
      refine .inr ⟨rfl, by rw [collected]; rfl, Settings.settings_of_saved ?_⟩
      -- After a failure an empty object would be returned.
      unfold Settings.save at written ⊢
      split at written
      · rfl
      · exact absurd rfl written

/-- A closed dialog takes no more actions. -/
theorem run_of_closed (closed : dialog.closing.isSome = true) (actions : List Action) :
    run folder dialog actions = { dialog, folder } := by
  cases actions with
  | nil => rfl
  | cons action rest => rw [run, if_pos closed]

/-- A session that is accepted has ended with an attempt on rows of which none is refused, and the
file holds its settings. -/
theorem file_of_accepted {actions : List Action} (isOpen : dialog.closing = none)
    (accepted : (run folder dialog actions).dialog.closing = some .accepted) :
    (run folder dialog actions).dialog.rows ∈ attempts folder dialog actions ∧
      (run folder dialog actions).dialog.rows.any (·.isRefused) = false ∧
      (run folder dialog actions).folder.settings =
        .bytes (Json.object (run folder dialog actions).dialog.settings).toText.toUTF8 := by
  -- Induction on the actions: the one that closes the dialog is the last that counts.
  induction actions generalizing folder dialog with
  | nil =>
    rw [run, isOpen] at accepted
    cases accepted
  | cons action rest inner =>
    unfold run at accepted ⊢
    unfold attempts
    simp only [isOpen, Option.isSome_none, Bool.false_eq_true, if_false] at accepted ⊢
    cases done : act folder dialog action with
    | error key =>
      simp only [done, isOpen] at accepted
      cases accepted
    | ok result =>
      obtain ⟨next, after⟩ := result
      simp only [done] at accepted
      cases action with
      | check key checked | type key text =>
        refine inner ?_ accepted
        simp only [act] at done
        split at done
        · cases done
          exact isOpen
        · cases done
      | cancel =>
        cases done
        rw [run_of_closed rfl] at accepted
        cases accepted
      | loseFolder =>
        cases done
        exact inner isOpen accepted
      | ok =>
        obtain rfl : (accept folder dialog).1 = next := congrArg Prod.fst (Except.ok.inj done)
        obtain rfl : (accept folder dialog).2 = after := congrArg Prod.snd (Except.ok.inj done)
        rcases accept_cases folder dialog with still | ⟨closed, valid, file⟩
        · obtain ⟨made, others⟩ := inner (still.trans isOpen) accepted
          exact ⟨List.mem_cons_of_mem _ made, others⟩
        · dsimp only
          rw [run_of_closed (by rw [closed]; rfl), accept_rows]
          exact ⟨List.mem_cons_self, valid, file⟩

/-- Using a control leaves a field where there is one. -/
theorem act_hasField {action : Action} (done : act folder dialog action = .ok (next, after))
    (fields : ∀ row ∈ dialog.rows, row.HasField key) : ∀ row ∈ next.rows, row.HasField key := by
  -- A field stays one with any text, and a checkbox cannot be typed into.
  have edited (name : String) {change : Control → Control}
      (keeps : ∀ placeholder text, ∃ other, change (.field placeholder text) =
        .field placeholder other) : ∀ row ∈ (dialog.edit name change).rows, row.HasField key := by
    intro row member
    obtain ⟨before, inside, rfl⟩ := List.mem_map.mp member
    split
    · intro same
      obtain ⟨placeholder, text, control⟩ := fields before inside same
      obtain ⟨other, changed⟩ := keeps placeholder text
      exact ⟨placeholder, other, by rw [← changed, ← control]⟩
    · exact fields before inside
  cases action with
  | check name checked | type name text =>
    simp only [act] at done
    split at done
    · cases done
      exact edited name fun placeholder text => ⟨_, rfl⟩
    · cases done
  | ok =>
    obtain rfl : (accept folder dialog).1 = next := congrArg Prod.fst (Except.ok.inj done)
    rw [accept_rows]
    exact fields
  | cancel | loseFolder =>
    cases done
    exact fields

/-- The rows of a key whose setting is an integer have fields. -/
theorem rowsFor_hasField {descriptions : Json} (built : rowsFor descriptions settings = .ok rows)
    (integer : ∀ member ∈ settings, member.1 = key → ∃ number, member.2 = .int number) :
    ∀ row ∈ rows, row.HasField key := by
  -- Each setting has one row or none.
  induction settings generalizing rows with
  | nil =>
    cases built
    simp
  | cons member rest inner =>
    obtain ⟨name, value⟩ := member
    obtain ⟨first, later⟩ := List.forall_mem_cons.mp integer
    obtain ⟨description, others, below, rfl⟩ := rowsFor_cons built
    refine List.forall_mem_append.mpr ⟨fun row member same => ?_, inner below later⟩
    cases value with
    | int number =>
      obtain rfl := List.mem_singleton.mp member
      exact ⟨_, _, rfl⟩
    | bool checked =>
      obtain rfl := List.mem_singleton.mp member
      obtain ⟨number, other⟩ := first same
      cases other
    | _ => cases member

/-- A setting that is an integer has a row. -/
theorem mem_keys_rowsFor {descriptions : Json} {number : Int}
    (built : rowsFor descriptions settings = .ok rows) (inside : (key, .int number) ∈ settings) :
    key ∈ rows.map (·.key) := by
  -- Induction on the settings, of which every integer has a row.
  induction settings generalizing rows with
  | nil => cases inside
  | cons member rest inner =>
    obtain ⟨name, value⟩ := member
    obtain ⟨description, others, below, rfl⟩ := rowsFor_cons built
    rw [List.map_append]
    rcases List.mem_cons.mp inside with same | later
    · cases same
      exact List.mem_append_left _ (List.mem_singleton_self _)
    · exact List.mem_append_right _ (inner below later)

/-- What was taken over last for the key of a field for decimal places is an integer that is not
below the minimum. -/
theorem minPlaces_le_of_lastTaken? {tried : List (List Row)} {value : Json}
    (fields : ∀ rows ∈ tried, ∀ row ∈ rows, row.HasField "decimal_places")
    (taken : lastTaken? tried "decimal_places" = some value) :
    ∃ number, value = .int number ∧ minPlaces ≤ number := by
  -- Some attempt took the value over from a row of this key.
  obtain ⟨rows, made, found⟩ := List.exists_of_findSome?_eq_some taken
  obtain ⟨row, inside, places, given⟩ := exists_row_of_mem_takenOver (Members.mem_of_get? found)
  exact row.minPlaces_le_of_value? (fields rows (List.mem_reverse.mp made) row inside) places given

/-- A row of distinct ones gives the value for its key. -/
theorem valueIn?_of_mem {row : Row} (distinct : (rows.map (·.key)).Nodup) (inside : row ∈ rows) :
    valueIn? rows row.key = row.value? := by
  -- Induction on the rows: the first one with the key is the only one.
  induction rows with
  | nil => cases inside
  | cons first rest inner =>
    obtain ⟨new, distinct⟩ := List.nodup_cons.mp distinct
    rw [valueIn?_cons]
    rcases List.mem_cons.mp inside with rfl | later
    · rw [if_pos rfl]
    · have other : first.key ≠ row.key := fun same =>
        new (List.mem_map.mpr ⟨row, later, same.symm⟩)
      rw [if_neg other]
      exact inner distinct later

/-- Where nothing has been taken over for a key, its field is blank in rows that were taken over
as a whole. -/
theorem allBlank_of_lastTaken? {tried : List (List Row)} (made : rows ∈ tried)
    (nothing : lastTaken? tried key = none) (valid : rows.any (·.isRefused) = false)
    (distinct : (rows.map (·.key)).Nodup) (fields : ∀ row ∈ rows, row.HasField key) :
    ∀ row ∈ rows, row.key = key →
      ∃ placeholder text, row.control = .field placeholder text ∧ Text.allBlank text = true := by
  rintro row inside rfl
  obtain ⟨placeholder, text, control⟩ := fields row inside rfl
  -- What the row gave would have been taken over.
  have given : row.value? = none := by
    rw [← valueIn?_of_mem distinct inside, ← get?_takenOver valid distinct]
    exact List.findSome?_eq_none_iff.mp nothing rows (List.mem_reverse.mpr made)
  have accepted : row.isRefused = false := by simpa using List.any_eq_false.mp valid row inside
  exact ⟨placeholder, text, control, row.allBlank_of_value? control accepted given⟩

/-- The value of a key is the last one that was taken over, and else its old one. -/
theorem get?_carried (settings : Members) (tried : List (List Row)) (key : String) :
    (carried settings tried).get? key =
      (settings.get? key).map fun old => (lastTaken? tried key).getD old :=
  Members.get?_map settings (fun known old => (lastTaken? tried known).getD old) key

end Attempts

/-- A dialog opens with a field for each setting that is an integer. -/
theorem hasField_of_open? {folder : Settings.Folder} {opened : Dialog}
    (opens : open? folder = .ok opened) {key : String} {number : Int}
    (found : opened.settings.get? key = some (.int number)) :
    key ∈ opened.rowKeys ∧ ∀ row ∈ opened.rows, row.HasField key := by
  obtain ⟨-, distinct, -⟩ := open?_spec opens
  obtain ⟨-, -, descriptions, built⟩ := open?_cases opens
  refine ⟨mem_keys_rowsFor built (Members.mem_of_get? found), ?_⟩
  refine rowsFor_hasField built fun member inside same => ⟨number, ?_⟩
  -- The loaded settings have each key once.
  have value := Members.get?_of_mem distinct inside
  rw [same, found] at value
  exact (Option.some.inj value).symm

/-- The decimal places that an accepted dialog leaves in the file are an integer. They are the
number that was taken over from their field by the last attempt that took one over, and not below
the minimum; or no attempt has taken one over, the field is blank, and they are those that the file
had before, whether these are below the minimum or not. -/
theorem places_of_accepted {folder : Settings.Folder} {opened : Dialog}
    (opens : open? folder = .ok opened) {before : Int}
    (had : (Settings.load folder "decimal_places").result = .ok (.int before))
    {actions : List Action}
    (accepted : (run folder opened actions).dialog.closing = some .accepted) :
    ∃ saved : Int,
      (Settings.load (run folder opened actions).folder "decimal_places").result =
        .ok (.int saved) ∧
      (lastTaken? (attempts folder opened actions) "decimal_places" = some (.int saved) ∧
          Settings.minPlaces ≤ saved ∨
        lastTaken? (attempts folder opened actions) "decimal_places" = none ∧ saved = before ∧
          ∃ row ∈ (run folder opened actions).dialog.rows, row.key = "decimal_places" ∧
            ∃ placeholder text, row.control = .field placeholder text ∧
              Text.allBlank text = true) := by
  obtain ⟨all, distinct, sublist⟩ := open?_spec opens
  obtain ⟨-, isOpen, -⟩ := open?_cases opens
  have found := Settings.get?_of_load all (by decide) had
  obtain ⟨hasRow, fields⟩ := hasField_of_open? opens found
  obtain ⟨made, valid, file⟩ := file_of_accepted isOpen accepted
  -- What is in the file is loaded, and the dialog ends with it.
  have loaded := (run_areLoaded (Settings.areLoaded_of_loadAll all) actions).loadAll_eq file
  have saves {saved : Int} (taken : (lastTaken? (attempts folder opened actions)
      "decimal_places").getD (.int before) = .int saved) :
      (Settings.load (run folder opened actions).folder "decimal_places").result =
        .ok (.int saved) := by
    refine Settings.load_of_get? loaded (by decide) ?_
    rw [run_settings_eq_carried opens, get?_carried, found, Option.map_some, taken]
  obtain ⟨-, attempted⟩ := @rows_of_run folder opened
    (fun rows => ∀ row ∈ rows, row.HasField "decimal_places") act_hasField fields actions
  cases taken : lastTaken? (attempts folder opened actions) "decimal_places" with
  | some value =>
    obtain ⟨saved, rfl, enough⟩ := minPlaces_le_of_lastTaken? attempted taken
    exact ⟨saved, saves (by rw [taken]; rfl), .inl ⟨rfl, enough⟩⟩
  | none =>
    have rowKeys := (@rowKeys_of_run folder opened actions).2 _ made
    -- There is a row for decimal places, and it is still blank.
    obtain ⟨row, inside, places⟩ := List.mem_map.mp (rowKeys ▸ hasRow)
    have blank := allBlank_of_lastTaken? made taken valid (rowKeys ▸ distinct.sublist sublist)
      (attempted _ made) row inside places
    exact ⟨before, saves (by rw [taken]; rfl), .inr ⟨rfl, rfl, row, inside, places, blank⟩⟩

section Few

/-- A folder whose settings have no decimal places. -/
def noPlaces : Settings.Folder :=
  { settings := .bytes (Json.object [("decimal_places", .int 0)]).toText.toUTF8 }

/-- The dialog that opens on this folder. -/
def noPlacesDialog : Dialog :=
  { settings := [("darkmode", .bool false), ("decimal_places", .int 0),
      ("after_paste_enter", .bool false)]
    rows := [⟨"darkmode", .text "darkmode", .checkbox false⟩,
      ⟨"decimal_places", .text "decimal_places (min. 2):", .field "0" ""⟩,
      ⟨"after_paste_enter", .text "after_paste_enter", .checkbox false⟩] }

/-- One place is refused, and then three are typed. -/
def threePlaces : List Action :=
  [.type "decimal_places" "1", .ok, .type "decimal_places" " 3 ", .ok]

theorem loadAll_noPlaces : (Settings.loadAll noPlaces).result = .ok noPlacesDialog.settings := by
  have fits : Fits maxDepth (.object [("decimal_places", .int 0)]) := by
    refine .object ?_ (List.forall_mem_singleton.mpr (.int_of_lt_ten (by decide)))
    unfold Members.HasDistinctKeys
    decide
  exact Settings.loadAll_toText fits rfl

theorem open?_noPlaces : open? noPlaces = .ok noPlacesDialog := by
  rw [open?, loadAll_noPlaces]
  rfl

theorem load_noPlaces : (Settings.load noPlaces "decimal_places").result = .ok (.int 0) :=
  Settings.load_of_get? loadAll_noPlaces (by decide) rfl

/-- Three places that are typed after one place has been refused are written. -/
theorem places_of_accepted_typed :
    (Settings.load (run noPlaces noPlacesDialog threePlaces).folder "decimal_places").result =
      .ok (.int 3) := by
  obtain ⟨saved, written, ⟨taken, -⟩ | ⟨nothing, -⟩⟩ :=
    @places_of_accepted noPlaces noPlacesDialog open?_noPlaces 0 load_noPlaces threePlaces rfl
  · -- The last attempt has taken three places over, and they are what is written.
    have three : (some (.int 3) : Option Json) = some (.int saved) := taken
    cases three
    exact written
  · cases nothing

/-- No places are written where the field is left blank on a file that has none. -/
theorem no_places_accepted :
    open? noPlaces = .ok noPlacesDialog ∧
      (Settings.load noPlaces "decimal_places").result = .ok (.int 0) ∧
      (run noPlaces noPlacesDialog [.ok]).dialog.closing = some .accepted ∧
      (Settings.load (run noPlaces noPlacesDialog [.ok]).folder "decimal_places").result =
        .ok (.int 0) ∧
      ¬ Settings.minPlaces ≤ 0 := by
  have loaded : (Settings.loadAll (run noPlaces noPlacesDialog [.ok]).folder).result =
      .ok noPlacesDialog.settings :=
    (Settings.areLoaded_of_loadAll loadAll_noPlaces).loadAll_eq rfl
  exact ⟨open?_noPlaces, load_noPlaces, rfl, Settings.load_of_get? loaded (by decide) rfl,
    by decide⟩

end Few

end Dialog

end DeskCalc.Window
