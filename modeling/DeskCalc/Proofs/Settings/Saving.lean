import DeskCalc.Proofs.Json.RoundTrip
import DeskCalc.Proofs.Settings.Loading

/-! Saving the settings: what has been saved is loaded again, over the defaults, and settings that
were loaded are saved in the text from which they would be loaded the same. Texts of any code points
can be saved, but halves side by side are loaded as the character that they are together. -/

namespace DeskCalc.Settings

open Json (Members Fits maxDepth)

section Writing

variable {folder after : Folder} {file : FileName} {content : ByteArray}

/-- A file is written where the folder is there and has room for it. -/
theorem write_spec (written : folder.write file content = (.ok (), after)) :
    after = folder.set file (.bytes content) ∧ folder.isGone = false ∧
      ∀ room ∈ folder.room, content.size ≤ room := by
  -- In every other case there is a fault.
  unfold Folder.write at written
  split at written
  · cases written
  · rename_i here
    split at written
    · cases written
    · split at written
      · rename_i boundless
        cases written
        exact ⟨rfl, by simpa using here, by simp [boundless]⟩
      · rename_i room bounded
        split at written
        · rename_i fits
          cases written
          exact ⟨rfl, by simpa using here, by simpa [bounded] using fits⟩
        · cases written

/-- Writing a file again changes nothing. -/
theorem write_again (written : folder.write file content = (.ok (), after)) :
    after.write file content = (.ok (), after) := by
  obtain ⟨rfl, here, fits⟩ := write_spec written
  obtain ⟨settings, descriptions, isGone, room⟩ := folder
  -- Writing touches neither the folder nor its room.
  cases file <;> cases room <;> simp_all [Folder.write, Folder.set, Folder.get]

end Writing

section Saved

variable {τ : Type} [Text.Coded τ] {folder : Folder} {value : Json τ}

/-- A save without an entry has written the text of the value. -/
theorem write_of_saved (saved : (save folder value).entries = []) :
    folder.write .settings value.toText.toUTF8 = (.ok (), (save folder value).folder) := by
  -- A save that fails leaves an entry.
  unfold save at *
  split at saved
  · rename_i written
    exact written
  · cases saved

/-- After a save the file holds the text of the value. -/
theorem settings_of_saved (saved : (save folder value).entries = []) :
    (save folder value).folder.settings = .bytes value.toText.toUTF8 := by
  rw [(write_spec (write_of_saved saved)).1]
  rfl

/-- Behind a save a value with the same text is saved without any change. -/
theorem save_again (saved : (save folder value).entries = []) {other : Json τ}
    (same : other.toText = value.toText) :
    (save (save folder value).folder other).entries = [] ∧
      (save (save folder value).folder other).folder = (save folder value).folder := by
  -- Only the text counts, and writing it again changes nothing.
  have again := write_again (write_of_saved saved)
  generalize (save folder value).folder = after at *
  simp only [save, same, again]
  exact ⟨trivial, trivial⟩

end Saved

section Read

variable {τ : Type} [DecidableEq τ] [Text.Coded τ] {folder : Folder}

/-- The text of a value that fits is read from its file. -/
theorem readFile_toText {value : Json τ} (fits : Fits maxDepth value) :
    readFile (.bytes value.toText.toUTF8) τ = .ok (some value.readBack) := by
  -- The text is plain, so the bytes are decoded to it.
  have text : FileState.readText (.bytes value.toText.toUTF8) = .ok value.toText :=
    FileState.readText_plain (Json.plain_print 0 value)
  rw [readFile, text]
  simp only [Json.read_toText fits]

/-- Members that a file holds are loaded over the defaults as they are read back. -/
theorem loadAll_of_settings {members : Members τ} (fits : Fits maxDepth (.object members))
    (file : folder.settings = .bytes (Json.object members).toText.toUTF8) :
    (loadAll folder τ).result = .ok ((defaults τ).override members.readBack) := by
  rw [loadAll, file, readFile_toText fits]
  rfl

/-- With strings for texts they are loaded as they are. -/
theorem loadAll_toText {members : Members} (fits : Fits maxDepth (.object members))
    (file : folder.settings = .bytes (Json.object members).toText.toUTF8) :
    (loadAll folder).result = .ok (defaults.override members) := by
  rw [loadAll_of_settings fits file, Members.readBack_eq fits (Json.joinedMembers_string members)]

end Read

section Loaded

variable {τ : Type} [Text.Coded τ]

/-- Settings as they are loaded: they are as a text is read, and start with the keys of the
defaults. -/
structure AreLoaded (settings : Members τ) : Prop where
  isRead : Json.IsRead maxDepth (.object settings)
  front : (defaults τ).keys <+: settings.keys

/-- The values of loaded settings fit, and their keys are distinct. -/
theorem AreLoaded.fits {settings : Members τ} (loaded : AreLoaded settings) :
    Fits maxDepth (.object settings) :=
  loaded.isRead.fits

/-- Every default has a key of its own. -/
theorem distinct_defaults : (defaults τ).HasDistinctKeys := by
  simp [Members.HasDistinctKeys, Members.keys, defaults]

/-- The defaults are as a text is read. -/
theorem isRead_defaults : Json.IsRead maxDepth (.object (defaults τ)) := by
  refine ⟨.object distinct_defaults ?_, ?_⟩
  · simp only [defaults, List.forall_mem_cons]
    exact ⟨.bool false, .int_of_lt_ten (by decide), .bool false, by simp⟩
  · -- Their keys are strings.
    simp [defaults, Json.joined, Json.joinedMembers]

variable [DecidableEq τ]

/-- What is loaded are the defaults with what the file gives on top. -/
theorem areLoaded_of_loadAll {folder : Folder} {settings : Members τ}
    (loaded : (loadAll folder τ).result = .ok settings) : AreLoaded settings := by
  -- The keys of the defaults stay in front of those that are new.
  rcases @loadAll_cases τ _ _ folder with ⟨failure, prevents⟩ | ⟨isRead, all⟩
  · cases loaded.symm.trans prevents.loadAll_result
  · cases loaded.symm.trans all
    refine ⟨isRead_defaults.override isRead, ?_⟩
    rw [Members.keys_override _ (Json.fits_object_iff.mp isRead.fits).1]
    exact List.prefix_append _ _

namespace AreLoaded

variable {settings : Members τ}

/-- Loaded settings are not changed by the defaults below them, even if one of them is given
a value. -/
theorem override_put_eq (loaded : AreLoaded settings) (key : τ) (value : Json τ) :
    (defaults τ).override (settings.put key value) = settings.put key value := by
  refine Members.override_of_prefix
    ((Json.fits_object_iff.mp loaded.fits).1.put key value) ?_
  rw [Members.keys_put]
  exact loaded.front.trans (List.prefix_append _ _)

/-- Settings that are loaded from a file are loaded the same once they are in it. -/
theorem loadAll_eq (loaded : AreLoaded settings) {folder : Folder}
    (file : folder.settings = .bytes (Json.object settings).toText.toUTF8) :
    (loadAll folder τ).result = .ok settings := by
  rw [loadAll_of_settings loaded.fits file,
    Members.readBack_eq loaded.fits (Json.object.inj loaded.isRead.joined),
    Members.override_of_prefix (Json.fits_object_iff.mp loaded.fits).1 loaded.front]

/-- Settings stay as they are loaded when some of them are given values, with strings for texts. -/
theorem override {settings others : Members} (loaded : AreLoaded settings)
    (inside : ∀ member ∈ others, Fits (maxDepth - 1) member.2) :
    AreLoaded (settings.override others) := by
  -- Each of the others gives its value to one key.
  induction others generalizing settings with
  | nil => exact loaded
  | cons other rest ih =>
    obtain ⟨fits, later⟩ := List.forall_mem_cons.mp inside
    have put : AreLoaded (settings.put other.1 other.2) := by
      refine ⟨⟨Fits.put loaded.fits fits other.1, Json.joined_string _⟩, ?_⟩
      rw [Members.keys_put]
      exact loaded.front.trans (List.prefix_append _ _)
    exact ih put later

end AreLoaded

end Loaded

section Update

variable {τ : Type} [DecidableEq τ] [Text.Coded τ] {folder : Folder} {settings : Members τ}
  {key : τ} {value : Json τ}

/-- A setting that was given a value and saved leaves all settings to be loaded, with what the value
is read back as. -/
theorem loadAll_of_update (fits : Fits (maxDepth - 1) value)
    (loaded : (loadAll folder τ).result = .ok settings)
    (saved : (save folder (.object (settings.put key value))).entries = []) :
    (loadAll (update folder key value).2 τ).result =
      .ok (settings.put (Text.joined key) value.readBack) := by
  -- The settings start with all the defaults, which do not change them when they are loaded.
  have before := areLoaded_of_loadAll loaded
  simp only [update, loaded]
  rw [loadAll_of_settings (Fits.put before.fits fits key) (settings_of_saved saved),
    Members.readBack_put before.isRead, before.override_put_eq]

/-- The key for all settings is loaded as all of them. -/
theorem load_allKey (loaded : (loadAll folder τ).result = .ok settings) :
    (load folder (allKey τ)).result = .ok (.object settings) := by
  simp [load, loaded, Except.map, valueOf]

/-- A key with a value other than all of them is loaded as that value. -/
theorem load_of_get? (loaded : (loadAll folder τ).result = .ok settings)
    (other : key ≠ allKey τ) (has : settings.get? key = some value) :
    (load folder key).result = .ok value := by
  simp [load, loaded, Except.map, valueOf, other, has]

/-- A key of the defaults is loaded with the value that it has among the settings. -/
theorem get?_of_load {settings : Members} {key : String} {value : Json}
    (all : (loadAll folder).result = .ok settings) (default : key ∈ defaults.keys)
    (loaded : (load folder key).result = .ok value) : settings.get? key = some value := by
  have single : ∀ known ∈ defaults.keys, ¬ (known == allKey) = true := by decide
  have known : key ∈ settings.keys := (areLoaded_of_loadAll all).front.subset default
  cases found : settings.get? key with
  | none => exact absurd known (Members.get?_eq_none_iff.mp found)
  | some old => simpa [load, all, Except.map, valueOf, single key default, found] using loaded

/-- Loaded settings with a value for a key have the same text once they are loaded again, unless the
joined key was another one of them or the joined value has a key twice. -/
theorem toText_put (loaded : AreLoaded settings)
    (apart : Text.joined key = key ∨ Text.joined key ∉ settings.keys)
    (distinct : value.joined.merged = value.joined) :
    (Json.object (settings.put (Text.joined key) value.readBack)).toText =
      (Json.object (settings.put key value)).toText := by
  -- Nothing is merged, and a joined value is written like the value.
  have joined : Json.joinedMembers settings = settings := Json.object.inj loaded.isRead.joined
  have same : settings.put (Text.joined key) value.readBack =
      Json.joinedMembers (settings.put key value) := by
    rw [Json.readBack, distinct]
    by_cases known : key ∈ settings.keys
    · obtain ⟨fixed, put⟩ := Json.joinedMembers_put_of_mem joined known value
      rw [put, fixed]
    · have new : Text.joined key ∉ settings.keys := by
        rcases apart with fixed | new
        · rwa [fixed]
        · exact new
      rw [Json.joinedMembers_put_of_not_mem joined known, Members.put_of_not_mem new]
  rw [same]
  exact congrArg String.ofList (Json.print_joined 0 (.object (settings.put key value)))

/-- Settings survive being saved, with texts of any code points, but for halves side by side: they
are loaded as the character that they are together, and of keys that are the same by then the later
value counts. What has been saved is loaded over the defaults, whose keys come first, and then the
others in their order. When a setting that was loaded with the others has been given a value and
saved, it is loaded as that value and every other one as before, and loading and saving all of them
once more leaves the file as it is, unless two keys have become the same. -/
theorem load_save {τ : Type} [DecidableEq τ] [Text.Coded τ] (folder : Folder) :
    (∀ members : Members τ, Fits maxDepth (.object members) →
      (save folder (.object members)).entries = [] →
      (load (save folder (.object members)).folder (allKey τ)).result = .ok (.object
        (((defaults τ).map fun member =>
            (member.1, (members.readBack.get? member.1).getD member.2)) ++
          members.readBack.filter fun member =>
            ((defaults τ).get? member.1).isNone)) ∧
      (Json.joinedMembers members = members → members.readBack = members)) ∧
    ∀ (key : τ) (value : Json τ) (settings : Members τ),
      key ≠ allKey τ → Fits (maxDepth - 1) value →
      (loadAll folder τ).result = .ok settings →
      (save folder (.object (settings.put key value))).entries = [] →
      (load (update folder key value).2 (Text.joined key)).result = .ok value.readBack ∧
      (value.joined = value → value.readBack = value) ∧
      (∀ other, other ≠ Text.joined key → other ≠ allKey τ →
        (load (update folder key value).2 other).result = (load folder other).result) ∧
      ∃ again : Members τ,
        (load (update folder key value).2 (allKey τ)).result = .ok (.object again) ∧
        (∀ other, other ≠ Text.joined key → again.get? other = settings.get? other) ∧
        (Text.joined key = key ∨ Text.joined key ∉ settings.keys →
          value.joined.merged = value.joined →
          (save (update folder key value).2 (.object again)).entries = [] ∧
          (save (update folder key value).2 (.object again)).folder =
            (update folder key value).2) := by
  refine ⟨fun members fits saved => ⟨?_, Members.readBack_eq fits⟩,
    fun key value settings single fits loaded saved => ?_⟩
  · rw [← Members.override_eq distinct_defaults members.hasDistinctKeys_readBack]
    exact load_allKey (loadAll_of_settings fits (settings_of_saved saved))
  · -- What is loaded again are the settings that were saved, as they are read back.
    have all := loadAll_of_update fits loaded saved
    have after : (update folder key value).2 =
        (save folder (.object (settings.put key value))).folder := by
      simp only [update, loaded]
    -- The key for all settings has seven bits for each character, so no other one is joined to it.
    have small : ∀ c ∈ "all".toList, c.toNat < 0x10000 := by simp
    have joinedSingle : Text.joined key ≠ allKey τ := fun same =>
      single (Text.eq_of_joined_eq small same)
    refine ⟨load_of_get? all joinedSingle (by simp [Members.get?_put]), fits.readBack_eq,
      fun other different some => ?_, settings.put (Text.joined key) value.readBack, load_allKey all,
      fun other different => ?_, fun apart distinct => ?_⟩
    · simp only [load, all, loaded, Except.map]
      rw [valueOf, valueOf, Members.get?_put]
      simp [different, some]
    · simp [Members.get?_put, different]
    · rw [after]
      exact save_again saved (toText_put (areLoaded_of_loadAll loaded) apart distinct)

end Update

section Halves

open Text (CodePoints)

/-- A high half with a low half behind it: U+D83D and U+DE00. -/
def twoHalves : CodePoints := [.half 0x3d, .half 0x600]

/-- The character that they are together: U+1F600. -/
def wholeCharacter : CodePoints := [.char (Char.ofNat 0x1f600)]

theorem joined_twoHalves : Text.joined twoHalves = wholeCharacter := by
  decide +kernel

/-- The halves as a key in front of the character, and as a text. -/
def halvesMembers : Members CodePoints :=
  [(twoHalves, .int 1), (wholeCharacter, .int 2), (Text.Coded.ofString "k", .text twoHalves)]

theorem fits_halvesMembers : Fits maxDepth (.object halvesMembers) := by
  refine .object ?_ ?_
  · unfold Members.HasDistinctKeys
    decide +kernel
  · simp only [halvesMembers, List.forall_mem_cons]
    exact ⟨.int_of_lt_ten (by decide), .int_of_lt_ten (by decide), .text _, by simp⟩

theorem readBack_halvesMembers : halvesMembers.readBack =
    [(wholeCharacter, .int 2), (Text.Coded.ofString "k", .text wholeCharacter)] := by
  -- The character is the key before the two values are put on top of each other.
  have same : wholeCharacter ≠ Text.Coded.ofString "k" := by decide +kernel
  have character : Text.joined wholeCharacter = wholeCharacter := by decide +kernel
  simp [Members.readBack, halvesMembers, Json.joinedMembers, Json.mergedMembers, Json.joined,
    Json.merged, joined_twoHalves, character, Members.override, Members.put, same]

/-- Settings are not loaded as they were saved where halves stand side by side. -/
theorem halves_are_loaded_joined :
    (save {} (.object halvesMembers)).entries = [] ∧
      (load (save {} (.object halvesMembers)).folder (Text.Coded.ofString "k" : CodePoints)).result =
        .ok (.text wholeCharacter) ∧
      halvesMembers.get? (Text.Coded.ofString "k") = some (.text twoHalves) ∧
      wholeCharacter ≠ twoHalves := by
  have all := loadAll_of_settings fits_halvesMembers
    (@settings_of_saved _ _ {} (.object halvesMembers) rfl)
  rw [readBack_halvesMembers] at all
  exact ⟨rfl, load_of_get? all (by decide) rfl, rfl, by decide⟩

/-- Halves side by side are loaded as the character, in the place of the first of two keys that have
become the same. A number that a setting is given is loaded as it is. -/
theorem load_save_halves :
    (load (save {} (.object halvesMembers)).folder (allKey CodePoints)).result =
      .ok (.object (defaults CodePoints ++ [(wholeCharacter, .int 2),
        (Text.Coded.ofString "k", .text wholeCharacter)])) ∧
    (load (update {} (Text.Coded.ofString "decimal_places" : CodePoints) (.int 4)).2
      (Text.Coded.ofString "decimal_places" : CodePoints)).result = .ok (.int 4) := by
  -- The first part is about what has been saved, the second one about one setting of it.
  obtain ⟨saving, updating⟩ := @load_save CodePoints _ _ {}
  constructor
  · rw [(saving halvesMembers fits_halvesMembers rfl).1, readBack_halvesMembers]
    rfl
  · have updated := (updating (Text.Coded.ofString "decimal_places") (.int 4) (defaults CodePoints)
      (by decide) (.int_of_lt_ten (by decide)) rfl rfl).1
    rwa [Text.joined_ofString] at updated

end Halves

end DeskCalc.Settings
