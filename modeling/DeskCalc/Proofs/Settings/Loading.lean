import DeskCalc.Settings.Store
import DeskCalc.Proofs.Json.Fitting
import DeskCalc.Proofs.Text.Ascii

/-! Loading the settings: what each file makes of them, and which files keep them from being
loaded. -/

namespace DeskCalc.Settings

open Json (Members)

section Cases

variable {τ : Type} [DecidableEq τ] [Text.Coded τ]

/-- A file keeps the settings from being loaded when it is there and cannot be read, when its text
reaches a limit of what is read, and when it holds JSON other than an object. -/
inductive Prevents : FileState → Failure τ → Prop
  | directory : Prevents .directory (.file .isDirectory)
  | notText {content : ByteArray} {fault : Text.Utf8Fault}
    (broken : Text.decodeUtf8 content = .error fault) :
    Prevents (.bytes content) (.file (.notText fault))
  | beyondLimit {file : FileState} {text : String} {fault : Json.ReadFault}
    (holds : file.readText = .ok text) (stops : Json.read text τ = .error fault)
    (limit : fault ≠ .malformed) : Prevents file (.text fault)
  | notSettings {file : FileState} {text : String} {found : Json τ}
    (holds : file.readText = .ok text) (value : Json.read text τ = .ok found)
    (other : ∀ members, found ≠ .object members) : Prevents file (.notSettings found)

/-- The settings that a file gives: the members of its object, and none without one. -/
def given (file : FileState) (τ : Type := String) [DecidableEq τ] [Text.Coded τ] : Members τ :=
  match readFile file τ with
  | .ok (some (.object members)) => members
  | _ => []

/-- A file that cannot be read is missing, or keeps the settings from being loaded. -/
theorem prevents_of_readText {file : FileState} {fault : FileFault}
    (unread : file.readText = .error fault) :
    fault = .notFound ∨ Prevents file (.file fault : Failure τ) := by
  -- A file that is there is a directory, or has bytes that are no text.
  cases file with
  | missing =>
    cases unread
    exact .inl rfl
  | directory =>
    cases unread
    exact .inr .directory
  | bytes content =>
    simp only [FileState.readText] at unread
    split at unread
    · rename_i broken
      cases unread
      exact .inr (.notText broken)
    · cases unread

/-- What keeps the settings from being loaded is the failure that loading them comes to. -/
theorem Prevents.loadAll_result {folder : Folder} {failure : Failure τ}
    (prevents : Prevents folder.settings failure) :
    (loadAll folder τ).result = .error failure := by
  -- Each kind of failure has a branch of its own on the way.
  obtain ⟨file, _, _, _⟩ := folder
  cases prevents with
  | directory => rfl
  | notText broken => simp [loadAll, readFile, FileState.readText, broken]
  | @beyondLimit _ text fault holds stops limit =>
    cases fault with
    | malformed => exact absurd rfl limit
    | nestedTooDeeply => simp [loadAll, readFile, holds, stops]
    | integerTooLong fault => simp [loadAll, readFile, holds, stops]
  | @notSettings _ text found holds value other =>
    cases found with
    | object members => exact absurd rfl (other members)
    | _ => simp [loadAll, readFile, holds, value]

/-- A file is read as an object or taken for missing, unless it keeps the settings from being
loaded. -/
theorem readFile_cases (file : FileState) :
    (∃ failure : Failure τ, Prevents file failure) ∨ readFile file τ = .ok none ∨
      ∃ members : Members τ, readFile file τ = .ok (some (.object members)) ∧
        Json.IsRead Json.maxDepth (.object members) := by
  -- First the file is read, then its text, and then the kind of the value is asked for.
  cases holds : file.readText with
  | error fault =>
    rcases @prevents_of_readText τ _ _ _ _ holds with rfl | prevents
    · exact .inr (.inl (by simp [readFile, holds]))
    · exact .inl ⟨_, prevents⟩
  | ok text =>
    cases value : Json.read text τ with
    | error fault =>
      by_cases malformed : fault = .malformed
      · subst malformed
        exact .inr (.inl (by simp [readFile, holds, value]))
      · exact .inl ⟨_, .beyondLimit holds value malformed⟩
    | ok found =>
      by_cases object : ∃ members, found = .object members
      · obtain ⟨members, rfl⟩ := object
        exact .inr (.inr ⟨members, by simp [readFile, holds, value], Json.isRead_of_read value⟩)
      · exact .inl ⟨_, .notSettings holds value (not_exists.mp object)⟩

/-- All settings are those of the file over the defaults, unless the file prevents it. -/
theorem loadAll_cases (folder : Folder) :
    (∃ failure : Failure τ, Prevents folder.settings failure) ∨
      Json.IsRead Json.maxDepth (.object (given folder.settings τ)) ∧
        (loadAll folder τ).result =
          .ok ((defaults τ).override (given folder.settings τ)) := by
  -- Of the three kinds of files only those that prevent it are not loaded.
  refine (readFile_cases folder.settings).imp_right fun read => ?_
  rcases read with none | ⟨members, object, isRead⟩
  · -- Nothing on top of the defaults leaves them as they are.
    simp only [loadAll, given, none]
    exact ⟨⟨.object Members.hasDistinctKeys_nil (by simp), rfl⟩, rfl⟩
  · simp only [loadAll, given, object]
    exact ⟨isRead, trivial⟩

end Cases

/-- Loading all settings fails just where the file prevents it; otherwise every default has a value,
which is that of the file where the file gives one. -/
theorem load_all_spec (folder : Folder) :
    (∀ failure, (load folder allKey).result = .error failure ↔
      Prevents folder.settings failure) ∧
    ∀ value, (load folder allKey).result = .ok value → ∃ settings : Members,
      value = .object settings ∧ (∀ key ∈ defaults.keys, key ∈ settings.keys) ∧
      ∀ key, settings.get? key = ((given folder.settings).get? key).or (defaults.get? key) := by
  have whole : (load folder allKey).result = (loadAll folder).result.map .object := rfl
  rcases @loadAll_cases String _ _ folder with ⟨failure, prevents⟩ | ⟨isRead, all⟩
  · -- The failure is the only outcome, and a file has only one of them.
    rw [whole, prevents.loadAll_result]
    refine ⟨fun other => ⟨?_, fun also => ?_⟩, fun value done => by cases done⟩
    · rintro ⟨⟩
      exact prevents
    · exact congrArg _ (prevents.loadAll_result.symm.trans also.loadAll_result)
  · -- The reader gives each key of an object once.
    have distinct := (Json.fits_object_iff.mp isRead.fits).1
    rw [whole, all]
    refine ⟨fun failure => ⟨fun fails => (by cases fails), fun prevents => ?_⟩, ?_⟩
    · cases prevents.loadAll_result.symm.trans all
    · rintro _ ⟨⟩
      refine ⟨_, rfl, fun key known => ?_, Members.get?_override _ distinct⟩
      rw [Members.keys_override _ distinct]
      exact List.mem_append_left _ known

/-- Bytes that are no text, a directory, and a text that holds a list are no settings. -/
theorem load_all_fails :
    (load { settings := .bytes ⟨#[0xff]⟩ } allKey).result =
        .error (.file (.notText ⟨0, 1, 0xff, .startByte⟩)) ∧
      (load { settings := .directory } allKey).result = .error (.file .isDirectory) ∧
      (load { settings := .ofText "[]" } allKey).result = .error (.notSettings (.list [])) := by
  have fails {file : FileState} {failure : Failure} (prevents : Prevents file failure) :
      (load { settings := file } allKey).result = .error failure :=
    congrArg (Except.map (valueOf · allKey))
      (@Prevents.loadAll_result _ _ _ { settings := file } failure prevents)
  refine ⟨fails (.notText ?_), rfl, fails (@Prevents.notSettings _ _ _ _ "[]" _ ?_ rfl (by simp))⟩
  · -- No character starts with the byte.
    have bytes : ByteArray.toList ⟨#[0xff]⟩ = [0xff] := Text.toList_toByteArray [0xff]
    rw [Text.decodeUtf8, bytes, Text.decodeUtf8From]
    rfl
  · exact @FileState.readText_plain ['[', ']'] (by decide)

end DeskCalc.Settings
