import DeskCalc.Proofs.Json.Joining
import DeskCalc.Proofs.Number.DecimalText

/-! Values that a text can hold: nested no deeper than a limit, each key of an object once,
and no integer with too many digits; whatever is read is such a value, with nothing to join. -/

namespace DeskCalc.Json

variable {τ : Type}

/-- A value whose lists and objects are nested no deeper than a number of levels,
whose objects hold each key once, and whose integers are not too long to be read. -/
inductive Fits : Nat → Json τ → Prop
  | null {depth : Nat} : Fits depth .null
  | bool {depth : Nat} (value : Bool) : Fits depth (.bool value)
  | int {depth : Nat} {value : Int} (short : value.natAbs < 10 ^ Text.maxIntegerDigits) :
    Fits depth (.int value)
  | float {depth : Nat} (value : Float) : Fits depth (.float value)
  | text {depth : Nat} (value : τ) : Fits depth (.text value)
  | list {depth : Nat} {items : List (Json τ)} (inside : ∀ item ∈ items, Fits depth item) :
    Fits (depth + 1) (.list items)
  | object {depth : Nat} {members : Members τ} (distinct : members.HasDistinctKeys)
    (inside : ∀ member ∈ members, Fits depth member.2) : Fits (depth + 1) (.object members)

/-- A value as it is read: it fits, and its texts and keys have nothing to join. -/
structure IsRead [Text.Coded τ] (depth : Nat) (value : Json τ) : Prop where
  fits : Fits depth value
  joined : value.joined = value

/-- A single digit is not too long. -/
theorem Fits.int_of_lt_ten {depth : Nat} {value : Int} (small : value.natAbs < 10) :
    Fits depth (.int value : Json τ) :=
  .int (Nat.lt_of_lt_of_le small (Nat.le_pow (by decide)))

/-- An object fits when its members do, one level below. -/
theorem fits_object_iff {depth : Nat} {members : Members τ} :
    Fits (depth + 1) (.object members) ↔
      members.HasDistinctKeys ∧ ∀ member ∈ members, Fits depth member.2 := by
  -- No other kind of value is an object.
  constructor
  · rintro (_ | _ | _ | _ | _ | _ | ⟨distinct, inside⟩)
    exact ⟨distinct, inside⟩
  · rintro ⟨distinct, inside⟩
    exact .object distinct inside

section Members

variable [DecidableEq τ]

/-- An object keeps fitting when one of its keys is given a value that fits. -/
theorem Fits.put {depth : Nat} {members : Members τ} (fits : Fits (depth + 1) (.object members))
    {value : Json τ} (inside : Fits depth value) (key : τ) :
    Fits (depth + 1) (.object (members.put key value)) := by
  -- The keys stay distinct, and no member but the new one needs to be looked at.
  obtain ⟨distinct, each⟩ := fits_object_iff.mp fits
  refine .object (distinct.put key value) fun member found => ?_
  rcases Members.mem_put found with before | same
  · exact each member before
  · exact same ▸ inside

/-- Objects that fit still do when one is put on top of the other. -/
theorem Fits.override {depth : Nat} {members others : Members τ}
    (fits : Fits (depth + 1) (.object members)) (inside : Fits (depth + 1) (.object others)) :
    Fits (depth + 1) (.object (members.override others)) := by
  have each := (fits_object_iff.mp inside).2
  clear inside
  -- Each of the others gives its value to one key.
  induction others generalizing members with
  | nil => exact fits
  | cons other rest ih =>
    obtain ⟨value, later⟩ := List.forall_mem_cons.mp each
    exact ih (fits.put value other.1) later

/-- So do objects that are read. -/
theorem IsRead.override [Text.Coded τ] {depth : Nat} {members others : Members τ}
    (isRead : IsRead (depth + 1) (.object members))
    (inside : IsRead (depth + 1) (.object others)) :
    IsRead (depth + 1) (.object (members.override others)) := by
  refine ⟨isRead.fits.override inside.fits, congrArg Json.object ?_⟩
  -- Each member is one of either.
  rw [joinedMembers_eq_self_iff]
  intro member found
  rcases Members.mem_override found with first | second
  · exact joinedMembers_eq_self_iff.mp (Json.object.inj isRead.joined) member first
  · exact joinedMembers_eq_self_iff.mp (Json.object.inj inside.joined) member second

end Members

/-- Reading in two steps gives a result when both steps do. -/
theorem ok_of_bind {α β : Type} {first : Except ReadFault α} {next : α → Except ReadFault β}
    {result : β} (done : (first >>= next) = .ok result) :
    ∃ found, first = .ok found ∧ next found = .ok result := by
  -- A fault of the first step would be the fault of both.
  cases first with
  | error fault => simp [bind, Except.bind] at done
  | ok found => exact ⟨found, rfl, done⟩

section Reading

variable {value : List Char → Except ReadFault (Json τ × Rest)} {P : Json τ → Prop}

/-- What is read as the items of a list are values that are read one by one. -/
theorem readItems_forall
    (each : ∀ {chars item rest}, value chars = .ok (item, rest) → P item)
    {limit : Nat} {chars rest : List Char} {items : List (Json τ)}
    (done : readItems value limit chars = .ok (items, rest)) : ∀ item ∈ items, P item := by
  -- The first item is read as a value, and the others are items behind a comma.
  induction limit generalizing chars items rest with
  | zero => simp [readItems] at done
  | succ limit ih =>
    obtain ⟨⟨item, behind⟩, first, done⟩ := ok_of_bind done
    dsimp only at done
    split at done
    · obtain ⟨⟨others, _⟩, more, done⟩ := ok_of_bind done
      cases done
      exact List.forall_mem_cons.mpr ⟨each first, ih more⟩
    · cases done
      exact List.forall_mem_singleton.mpr (each first)
    · cases done

/-- What is read as the members of an object has distinct keys, which are read as texts, and values
that are read one by one. -/
theorem readMembers_forall [DecidableEq τ] [Text.Coded τ]
    (each : ∀ {chars item rest}, value chars = .ok (item, rest) → P item)
    {limit : Nat} {chars rest : List Char} {known members : Members τ}
    (distinct : known.HasDistinctKeys)
    (inside : ∀ member ∈ known, Text.joined member.1 = member.1 ∧ P member.2)
    (done : readMembers value known limit chars = .ok (members, rest)) :
    members.HasDistinctKeys ∧
      ∀ member ∈ members, Text.joined member.1 = member.1 ∧ P member.2 := by
  -- Each value is given to its key before the next one is read.
  induction limit generalizing chars rest known with
  | zero => cases chars <;> cases done
  | succ limit ih =>
    unfold readMembers at done
    split at done
    · rename_i count behind same
      cases same
      obtain ⟨⟨key, _⟩, text, done⟩ := ok_of_bind done
      dsimp only at done
      split at done
      · obtain ⟨⟨item, _⟩, first, done⟩ := ok_of_bind done
        have more : ∀ member ∈ known.put key item,
            Text.joined member.1 = member.1 ∧ P member.2 := fun member found =>
          (Members.mem_put found).elim (inside member) fun same =>
            same ▸ ⟨joined_of_readText text, each first⟩
        split at done
        · exact ih (distinct.put key item) more done
        · cases done
          exact ⟨distinct.put key item, more⟩
        · cases done
      · cases done
    · cases done

end Reading

/-- The whole part of a number is made of digits. -/
theorem isDigit_of_mem_readWhole {chars : List Char} {c : Char}
    (member : c ∈ (readWhole chars).1) : c.isDigit = true := by
  -- It is a zero, or the run of digits.
  unfold readWhole at member
  split at member
  · rw [List.mem_singleton.mp member]
    decide
  · exact List.mem_takeWhile_imp member

/-- An integer that is read has no more digits than are allowed. -/
theorem isRead_of_readNumber [Text.Coded τ] {negative : Bool} {depth : Nat}
    {chars rest : List Char} {value : Json τ}
    (done : readNumber negative chars = .ok (value, rest)) : IsRead depth value := by
  -- Without a fraction and an exponent the digits are counted; all others are doubles.
  unfold readNumber at done
  dsimp only at done
  split at done
  · cases done
  · split at done
    · split at done
      · cases done
      · rename_i few
        cases done
        have small := Number.ofDigits_lt fun c => @isDigit_of_mem_readWhole chars c
        refine ⟨.int (Nat.lt_of_lt_of_le (m := 10 ^ (readWhole chars).1.length) ?_
          (Nat.pow_le_pow_right (by decide) (Nat.le_of_not_lt few))), rfl⟩
        cases negative <;> simpa using small
    · cases done
      exact ⟨.float _, rfl⟩
    · split at done <;> cases done <;> exact ⟨.float _, rfl⟩

/-- A number or a word is nested in nothing. -/
theorem isRead_of_readScalar [Text.Coded τ] {depth : Nat} {chars rest : List Char} {value : Json τ}
    (done : readScalar chars = .ok (value, rest)) : IsRead depth value := by
  -- None of the words stands for an integer, a list or an object.
  unfold readScalar at done
  split at done
  · rename_i parsed found
    cases done
    obtain ⟨⟨word, meant⟩, known, found⟩ := List.exists_of_findSome?_eq_some found
    obtain ⟨behind, -, same⟩ := Option.map_eq_some_iff.mp found
    cases same
    simp only [wordValues, List.mem_cons, Prod.mk.injEq, List.not_mem_nil, or_false] at known
    rcases known with ⟨-, rfl⟩ | ⟨-, rfl⟩ | ⟨-, rfl⟩ | ⟨-, rfl⟩ | ⟨-, rfl⟩ | ⟨-, rfl⟩
    · exact ⟨.null, rfl⟩
    · exact ⟨.bool _, rfl⟩
    · exact ⟨.bool _, rfl⟩
    · exact ⟨.float _, rfl⟩
    · exact ⟨.float _, rfl⟩
    · exact ⟨.float _, rfl⟩
  · split at done <;> exact isRead_of_readNumber done

section Values

variable [DecidableEq τ] [Text.Coded τ]

/-- A value that is read fits in the depth that was allowed, with nothing to join. -/
theorem isRead_of_readValue {depth : Nat} {chars rest : List Char} {value : Json τ}
    (done : readValue depth chars = .ok (value, rest)) : IsRead depth value := by
  -- Only a list and an object are read by the reader of the next lower depth.
  induction depth using Nat.strong_induction_on generalizing chars rest value with
  | _ depth ih =>
    unfold readValue at done
    split at done
    · obtain ⟨⟨text, _⟩, inside, done⟩ := ok_of_bind done
      cases done
      exact ⟨.text text, congrArg Json.text (joined_of_readText inside)⟩
    · cases done
    · cases done
    · rename_i depth _
      split at done
      · cases done
        exact ⟨.list (by simp), rfl⟩
      · obtain ⟨⟨items, _⟩, inside, done⟩ := ok_of_bind done
        cases done
        have each := readItems_forall (ih depth (Nat.lt_succ_self depth)) inside
        exact ⟨.list fun item member => (each item member).fits,
          congrArg Json.list (joinedItems_eq_self fun item member => (each item member).joined)⟩
    · rename_i depth _
      split at done
      · cases done
        exact ⟨.object Members.hasDistinctKeys_nil (by simp), rfl⟩
      · obtain ⟨⟨members, _⟩, inside, done⟩ := ok_of_bind done
        cases done
        obtain ⟨distinct, each⟩ :=
          readMembers_forall (ih depth (Nat.lt_succ_self depth)) Members.hasDistinctKeys_nil
            (by simp) inside
        exact ⟨.object distinct fun member found => (each member found).2.fits,
          congrArg Json.object (joinedMembers_eq_self_iff.mpr fun member found =>
            (each member found).imp_right (·.joined))⟩
    · exact isRead_of_readScalar done

/-- What a text is read as fits in the depth that is allowed, with nothing to join. -/
theorem isRead_of_read {source : String} {value : Json τ} (done : read source τ = .ok value) :
    IsRead maxDepth value := by
  -- Nothing but spaces may follow the value.
  obtain ⟨⟨found, _⟩, inside, done⟩ := ok_of_bind done
  dsimp only at done
  split at done
  · cases done
    exact isRead_of_readValue inside
  · cases done

end Values

section Merged

variable [DecidableEq τ]

/-- A value that fits has nothing to merge. -/
theorem Fits.merged_eq {depth : Nat} {value : Json τ} (fits : Fits depth value) :
    value.merged = value := by
  induction fits with
  | null | bool | int | float | text => rfl
  | list inside each => rw [merged, mergedItems_eq_self each]
  | object distinct inside each =>
    rw [merged, mergedMembers_eq_self each, Members.nil_override distinct]

end Merged

end DeskCalc.Json
