import DeskCalc.Proofs.Json.Fitting
import DeskCalc.Proofs.Json.Numbers
import DeskCalc.Proofs.Json.Strings

/-! Every value that fits is read back from its text, joined and then merged: with strings for texts
it is the value itself, and with any code points it is unless there are halves side by side. -/

namespace DeskCalc.Json

section Back

variable {τ : Type} [DecidableEq τ] [Text.Coded τ]

/-- What a value is read back as: joined, and then merged. -/
def readBack (value : Json τ) : Json τ :=
  value.joined.merged

/-- What the members of an object are read back as. -/
def Members.readBack (members : Members τ) : Members τ :=
  Members.override [] (mergedMembers (joinedMembers members))

/-- A value that fits is read back as it is where there is nothing to join. -/
theorem Fits.readBack_eq {depth : Nat} {value : Json τ} (fits : Fits depth value)
    (joined : value.joined = value) : value.readBack = value := by
  rw [readBack, joined, fits.merged_eq]

/-- So are members that fit. -/
theorem Members.readBack_eq {depth : Nat} {members : Members τ}
    (fits : Fits depth (.object members)) (joined : joinedMembers members = members) :
    members.readBack = members :=
  Json.object.inj (fits.readBack_eq (congrArg Json.object joined))

/-- What is read back has each key once. -/
theorem Members.hasDistinctKeys_readBack (members : Members τ) :
    members.readBack.HasDistinctKeys :=
  .override hasDistinctKeys_nil

/-- Where a key of read members is given a value, the joined key has what the value is read back
as. -/
theorem Members.readBack_put {depth : Nat} {members : Members τ}
    (isRead : IsRead depth (.object members)) (key : τ) (value : Json τ) :
    (members.put key value).readBack = members.put (Text.joined key) value.readBack := by
  have joined : joinedMembers members = members := Json.object.inj isRead.joined
  have back : mergedMembers members = members ∧ members.HasDistinctKeys := by
    cases isRead.fits with
    | object distinct inside =>
      exact ⟨mergedMembers_eq_self fun member found => (inside member found).merged_eq, distinct⟩
  by_cases known : key ∈ members.keys
  · -- A known key has nothing to join, and keeps its place.
    obtain ⟨fixed, same⟩ := joinedMembers_put_of_mem joined known value
    rw [readBack, same, mergedMembers_put, back.1, fixed]
    exact nil_override (back.2.put key _)
  · -- A new key is put on top of the others when they have been read.
    rw [readBack, joinedMembers_put_of_not_mem joined known, mergedMembers_concat, back.1,
      override, List.foldl_append]
    have others := nil_override back.2
    rw [override] at others
    rw [others]
    rfl

end Back

section Spaces

variable {rest : List Char}

/-- Spaces are skipped up to what is no space. -/
theorem skipSpaces_append {front : List Char} (blank : ∀ c ∈ front, isSpace c = true)
    (solid : ∀ c ∈ rest.head?, isSpace c = false) : skipSpaces (front ++ rest) = rest := by
  -- All of the front is dropped, and nothing behind it.
  rw [skipSpaces, List.dropWhile_append_of_pos blank]
  cases rest with
  | nil => rfl
  | cons c rest => simp [solid c rfl]

/-- A new line with its indentation is skipped. -/
theorem skipSpaces_newLine (level : Nat) (solid : ∀ c ∈ rest.head?, isSpace c = false) :
    skipSpaces (newLine level ++ rest) = rest := by
  refine skipSpaces_append (fun c member => ?_) solid
  rcases List.mem_cons.mp member with rfl | space
  · rfl
  · rw [List.eq_of_mem_replicate space]
    rfl

end Spaces

/-- A new line ends a value. -/
theorem endsValue_newLine (level : Nat) (rest : List Char) :
    EndsValue (newLine level ++ rest) :=
  .inr rfl

section Written

variable {τ : Type} [Text.Coded τ]

/-- The items behind an item are followed by a comma, or by the end of the list. -/
theorem endsValue_printItems (level : Nat) (items : List (Json τ)) {rest : List Char}
    (ends : EndsValue rest) : EndsValue (printItems level items ++ rest) := by
  cases items with
  | nil => exact ends
  | cons item items => exact .inl rfl

/-- The members behind a member are followed by a comma, or by the end of the object. -/
theorem endsValue_printMembers (level : Nat) (members : Members τ) {rest : List Char}
    (ends : EndsValue rest) : EndsValue (printMembers level members ++ rest) := by
  cases members with
  | nil => exact ends
  | cons member members => exact .inl rfl

/-- Each item takes some room. -/
theorem length_le_printItems (level : Nat) (items : List (Json τ)) :
    items.length ≤ (printItems level items).length := by
  -- Behind the first one there is a comma for each.
  induction items with
  | nil => exact Nat.le_refl 0
  | cons item items ih =>
    simp only [printItems, List.length_cons, List.length_append]
    omega

/-- Each member takes some room. -/
theorem length_le_printMembers (level : Nat) (members : Members τ) :
    members.length ≤ (printMembers level members).length := by
  induction members with
  | nil => exact Nat.le_refl 0
  | cons member members ih =>
    simp only [printMembers, List.length_cons, List.length_append]
    omega

/-- New lines are plain. -/
theorem plain_newLine (level : Nat) : Text.Plain (newLine level) := by
  refine Text.plain_cons.mpr ⟨by decide, fun c member => ?_⟩
  rw [List.eq_of_mem_replicate member]
  decide

/-- The characters between the parts of a value are plain. -/
theorem plain_marks :
    Text.IsPlain '[' ∧ Text.IsPlain ']' ∧ Text.IsPlain '\x7b' ∧ Text.IsPlain '\x7d' ∧
      Text.IsPlain ',' ∧ Text.IsPlain ':' ∧ Text.IsPlain ' ' := by
  decide

mutual

/-- Every value is written in plain characters. -/
theorem plain_print (level : Nat) : ∀ value : Json τ, Text.Plain (print level value)
  | .null => by
    rw [print]
    decide
  | .bool value => by
    rw [print]
    cases value <;> decide
  | .int value => plain_int value
  | .float value => plain_float value
  | .text value => plain_quote value
  | .list [] => by
    rw [print]
    decide
  | .object [] => by
    rw [print]
    decide
  | .list (item :: rest) => by
    -- The marks are plain, and so is what is written for the items between them.
    simp [print, plain_marks, plain_newLine, plain_print (level + 1) item,
      plain_printItems (level + 1) rest]
  | .object ((key, value) :: rest) => by
    -- A member is an item behind its key.
    simp [print, plain_marks, plain_newLine, plain_quote, plain_print (level + 1) value,
      plain_printMembers (level + 1) rest]

/-- The items behind the first one are written in plain characters. -/
theorem plain_printItems (level : Nat) : ∀ items : List (Json τ), Text.Plain (printItems level items)
  | [] => Text.plain_nil
  | item :: rest => by
    simp [printItems, plain_marks, plain_newLine, plain_print level item,
      plain_printItems level rest]

/-- The members behind the first one are written in plain characters. -/
theorem plain_printMembers (level : Nat) :
    ∀ members : List (τ × Json τ), Text.Plain (printMembers level members)
  | [] => Text.plain_nil
  | (key, value) :: rest => by
    simp [printMembers, plain_marks, plain_newLine, plain_quote, plain_print level value,
      plain_printMembers level rest]

end

end Written

section Values

variable {τ : Type} [DecidableEq τ] [Text.Coded τ]

/-- A value that is read starts with a character that is neither a space nor a closing bracket. -/
theorem exists_head_of_readValue {depth : Nat} {chars : List Char} {found : Json τ × Rest}
    (done : readValue depth chars = .ok found) :
    ∃ c rest, chars = c :: rest ∧ isSpace c = false ∧ c ≠ ']' := by
  -- The reader refuses each of them at once.
  cases chars with
  | nil =>
    cases depth <;> cases done
  | cons c rest =>
    refine ⟨c, rest, rfl, ?_, ?_⟩
    · by_contra space
      simp only [isSpace, Bool.not_eq_false, Bool.or_eq_true, beq_iff_eq] at space
      rcases space with ((rfl | rfl) | rfl) | rfl <;> cases depth <;> cases done
    · rintro rfl
      cases depth <;> cases done

/-- A value is read back from its text, at every level and whatever ends it. -/
def ReadsBack (depth : Nat) (value : Json τ) : Prop :=
  ∀ (level : Nat) (rest : List Char), EndsValue rest →
    readValue depth (print level value ++ rest) = .ok (value.readBack, rest)

section Parts

variable {depth : Nat} {value : Json τ}

/-- The text of a value starts with what is no space. -/
theorem ReadsBack.solid (reads : ReadsBack depth value) (level : Nat) {rest : List Char}
    (ends : EndsValue rest) : ∀ c ∈ (print level value ++ rest).head?, isSpace c = false := by
  -- Otherwise it would not be read.
  obtain ⟨first, more, split, solid, -⟩ := exists_head_of_readValue (reads level rest ends)
  rw [split]
  rintro _ ⟨⟩
  exact solid

/-- An item that is read back leaves what stands behind it. -/
theorem readItems_step (reads : ReadsBack depth value) (level limit : Nat) {after : List Char}
    (ends : EndsValue after) :
    readItems (readValue depth) (limit + 1) (print level value ++ after) =
      match skipSpaces after with
      | ',' :: rest => (readItems (readValue depth) limit (skipSpaces rest)).map
          fun (items, rest) => (value.readBack :: items, rest)
      | ']' :: rest => .ok ([value.readBack], rest)
      | _ => .error .malformed := by
  -- The rest of the reader is what it does behind the item.
  rw [readItems, reads level after ends]
  rfl

/-- Items are read back one by one up to the closing bracket. -/
theorem readItems_print {items : List (Json τ)} (each : ∀ item ∈ items, ReadsBack depth item)
    (reads : ReadsBack depth value) {limit : Nat} (room : items.length < limit)
    (level outer : Nat) (rest : List Char) :
    readItems (readValue depth) limit (print level value ++
      (printItems level items ++ (newLine outer ++ ']' :: rest))) =
        .ok (mergedItems (joinedItems (value :: items)), rest) := by
  -- Induction on the items behind the first one; the limit leaves room for each of them.
  have ends := endsValue_newLine outer (']' :: rest)
  obtain ⟨limit, rfl⟩ := Nat.exists_eq_succ_of_ne_zero (Nat.ne_of_gt (Nat.zero_lt_of_lt room))
  induction items generalizing value limit with
  | nil =>
    have close := @skipSpaces_newLine (']' :: rest) outer (by simp [isSpace])
    rw [readItems_step reads level limit (endsValue_printItems level [] ends), printItems,
      List.nil_append, close]
    rfl
  | cons next items ih =>
    obtain ⟨readsNext, others⟩ := List.forall_mem_cons.mp each
    obtain ⟨limit, rfl⟩ := Nat.exists_eq_succ_of_ne_zero (Nat.ne_of_gt (Nat.zero_lt_of_lt
      (Nat.lt_of_succ_lt_succ room)))
    have skip := skipSpaces_newLine level
      (readsNext.solid level (endsValue_printItems level items ends))
    have comma : skipSpaces (printItems level (next :: items) ++ (newLine outer ++ ']' :: rest)) =
        ',' :: (newLine level ++ (print level next ++
          (printItems level items ++ (newLine outer ++ ']' :: rest)))) := by
      simp [printItems, skipSpaces, isSpace]
    rw [readItems_step reads level _ (endsValue_printItems level (next :: items) ends), comma]
    simp only [skip, ih others readsNext limit (Nat.lt_of_succ_lt_succ room)]
    rfl

/-- A member that is read back leaves what stands behind it. -/
theorem readMembers_step (reads : ReadsBack depth value) (known : Members τ) (key : τ)
    (level limit : Nat) {after : List Char} (ends : EndsValue after) :
    readMembers (readValue depth) known (limit + 1)
        (quote key ++ (':' :: ' ' :: (print level value ++ after))) =
      match skipSpaces after with
      | ',' :: rest => readMembers (readValue depth) (known.put (Text.joined key) value.readBack)
          limit (skipSpaces rest)
      | '\x7d' :: rest => .ok (known.put (Text.joined key) value.readBack, rest)
      | _ => .error .malformed := by
  -- The key is read as a string, and the value behind the colon and its blank.
  obtain ⟨chars, quoted, text⟩ := readText_quote key (':' :: ' ' :: (print level value ++ after))
  have colon (rest : List Char) : skipSpaces (':' :: rest) = ':' :: rest := rfl
  have space : skipSpaces (' ' :: (print level value ++ after)) = print level value ++ after :=
    @skipSpaces_append _ [' '] (by simp [isSpace]) (reads.solid level ends)
  rw [quoted, readMembers, text]
  simp only [bind, Except.bind, colon, space, reads level after ends]
  rfl

/-- Members are read back one by one up to the closing brace, on top of those that are known. -/
theorem readMembers_print {members known : Members τ} {key : τ}
    (each : ∀ member ∈ members, ReadsBack depth member.2) (reads : ReadsBack depth value)
    {limit : Nat} (room : members.length < limit) (level outer : Nat) (rest : List Char) :
    readMembers (readValue depth) known limit (quote key ++ (':' :: ' ' :: (print level value ++
      (printMembers level members ++ (newLine outer ++ '\x7d' :: rest))))) =
        .ok (known.override (mergedMembers (joinedMembers ((key, value) :: members))), rest) := by
  -- Induction on the members behind the first one; each of them gives its value to its key.
  have ends := endsValue_newLine outer ('\x7d' :: rest)
  obtain ⟨limit, rfl⟩ := Nat.exists_eq_succ_of_ne_zero (Nat.ne_of_gt (Nat.zero_lt_of_lt room))
  induction members generalizing known key value limit with
  | nil =>
    have close := @skipSpaces_newLine ('\x7d' :: rest) outer (by simp [isSpace])
    rw [readMembers_step reads known key level limit (endsValue_printMembers level [] ends),
      printMembers, List.nil_append, close]
    rfl
  | cons next members ih =>
    obtain ⟨readsNext, others⟩ := List.forall_mem_cons.mp each
    obtain ⟨limit, rfl⟩ := Nat.exists_eq_succ_of_ne_zero (Nat.ne_of_gt (Nat.zero_lt_of_lt
      (Nat.lt_of_succ_lt_succ room)))
    have skip := @skipSpaces_newLine (quote next.1 ++ (':' :: ' ' :: (print level next.2 ++
      (printMembers level members ++ (newLine outer ++ '\x7d' :: rest))))) level
        (by simp [quote, isSpace])
    have comma : skipSpaces (printMembers level (next :: members) ++
        (newLine outer ++ '\x7d' :: rest)) =
          ',' :: (newLine level ++ (quote next.1 ++ (':' :: ' ' :: (print level next.2 ++
            (printMembers level members ++ (newLine outer ++ '\x7d' :: rest)))))) := by
      simp [printMembers, skipSpaces, isSpace]
    rw [readMembers_step reads known key level _
      (endsValue_printMembers level (next :: members) ends), comma]
    have more := @ih next.2 (known.put (Text.joined key) value.readBack) next.1 others readsNext
      limit (Nat.lt_of_succ_lt_succ room)
    simp only [skip, more]
    rfl

end Parts

/-- Numbers and words are read as they are at every depth. -/
theorem readValue_of_readScalar {chars : List Char} {found : Json τ × Rest}
    (done : readScalar chars = .ok found) (depth : Nat) : readValue depth chars = .ok found := by
  -- Neither of them starts like a string, a list or an object.
  unfold readValue
  split
  case h_6 => exact done
  all_goals cases done

/-- A list is read back when its items are. -/
theorem readsBack_list {depth : Nat} {items : List (Json τ)}
    (each : ∀ item ∈ items, ReadsBack depth item) : ReadsBack (depth + 1) (.list items) := by
  -- The limit of the reader is the length of the text, and so large enough.
  intro level rest ends
  cases items with
  | nil => rfl
  | cons item items =>
    obtain ⟨reads, others⟩ := List.forall_mem_cons.mp each
    have behind := endsValue_newLine level (']' :: rest)
    have inside := endsValue_printItems (level + 1) items behind
    obtain ⟨first, more, same, -, noClose⟩ :=
      exists_head_of_readValue (reads (level + 1) _ inside)
    have text : print level (.list (item :: items)) ++ rest =
        '[' :: (newLine (level + 1) ++ (print (level + 1) item ++
          (printItems (level + 1) items ++ (newLine level ++ ']' :: rest)))) := by
      simp [print]
    have skip := skipSpaces_newLine (level + 1) (reads.solid (level + 1) inside)
    rw [text, readValue, skip]
    split
    · -- An item does not start with the closing bracket.
      rename_i close
      exact absurd (List.cons.inj (same.symm.trans close)).1 noClose
    · have room := length_le_printItems (level + 1) items
      rw [readItems_print others reads (by simp only [List.length_append]; omega)]
      rfl

/-- An object is read back when its values are. -/
theorem readsBack_object {depth : Nat} {members : Members τ}
    (each : ∀ member ∈ members, ReadsBack depth member.2) :
    ReadsBack (depth + 1) (.object members) := by
  -- As for a list, but for the keys in front of the values.
  intro level rest ends
  cases members with
  | nil => rfl
  | cons member members =>
    obtain ⟨reads, others⟩ := List.forall_mem_cons.mp each
    have text : print level (.object (member :: members)) ++ rest =
        '\x7b' :: (newLine (level + 1) ++ (quote member.1 ++ (':' :: ' ' ::
          (print (level + 1) member.2 ++ (printMembers (level + 1) members ++
            (newLine level ++ '\x7d' :: rest)))))) := by
      simp [print]
    have skip := @skipSpaces_newLine (quote member.1 ++ (':' :: ' ' ::
      (print (level + 1) member.2 ++ (printMembers (level + 1) members ++
        (newLine level ++ '\x7d' :: rest))))) (level + 1) (by simp [quote, isSpace])
    rw [text, readValue, skip]
    split
    · -- A key starts with its quote.
      rename_i close
      simp [quote] at close
    · have room := length_le_printMembers (level + 1) members
      rw [readMembers_print others reads
        (by simp only [List.length_append, List.length_cons]; omega)]
      rfl

/-- Every value that fits is read back. -/
theorem Fits.readsBack {depth : Nat} {value : Json τ} (fits : Fits depth value) :
    ReadsBack depth value := by
  -- Every kind of value has its own reader, and those of lists and objects read values one level
  -- below.
  induction fits with
  | null => exact fun _ rest _ => readValue_of_readScalar rfl _
  | bool value => cases value <;> exact fun _ rest _ => readValue_of_readScalar rfl _
  | int short => exact fun _ rest ends => readValue_of_readScalar (readScalar_int short ends) _
  | float value => exact fun _ rest ends => readValue_of_readScalar (readScalar_float value ends) _
  | text value =>
    intro level rest ends
    obtain ⟨chars, quoted, read⟩ := readText_quote value rest
    rw [print, quoted, readValue, read]
    rfl
  | list inside reads => exact readsBack_list reads
  | object distinct inside reads => exact readsBack_object reads

/-- A text that was written for a value is read as what the value is read back as. -/
theorem read_toText {value : Json τ} (fits : Fits maxDepth value) :
    read value.toText τ = .ok value.readBack := by
  -- Nothing stands in front of the value, and nothing behind it.
  have reads := fits.readsBack 0 [] trivial
  have solid := @ReadsBack.solid _ _ _ _ _ fits.readsBack 0 [] trivial
  rw [List.append_nil] at reads solid
  have start := @skipSpaces_append (print 0 value) [] (by simp) solid
  rw [List.nil_append] at start
  rw [read, toText, String.toList_ofList, start, reads]
  rfl

end Values

end DeskCalc.Json
