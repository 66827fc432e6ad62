import DeskCalc.Number.Places
import DeskCalc.Proofs.Number.DecimalText

/-! Spelled numbers of places: the digits of a number ask for that many places,
unless these are too many. -/

namespace DeskCalc.Number.Places

/-- Digits that are read on top of a value do not make it less. -/
theorem le_ofDigitChars (value : Nat) (digits : List Char) :
    value ≤ Nat.ofDigitChars 10 digits value := by
  -- The value counts for a power of ten, and the digits are added to it.
  rw [Nat.ofDigitChars_eq_ofDigitChars_zero]
  exact Nat.le_add_right_of_le (Nat.le_mul_of_pos_left value (Nat.pow_pos (by decide)))

/-- Digits are read to their end, unless the number that they spell is too large. -/
theorem readDigits_eq {digits : List Char} (all : ∀ c ∈ digits, c.isDigit = true) {value : Nat}
    (room : value ≤ maxSpelled) :
    readDigits value digits =
      if Nat.ofDigitChars 10 digits value > maxSpelled then .error .tooManyDigits
      else .ok (Nat.ofDigitChars 10 digits value, []) := by
  -- A value that becomes too large on the way only grows with the digits that are left.
  induction digits generalizing value with
  | nil =>
    rw [Nat.ofDigitChars_nil, if_neg (Nat.not_lt.mpr room)]
    rfl
  | cons c rest inner =>
    have digit : Text.decimalDigit? c = some (c.toNat - '0'.toNat) := by
      simp [Text.decimalDigit?, all c List.mem_cons_self]
    simp only [readDigits, digit, Nat.ofDigitChars_cons]
    by_cases large : 10 * value + (c.toNat - '0'.toNat) > maxSpelled
    · -- It is too large already.
      rw [if_pos large, if_pos (Nat.lt_of_lt_of_le large (le_ofDigitChars _ rest))]
    · rw [if_neg large]
      -- There is room for the next digit.
      exact inner (fun d member => all d (List.mem_cons_of_mem c member)) (Nat.not_lt.mp large)

/-- The digits of a number ask for that many places, if it is not too large. -/
theorem ofText_toString (n : Nat) :
    ofText (toString n) = if n > maxSpelled then unusable .tooManyDigits else (count n).bounded := by
  obtain ⟨first, rest, split⟩ := List.exists_cons_of_ne_nil (toString_ne_nil n)
  have isDigit : first.isDigit = true := isDigit_of_mem_toString (split ▸ List.mem_cons_self)
  -- The first character is a digit, so no field is asked for.
  have noField : Alignment.ofChar? first = none := by
    -- No alignment is a digit.
    have noSign (c : Char) (other : c.isDigit = false) : first ≠ c := by
      intro same
      subst same
      exact absurd isDigit (by simp [other])
    simp [Alignment.ofChar?, noSign '<' rfl, noSign '>' rfl, noSign '^' rfl, noSign '=' rfl]
  have digit : (Text.decimalDigit? first).isSome = true := by
    simp [Text.decimalDigit?, isDigit]
  have value : Nat.ofDigitChars 10 (toString n).toList 0 = n := ofDigits_toString n
  -- All characters are digits, so the reading reaches the end.
  have reads := @readDigits_eq _ (fun c => @isDigit_of_mem_toString n c) 0 (Nat.zero_le _)
  rw [value] at reads
  have head : (toString n).toList.head? = some first := by
    rw [split, List.head?_cons]
  have places : readPlaces (toString n).toList = readDigits 0 (toString n).toList := by
    rw [readPlaces, head, Option.bind_some, if_pos digit]
  rw [ofText, readSetting, head, Option.bind_some, noField]
  simp only [places, reads]
  by_cases large : n > maxSpelled
  · rw [if_pos large, if_pos large]
    rfl
  · rw [if_neg large, if_neg large]
    rfl

/-- Up to the largest number, the digits of a number ask for that many places. -/
theorem ofText_toString_of_le {n : Nat} (few : n ≤ maxCount) : ofText (toString n) = count n := by
  -- The largest number asked for can be spelled.
  have spelled : ¬ n > maxSpelled := Nat.not_lt.mpr (Nat.le_trans few (by decide))
  rw [ofText_toString, if_neg spelled, bounded, if_neg (Nat.not_lt.mpr few)]

/-- Beyond the largest number, the digits of a number are refused. -/
theorem ofText_toString_of_lt {n : Nat} (many : maxCount < n) :
    ∃ fault, ofText (toString n) = unusable fault := by
  -- The number is refused while it is read, or afterwards for its places.
  rw [ofText_toString]
  by_cases large : n > maxSpelled
  · exact ⟨_, if_pos large⟩
  · rw [if_neg large, bounded, if_pos many]
    exact ⟨_, rfl⟩

end DeskCalc.Number.Places
