import DeskCalc.Text.Integer
import Mathlib.Algebra.Group.Nat.Defs
import Mathlib.Data.List.Induction
import Mathlib.Data.List.TakeWhile

/-! Typed text: what is left of it without the blanks at its ends, and how large an integer it can
spell. -/

namespace DeskCalc.Text

/-- Nothing is left of a text without the blanks at its ends just where it is blank. -/
theorem trimmed_eq_empty_iff {text : String} : trimmed text = "" ↔ allBlank text = true := by
  rw [trimmed, ← String.toList_inj, String.toList_ofList, String.toList_empty, allBlank,
    List.reverse_eq_nil_iff, List.dropWhile_eq_nil_iff, List.all_eq_true]
  constructor
  · intro back c member
    -- What is cut off in front is blank, and so is the rest.
    rw [← List.takeWhile_append_dropWhile (p := isBlank) (l := text.toList)] at member
    rcases List.mem_append.mp member with front | rest
    · exact List.mem_takeWhile_imp front
    · exact back c (List.mem_reverse.mpr rest)
  · intro all c member
    exact all c ((List.dropWhile_suffix isBlank).subset (List.mem_reverse.mp member))

/-- A decimal digit of any script has a value below ten. -/
theorem decimalDigit?_lt {c : Char} {digit : Nat} (value : decimalDigit? c = some digit) :
    digit < 10 := by
  unfold decimalDigit? at value
  split at value
  · rename_i ascii
    simp only [Char.isDigit, Bool.and_eq_true, decide_eq_true_eq, UInt32.le_iff_toNat_le] at ascii
    have high : c.toNat ≤ 57 := ascii.2
    obtain rfl := Option.some.inj value
    simp only [show '0'.toNat = 48 from rfl]
    omega
  · -- The zero of its script stands no more than nine places before it.
    obtain ⟨first, found, rfl⟩ := Option.map_eq_some_iff.mp value
    have within := List.find?_some found
    simp only [Bool.and_eq_true, decide_eq_true_eq] at within
    omega

/-- All digits of a numeral have values below ten. -/
theorem lt_of_mem_digitValues? {characters : List Char} {values : List Nat}
    (numeral : digitValues? characters = some values) : ∀ digit ∈ values, digit < 10 := by
  -- The first character is a digit, also where an underscore follows it.
  induction characters using digitValues?.induct generalizing values with
  | case1 => cases numeral
  | case2 c =>
    obtain ⟨digit, value, rfl⟩ := Option.map_eq_some_iff.mp numeral
    simpa using decimalDigit?_lt value
  | case3 c rest inner | case4 c rest _ _ inner =>
    simp only [digitValues?, Option.bind_eq_bind, Option.bind_eq_some_iff, Option.pure_def,
      Option.some.injEq] at numeral
    obtain ⟨digit, value, later, others, rfl⟩ := numeral
    exact List.forall_mem_cons.mpr ⟨decimalDigit?_lt value, inner others⟩

/-- Digit values denote a number below the power of ten that counts them. -/
theorem ofDigitValues_lt {values : List Nat} (digits : ∀ digit ∈ values, digit < 10) :
    ofDigitValues values < 10 ^ values.length := by
  -- What stands before the last digit counts ten times.
  induction values using List.reverseRecOn with
  | nil => decide
  | append_singleton front last inner =>
    have before := inner fun digit member => digits digit (List.mem_append_left _ member)
    have small := digits last (by simp)
    have split : ofDigitValues (front ++ [last]) = 10 * ofDigitValues front + last := by
      simp [ofDigitValues]
    rw [split, List.length_append, List.length_singleton, Nat.pow_succ]
    omega

/-- An integer that is read has no more digits than are allowed. -/
theorem natAbs_lt_of_readInteger {text : String} {value : Int}
    (read : readInteger text = .ok value) : value.natAbs < 10 ^ maxIntegerDigits := by
  unfold readInteger at read
  dsimp only at read
  split at read
  · cases read
  · rename_i values numeral
    split at read
    · cases read
    · rename_i few
      split at read
      · cases read
      · have bound : ofDigitValues values < 10 ^ maxIntegerDigits :=
          Nat.lt_of_lt_of_le (ofDigitValues_lt (lt_of_mem_digitValues? numeral))
            (Nat.pow_le_pow_right (by decide) (Nat.le_of_not_gt few))
        -- The sign does not count.
        obtain rfl := Except.ok.inj read
        split <;> simpa using bound

end DeskCalc.Text
