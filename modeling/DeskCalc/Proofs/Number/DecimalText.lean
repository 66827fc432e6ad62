import DeskCalc.Number.FixedPoint
import Mathlib.Algebra.Order.Field.Rat
import Mathlib.Data.List.DropRight
import Mathlib.Tactic.FieldSimp
import Mathlib.Tactic.Linarith
import Mathlib.Tactic.Positivity

/-! Decimal texts: the digits of a number of units, without the zeros at their end,
denote the same number, and a shown result is such a text behind its sign. -/

namespace DeskCalc.Number

/-- Digits behind others count for less, by a power of ten for each of them. -/
theorem ofDigits_append (front back : List Char) :
    ofDigits (front ++ back) = ofDigits front * 10 ^ back.length + ofDigits back := by
  -- The front is read first, and what it denotes is what the back is read on top of.
  rw [ofDigits, Nat.ofDigitChars_append, Nat.ofDigitChars_eq_ofDigitChars_zero, Nat.mul_comm]
  rfl

theorem ofDigits_replicate_zero (count : Nat) : ofDigits (List.replicate count '0') = 0 := by
  -- Each zero multiplies what was read before it, which is nothing.
  rw [ofDigits, Nat.ofDigitChars_replicate_zero, Nat.mul_zero]

/-- Digits denote a number below the power of ten that counts them. -/
theorem ofDigits_lt {digits : List Char} (all : ∀ c ∈ digits, c.isDigit = true) :
    ofDigits digits < 10 ^ digits.length := by
  -- The last digit is less than ten, and what is before it counts ten times.
  induction digits using List.reverseRecOn with
  | nil => decide
  | append_singleton front last ih =>
    have before := ih fun c member => all c (List.mem_append_left _ member)
    have digit := all last (by simp)
    have small : ofDigits [last] < 10 := by
      simp only [Char.isDigit, Bool.and_eq_true, decide_eq_true_eq, UInt32.le_iff_toNat_le] at digit
      have high : last.toNat ≤ 57 := digit.2
      simp [ofDigits, Nat.ofDigitChars]
      omega
    rw [ofDigits_append, List.length_append, List.length_singleton, pow_add]
    omega

/-- The digits of a number denote it. -/
theorem ofDigits_toString (n : Nat) : ofDigits (toString n).toList = n := by
  simp [ofDigits]

theorem isDigit_of_mem_toString {n : Nat} {c : Char} (member : c ∈ (toString n).toList) :
    c.isDigit = true := by
  -- The digits of a number are those of its list of digits, where the library knows them.
  rw [Nat.toString_eq_repr, Nat.toList_repr] at member
  exact Nat.isDigit_of_mem_toDigits (by decide) (by decide) member

theorem toString_ne_nil (n : Nat) : (toString n).toList ≠ [] := by
  simp

/-- A number below a power of ten has at most as many digits as the power has zeros. -/
theorem length_toString_le {n places : Nat} (positive : 0 < places) (below : n < 10 ^ places) :
    (toString n).toList.length ≤ places := by
  -- As above, the length is that of the list of digits.
  rw [Nat.toString_eq_repr, Nat.toList_repr]
  exact (Nat.length_toDigits_le_iff (by decide) positive).mpr below

section Digits

variable {units places : Nat}

/-- All places have a digit. -/
theorem length_fractionDigits (positive : 0 < places) :
    (fractionDigits units places).length = places := by
  -- What is left of the units is below the power of ten, so its digits fit into the places.
  have short := length_toString_le positive (Nat.mod_lt units (Nat.pow_pos (by decide : 0 < 10)))
  simp only [fractionDigits, beq_iff_eq, positive.ne', if_false, List.length_append,
    List.length_replicate]
  -- The zeros before them fill up the places that are left.
  omega

/-- The digits behind the point denote what is left of the units. -/
theorem ofDigits_fractionDigits (positive : 0 < places) :
    ofDigits (fractionDigits units places) = units % 10 ^ places := by
  -- Zeros before the digits of what is left count for nothing.
  simp only [fractionDigits, beq_iff_eq, positive.ne', if_false]
  rw [ofDigits_append, ofDigits_replicate_zero, ofDigits_toString, Nat.zero_mul, Nat.zero_add]

theorem isDigit_of_mem_fractionDigits {c : Char} (member : c ∈ fractionDigits units places) :
    c.isDigit = true := by
  simp only [fractionDigits] at member
  -- Without places there are no digits at all.
  split at member
  · simp at member
  · rcases List.mem_append.mp member with zero | digit
    · rw [List.eq_of_mem_replicate zero]
      decide
    · exact isDigit_of_mem_toString digit

/-- All the digits denote the units. -/
theorem ofDigits_digits (positive : 0 < places) :
    ofDigits (wholeDigits units places ++ fractionDigits units places) = units := by
  -- The whole part counts for the power of ten, and the division is put together again.
  rw [ofDigits_append, ofDigits_fractionDigits positive, length_fractionDigits positive,
    wholeDigits, ofDigits_toString]
  exact Nat.div_add_mod' units (10 ^ places)

end Digits

/-- The digits behind the point without the zeros at their end. -/
def shortFraction (units places : Nat) : List Char :=
  dropTrailing (· == '0') (fractionDigits units places)

/-- A number of units of `10 ^ -places` with as few digits behind the point as it needs. -/
def decimalText (units places : Nat) : List Char :=
  wholeDigits units places ++
    if shortFraction units places = [] then [] else '.' :: shortFraction units places

/-- A text behind the sign of a number. -/
def signed (negative : Bool) (text : List Char) : List Char :=
  if negative then '-' :: text else text

/-- How a signed number of units of `10 ^ -places` is shown: no units are a bare zero. -/
def shownText (negative : Bool) (units places : Nat) : List Char :=
  if units = 0 then ['0'] else signed negative (decimalText units places)

/-- Nothing but zeros is left out where trailing zeros are dropped. -/
theorem dropTrailing_zero_append (text : List Char) :
    ∃ zeros, text = dropTrailing (· == '0') text ++ List.replicate zeros '0' := by
  -- The text falls apart into what stays and what is dropped, and the latter is made of zeros.
  have parts := @List.rdropWhile_append_rtakeWhile _ (· == '0') text
  refine ⟨_, parts.symm.trans (congrArg _ (List.eq_replicate_of_mem fun c member => ?_))⟩
  simpa using List.mem_rtakeWhile_imp member

section Short

variable {units places : Nat}

/-- The zeros at the end of the digits are all that is left out. -/
theorem shortFraction_append (units places : Nat) :
    ∃ zeros, fractionDigits units places =
      shortFraction units places ++ List.replicate zeros '0' :=
  dropTrailing_zero_append _

theorem isDigit_of_mem_shortFraction {c : Char} (member : c ∈ shortFraction units places) :
    c.isDigit = true := by
  obtain ⟨zeros, whole⟩ := shortFraction_append units places
  exact isDigit_of_mem_fractionDigits (whole ▸ List.mem_append_left _ member)

/-- The short digits denote the units over their power of ten. -/
theorem ofDigits_short (positive : 0 < places) :
    (ofDigits (wholeDigits units places ++ shortFraction units places) : ℚ) /
      10 ^ (shortFraction units places).length = units / 10 ^ places := by
  -- The zeros that are left out are as many powers of ten in the units as in the places.
  obtain ⟨zeros, whole⟩ := shortFraction_append units places
  have value : ofDigits (wholeDigits units places ++ fractionDigits units places) = units :=
    ofDigits_digits positive
  have length : (fractionDigits units places).length = places := length_fractionDigits positive
  rw [whole, ← List.append_assoc, ofDigits_append, List.length_replicate,
    ofDigits_replicate_zero, Nat.add_zero] at value
  rw [whole, List.length_append, List.length_replicate] at length
  have power : (10 : ℚ) ^ places = 10 ^ (shortFraction units places).length * 10 ^ zeros := by
    rw [← pow_add, length]
  have valueRat : (units : ℚ) =
      ofDigits (wholeDigits units places ++ shortFraction units places) * 10 ^ zeros := by
    exact_mod_cast value.symm
  -- What the numerator lacks the denominator lacks too.
  rw [power, valueRat]
  field_simp

/-- What is dropped at the end of a text stays behind a character that is not dropped. -/
theorem dropTrailing_append_cons {drop : Char → Bool} {c : Char} (kept : drop c = false)
    (front back : List Char) :
    dropTrailing drop (front ++ c :: back) = front ++ c :: dropTrailing drop back := by
  -- Dropping starts from the end, so the text is read from there.
  have split : (front ++ c :: back).reverse = back.reverse ++ c :: front.reverse := by simp
  rw [dropTrailing, split, List.dropWhile_append]
  split_ifs with empty
  · -- Everything behind the character is dropped, but the character stops the dropping.
    have nothing : back.reverse.dropWhile drop = [] := by simpa using empty
    simp [dropTrailing, nothing, kept]
  · -- Something behind the character stops the dropping before it.
    simp [dropTrailing]

/-- Nothing is dropped from a text that ends with characters that are not dropped. -/
theorem dropTrailing_append_of_kept {drop : Char → Bool} {back : List Char} (occupied : back ≠ [])
    (kept : ∀ c ∈ back, drop c = false) (front : List Char) :
    dropTrailing drop (front ++ back) = front ++ back := by
  -- The last character of the text is one that stays.
  refine List.rdropWhile_eq_self_iff.mpr fun _ => ?_
  rw [List.getLast_append_of_right_ne_nil _ _ occupied, kept _ (List.getLast_mem occupied)]
  exact Bool.false_ne_true

/-- A digit is no point. -/
theorem not_point_of_isDigit {c : Char} (digit : c.isDigit = true) : (c == '.') = false := by
  rw [beq_eq_false_iff_ne]
  intro same
  subst same
  exact absurd digit (by decide)

/-- Without zeros and a point at their end, fixed-point digits are the decimal text. -/
theorem dropTrailing_fixedPoint (negative : Bool) (positive : 0 < places) :
    dropTrailing (· == '.') (dropTrailing (· == '0') (fixedPoint negative units places)) =
      signed negative (decimalText units places) := by
  -- The point keeps the zeros before it, and goes itself when no digit is left behind it.
  set front := (if negative then ['-'] else []) ++ wholeDigits units places with frontEq
  have layout : fixedPoint negative units places = front ++ '.' :: fractionDigits units places := by
    simp [fixedPoint, frontEq, positive.ne']
  have short : dropTrailing (· == '0') (fixedPoint negative units places) =
      front ++ '.' :: shortFraction units places := by
    rw [layout, dropTrailing_append_cons (by decide)]
    rfl
  have text : signed negative (decimalText units places) =
      front ++
        if shortFraction units places = [] then [] else '.' :: shortFraction units places := by
    cases negative <;> simp [signed, decimalText, frontEq]
  rw [short, text]
  -- Either nothing is left behind the point, or a digit is.
  by_cases nothing : shortFraction units places = []
  · have whole : dropTrailing (· == '.') front = front :=
      dropTrailing_append_of_kept (toString_ne_nil _)
        (fun c member => not_point_of_isDigit (isDigit_of_mem_toString member)) _
    rw [nothing, if_pos rfl, List.append_nil]
    simpa [dropTrailing] using whole
  · rw [if_neg nothing, List.append_cons]
    exact dropTrailing_append_of_kept nothing
      (fun c member => not_point_of_isDigit (isDigit_of_mem_shortFraction member)) _

/-- A decimal text starts with a digit. -/
theorem decimalText_eq_cons (units places : Nat) :
    ∃ digit rest, digit.isDigit = true ∧ decimalText units places = digit :: rest := by
  -- The digits of the whole part come first, and there is at least one of them.
  obtain ⟨digit, rest, split⟩ := List.exists_cons_of_ne_nil (toString_ne_nil (units / 10 ^ places))
  have isDigit : digit.isDigit = true := isDigit_of_mem_toString (split ▸ List.mem_cons_self)
  rw [decimalText, wholeDigits, split, List.cons_append]
  exact ⟨digit, _, isDigit, rfl⟩

/-- No digits are left behind the point of a whole number. -/
theorem shortFraction_mul_pow (positive : 0 < places) (n : Nat) :
    shortFraction (n * 10 ^ places) places = [] := by
  have one : places - 1 + 1 = places := Nat.sub_add_cancel positive
  -- Nothing is left of the units below the power of ten, so every place shows a zero.
  have zeros : fractionDigits (n * 10 ^ places) places = List.replicate places '0' := by
    simp [fractionDigits, positive.ne', ← List.replicate_succ', one]
  simp [shortFraction, zeros, dropTrailing]

/-- The decimal text of a whole number is made of its digits. -/
theorem decimalText_mul_pow (positive : 0 < places) (n : Nat) :
    decimalText (n * 10 ^ places) places = (toString n).toList := by
  rw [decimalText, if_pos (shortFraction_mul_pow positive n), List.append_nil, wholeDigits,
    Nat.mul_div_cancel _ (Nat.pow_pos (by decide))]

/-- The decimal text of no units is a zero, and that of any others is not. -/
theorem decimalText_eq_zero_iff (positive : 0 < places) :
    decimalText units places = ['0'] ↔ units = 0 := by
  -- The text denotes the units, and a bare zero denotes none.
  have value := @ofDigits_short units places positive
  constructor
  · intro text
    by_cases nothing : shortFraction units places = []
    · have zero : ofDigits ['0'] = 0 := rfl
      have power : (10 : ℚ) ^ places ≠ 0 := by positivity
      rw [decimalText, if_pos nothing, List.append_nil] at text
      rw [nothing, List.append_nil, text, zero] at value
      simpa [power] using value.symm
    · -- A point needs a second character.
      rw [decimalText, if_neg nothing, List.append_cons, List.append_eq_singleton_iff] at text
      simp [nothing] at text
  · -- No units are the whole number zero.
    intro same
    subst same
    simpa using @decimalText_mul_pow places positive 0

/-- Fixed-point digits are tidied up to what is shown for their units. -/
theorem tidy_fixedPoint (negative : Bool) (positive : 0 < places) :
    tidy (fixedPoint negative units places) = shownText negative units places := by
  have zero := @decimalText_eq_zero_iff units places positive
  -- What is left to compare is the bare zero, which the rule for nothing left looks for.
  simp only [tidy, dropTrailing_fixedPoint negative positive, shownText]
  by_cases none : units = 0
  · rw [if_pos none, zero.mpr none]
    cases negative <;> rfl
  · -- Behind the sign stands no bare zero, and without a sign there is no leading dash.
    have other : decimalText units places ≠ ['0'] := mt zero.mp none
    obtain ⟨digit, rest, isDigit, split⟩ := decimalText_eq_cons units places
    have noDash : digit ≠ '-' := by
      intro same
      subst same
      exact absurd isDigit (by decide)
    rw [if_neg none]
    cases negative with
    | true => simp [signed, other]
    | false => simp [signed, split, noDash]

/-- An integer is written as its units are shown. -/
theorem toString_eq_shownText (negative : Bool) (positive : 0 < places) (n : Nat) :
    toString (if negative then -(n : Int) else n) =
      String.ofList (shownText negative (n * 10 ^ places) places) := by
  -- Only zero drops its sign, in both ways of writing it.
  have power : 10 ^ places ≠ 0 := by positivity
  rw [shownText, decimalText_mul_pow positive]
  cases n with
  | zero => cases negative <;> simp <;> rfl
  | succ n =>
    -- Another whole number has units, and its digits stand behind its sign.
    rw [if_neg (Nat.mul_ne_zero (Nat.succ_ne_zero n) power)]
    cases negative with
    | false =>
      simp only [signed, if_false, Bool.false_eq_true, String.ofList_toList]
      rfl
    | true =>
      simp only [signed, if_true]
      show "-" ++ toString (n + 1) = _
      apply String.toList_inj.mp
      simp

end Short

end DeskCalc.Number
