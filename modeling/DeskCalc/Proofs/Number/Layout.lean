import DeskCalc.Proofs.Number.ShortestDecimal

/-! The layout of decimals: wherever the point is written, the digits around it and the exponent
behind them denote the decimal. -/

namespace DeskCalc.Number

/-- A whole part is a zero alone, or digits without a zero in front. -/
structure IsWholePart (whole : List Char) : Prop where
  isDigit {c : Char} : c ∈ whole → c.isDigit = true
  occupied : whole ≠ []
  first : whole = ['0'] ∨ whole.head? ≠ some '0'

/-- The digits of a number are a whole part. -/
theorem isWholePart_toString (n : Nat) : IsWholePart (toString n).toList where
  isDigit := isDigit_of_mem_toString
  occupied := toString_ne_nil n
  first := by
    -- Zero is the zero alone.
    rcases Nat.eq_zero_or_pos n with rfl | positive
    · exact .inl rfl
    · exact .inr (head?_toString_ne_zero positive)

/-- Digits before and behind a point, and a power of ten, denote a rational. -/
structure Denotes (whole fraction : List Char) (exponent : ℤ) (value : ℚ) : Prop where
  isWhole : IsWholePart whole
  isDigit : ∀ c ∈ fraction, c.isDigit = true
  value_eq : (ofDigits (whole ++ fraction) : ℚ) * 10 ^ (exponent - fraction.length) = value

/-- All of them are digits. -/
theorem Denotes.isDigit_of_mem {whole fraction : List Char} {exponent : ℤ} {value : ℚ}
    (denotes : Denotes whole fraction exponent value) {c : Char} (member : c ∈ whole ++ fraction) :
    c.isDigit = true :=
  (List.mem_append.mp member).elim denotes.isWhole.isDigit (denotes.isDigit c)

namespace Decimal

variable {decimal : Decimal}

/-- The first digits of a decimal are a whole part, also with zeros behind them. -/
theorem IsProper.isWholePart (proper : decimal.IsProper) {front back : List Char}
    (split : decimal.digits = front ++ back) (occupied : front ≠ []) (zeros : Nat) :
    IsWholePart (front ++ List.replicate zeros '0') where
  isDigit member := by
    -- The digits are those of the decimal, or zeros behind them.
    rcases List.mem_append.mp member with digit | zero
    · exact proper.isDigit (split ▸ List.mem_append_left _ digit)
    · rw [List.eq_of_mem_replicate zero]
      decide
  occupied := by simp [occupied]
  first := by
    -- A proper decimal does not start with a zero, and neither do its first digits.
    have first := proper.first
    rw [split, List.head?_append_of_ne_nil _ occupied] at first
    exact .inr (by rwa [List.head?_append_of_ne_nil _ occupied])

/-- A decimal with its point written among its digits, or beside them, is a whole part with
a fraction. -/
theorem IsProper.positional_eq (proper : decimal.IsProper) :
    ∃ whole fraction, decimal.positional = whole ++ '.' :: fraction ∧ fraction ≠ [] ∧
      Denotes whole fraction 0 decimal.value := by
  -- The point stands before all of the digits, behind all of them, or among them.
  unfold positional
  simp only
  split
  · rename_i behind
    refine ⟨['0'], _, rfl, by simp [proper.occupied], ?_, ?_, ?_⟩
    · exact ⟨by simp, by simp, .inl rfl⟩
    · intro c member
      rcases List.mem_append.mp member with zero | digit
      · rw [List.eq_of_mem_replicate zero]
        decide
      · exact proper.isDigit digit
    · -- The zeros in front count for nothing, and the digits stand as far behind the point.
      rw [← List.append_assoc, ← List.replicate_one, ofDigits_append, ← List.replicate_add]
      rw [ofDigits_replicate_zero, Nat.zero_mul, Nat.zero_add, value]
      congr 2
      simp
      omega
  · rename_i before
    split
    · rename_i long
      refine ⟨decimal.digits ++ List.replicate (decimal.point.toNat - decimal.digits.length) '0',
        ['0'], by simp, by simp, ?_, by simp, ?_⟩
      · exact proper.isWholePart (List.append_nil _).symm proper.occupied _
      · -- Each zero counts for a power of ten.
        rw [← List.replicate_one, List.append_assoc, ← List.replicate_add, ofDigits_append,
          ofDigits_replicate_zero, List.length_replicate, Nat.add_zero, value, Nat.cast_mul,
          Nat.cast_pow, mul_assoc, ← zpow_natCast, Nat.cast_ofNat, ← zpow_add₀ (by norm_num)]
        congr 2
        simp
        omega
    · rename_i short
      refine ⟨decimal.digits.take decimal.point.toNat, decimal.digits.drop decimal.point.toNat,
        rfl, by simpa using short, ?_,
        fun c member => proper.isDigit (List.mem_of_mem_drop member), ?_⟩
      · have occupied : decimal.digits.take decimal.point.toNat ≠ [] := by
          simp [proper.occupied]
          omega
        simpa using proper.isWholePart (List.take_append_drop _ _).symm occupied 0
      · -- Together they are all the digits.
        rw [List.take_append_drop, value]
        congr 2
        simp
        omega

/-- The digits of an exponent denote its size. -/
theorem ofDigits_padded (zeros n : Nat) :
    ofDigits (List.replicate zeros '0' ++ (toString n).toList) = n := by
  rw [ofDigits_append, ofDigits_replicate_zero, ofDigits_toString, Nat.zero_mul, Nat.zero_add]

/-- A decimal with its point behind the first digit is a digit, perhaps with a fraction,
and an exponent. -/
theorem IsProper.exponential_eq (proper : decimal.IsProper) (width : Nat) :
    ∃ whole fraction size, ∃ below : Bool,
      decimal.exponential width = whole ++ ((if fraction = [] then [] else '.' :: fraction) ++
        'e' :: (if below then '-' else '+') :: size) ∧
      (∀ c ∈ size, c.isDigit = true) ∧ size ≠ [] ∧
      Denotes whole fraction (if below then -(ofDigits size : Int) else ofDigits size)
        decimal.value := by
  -- The first digit is the whole part, and the others are the fraction.
  obtain ⟨first, rest, split⟩ := List.exists_cons_of_ne_nil proper.occupied
  have sizeEq := ofDigits_padded
    (width - (toString (decimal.point - 1).natAbs).toList.length) (decimal.point - 1).natAbs
  refine ⟨[first], rest, List.replicate
    (width - (toString (decimal.point - 1).natAbs).toList.length) '0' ++
      (toString (decimal.point - 1).natAbs).toList, decide (decimal.point - 1 < 0), ?_, ?_, ?_, ?_⟩
  · simp only [exponential, split]
    cases rest <;> simp
  · intro c member
    rcases List.mem_append.mp member with zero | digit
    · rw [List.eq_of_mem_replicate zero]
      decide
    · exact isDigit_of_mem_toString digit
  · simp
  · -- The power of ten counts from behind the first digit.
    have signedSize : (if decide (decimal.point - 1 < 0) then
        -((decimal.point - 1).natAbs : ℤ) else (decimal.point - 1).natAbs) = decimal.point - 1 := by
      simp only [decide_eq_true_eq]
      split <;> omega
    rw [sizeEq, signedSize]
    refine ⟨by simpa using @IsProper.isWholePart _ proper [first] rest split (by simp) 0,
      fun c member => proper.isDigit (split ▸ List.mem_cons_of_mem _ member), ?_⟩
    have exponent : decimal.point - 1 - (rest.length : ℤ) =
        decimal.point - (rest.length + 1 : ℕ) := by
      push_cast
      ring
    rw [List.singleton_append, ← split, value, split, List.length_cons, exponent]

end Decimal

end DeskCalc.Number
