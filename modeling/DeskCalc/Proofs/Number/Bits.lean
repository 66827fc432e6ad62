import DeskCalc.Proofs.Number.Double

/-! A double is told by what it is taken apart into: the bits of each kind are put together
again. -/

namespace DeskCalc.Number

/-- The sign bit and the bits below it make out a word. -/
theorem signBits_add_mod {bits : Nat} (room : bits < 2 ^ 64) :
    signBits (bits / signBit % 2 == 1) + bits % 2 ^ 63 = bits := by
  -- The quotient by the sign bit is nothing or one.
  have whole := Nat.div_add_mod bits (2 ^ 63)
  rcases Nat.lt_or_ge bits (2 ^ 63) with low | high
  · rw [signBit, Nat.div_eq_of_lt low, Nat.mod_eq_of_lt low]
    exact Nat.zero_add bits
  · have one : bits / 2 ^ 63 = 1 := by omega
    rw [one] at whole
    rw [signBit, one]
    exact whole

/-- The bits of a finite double are its sign, its place and its mantissa. -/
theorem eq_of_ofBits_eq_finite {bits : Nat} (room : bits < 2 ^ 64) {negative : Bool}
    {mantissa : Nat} {exponent : ℤ}
    (finite : Binary.ofBits bits = .finite negative mantissa exponent) :
    ∃ place : ℕ, exponent = place + minExponent ∧
      bits = signBits negative + (place * 2 ^ 52 + mantissa) := by
  -- The exponent field tells apart the two kinds of finite doubles.
  have word := signBits_add_mod room
  simp only [Binary.ofBits, fractionBits, beq_iff_eq] at finite
  split at finite
  · split at finite <;> cases finite
  · split at finite
    · -- Below the normal doubles there is nothing but the fraction.
      cases finite
      exact ⟨0, by simp, word.symm.trans (by omega)⟩
    · -- A normal double has a leading bit, which counts as one more place.
      cases finite
      refine ⟨bits / 2 ^ 52 % 2 ^ 11 - 1, by omega, word.symm.trans ?_⟩
      congr 1
      omega

section Parts

variable {value : Float} {negative : Bool} {mantissa : Nat} {exponent : ℤ}

/-- A finite double is made of its sign, its place and its mantissa. -/
theorem eq_ofBits_of_ofFloat (finite : Binary.ofFloat value = .finite negative mantissa exponent) :
    ∃ place : ℕ, exponent = place + minExponent ∧
      value = Float.ofBits (UInt64.ofNat (signBits negative + (place * 2 ^ 52 + mantissa))) := by
  -- A double is told by its bits.
  obtain ⟨place, same, bits⟩ := eq_of_ofBits_eq_finite value.toBits.toNat_lt finite
  refine ⟨place, same, ?_⟩
  rw [← bits, UInt64.ofNat_toNat, Float.ofBits_toBits]

/-- What a finite double is taken apart into is canonical. -/
theorem isCanonical_of_ofFloat
    (finite : Binary.ofFloat value = .finite negative mantissa exponent) :
    IsCanonical mantissa exponent :=
  isCanonical_of_ofBits finite

/-- There is one infinity for each sign. -/
theorem eq_ofBits_of_ofFloat_infinity (infinite : Binary.ofFloat value = .infinity negative) :
    value = Float.ofBits (UInt64.ofNat (signBits negative + infinityBits)) := by
  -- The exponent field is full, and there is no fraction.
  have word := signBits_add_mod value.toBits.toNat_lt
  simp only [Binary.ofFloat, Binary.ofBits, fractionBits, beq_iff_eq] at infinite
  split at infinite
  · split at infinite
    · rename_i top nothing
      cases infinite
      have low : value.toBits.toNat % 2 ^ 63 = infinityBits := by
        simp only [infinityBits, fractionBits]
        omega
      rw [low] at word
      rw [word, UInt64.ofNat_toNat, Float.ofBits_toBits]
    · cases infinite
  · split at infinite <;> cases infinite

/-- There is one double that is no number. -/
theorem eq_ofBits_of_ofFloat_nan (nan : Binary.ofFloat value = .nan) :
    value = Float.ofBits 0x7ff8000000000000 := by
  -- The exponent field is full as well, but there is a fraction.
  simp only [Binary.ofFloat, Binary.ofBits, fractionBits, beq_iff_eq] at nan
  split at nan
  · split at nan
    · cases nan
    · rename_i top some
      have exponent : exponentOf value.toBits.toBitVec = -1#_ := by
        apply BitVec.eq_of_toNat_eq
        rw [toNat_exponentOf]
        exact top
      have mantissa : mantissaOf value.toBits.toBitVec ≠ 0#_ := by
        intro zero
        have nothing := congrArg BitVec.toNat zero
        rw [toNat_mantissaOf] at nothing
        exact some nothing
      -- Every other word of this kind is ruled out.
      have word := value.toModel.valid.eq_packedNaN exponent mantissa
      exact Float.toBits_inj.mp (UInt64.toBitVec_inj.mp word)
  · split at nan <;> cases nan

end Parts

end DeskCalc.Number
