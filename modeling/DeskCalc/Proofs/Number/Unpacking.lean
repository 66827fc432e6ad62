import DeskCalc.Proofs.RoundedResult

/-! Comparisons of doubles with zero. They are made on the library's own view of a double, which has
the same parts as the one that the calculator takes. -/

namespace DeskCalc.Number

open Float.Model Float.Model.UnpackedFloat

/-- A double as the library takes it apart. -/
def unpacked (value : Float) : UnpackedFloat :=
  .unpack Format.binary64 value.toBits.toBitVec

/-- The parts of what the library takes apart. -/
def Binary.ofUnpacked : UnpackedFloat → Binary
  | .notANumber => nan
  | .infinity sign => infinity (sign == .negative)
  | .zero sign => finite (sign == .negative) 0 minExponent
  | .finite sign mantissa exponent _ => finite (sign == .negative) mantissa exponent

/-- The sign of a word is its highest bit. -/
theorem ofBitVec_signOf (word : BitVec 64) :
    (Sign.ofBitVec (signOf word) == .negative) = (word.toNat / signBit % 2 == 1) := by
  -- A word of one bit is zero or one.
  rw [signBit, ← toNat_signOf word]
  rcases BitVec.eq_zero_or_eq_one (signOf word) with zero | one
  · rw [zero]
    rfl
  · rw [one]
    rfl

/-- The leading bit of a normal double stands above the bits of its mantissa. -/
theorem toNat_append_mantissaOf (word : BitVec 64) :
    (1#1 ++ mantissaOf word).toNat = 2 ^ 52 + word.toNat % 2 ^ 52 := by
  rw [BitVec.toNat_append, toNat_mantissaOf, Nat.shiftLeft_eq, BitVec.toNat_one Nat.one_pos,
    Nat.mul_comm, ← Nat.two_pow_add_eq_or_of_lt (Nat.mod_lt _ (Nat.two_pow_pos 52))]
  rfl

/-- The library takes a double apart into the same parts. -/
theorem Binary.ofFloat_eq_ofUnpacked (value : Float) :
    Binary.ofFloat value = .ofUnpacked (unpacked value) := by
  have sign := ofBitVec_signOf value.toBits.toBitVec
  have mantissa := toNat_mantissaOf value.toBits.toBitVec
  have exponent := toNat_exponentOf value.toBits.toBitVec
  simp only [unpacked, UnpackedFloat.unpack, ofFloat, ofBits, fractionBits, beq_iff_eq]
  -- Both look at the same fields, the exponent first.
  rcases eq_or_ne (value.toBits.toNat / 2 ^ 52 % 2 ^ 11) 0x7ff with special | ordinary
  · rw [if_pos special, if_pos (exponentOf_eq_top_iff.mpr special)]
    rcases eq_or_ne (value.toBits.toNat % 2 ^ 52) 0 with empty | other
    · rw [if_pos empty, if_pos (mantissaOf_eq_zero_iff.mpr empty), ofUnpacked, sign]
      rfl
    · rw [if_neg other, if_neg (mt mantissaOf_eq_zero_iff.mp other), ofUnpacked]
  rw [if_neg ordinary, if_neg (mt exponentOf_eq_top_iff.mp ordinary)]
  rcases eq_or_ne (value.toBits.toNat / 2 ^ 52 % 2 ^ 11) 0 with small | normal
  · rw [if_pos small, if_pos (exponentOf_eq_zero_iff.mpr small)]
    rcases eq_or_ne (value.toBits.toNat % 2 ^ 52) 0 with empty | other
    · rw [dif_pos (mantissaOf_eq_zero_iff.mpr empty), ofUnpacked, sign, empty]
      rfl
    · rw [dif_neg (mt mantissaOf_eq_zero_iff.mp other), ofUnpacked, sign]
      refine (Binary.finite.injEq ..).mpr ⟨rfl, mantissa.symm, ?_⟩
      rw [exponent.trans small]
      rfl
  · rw [if_neg normal, if_neg (mt exponentOf_eq_zero_iff.mp normal), ofUnpacked, sign]
    refine (Binary.finite.injEq ..).mpr ⟨rfl, (toNat_append_mantissaOf _).symm, ?_⟩
    -- The library counts the places of the mantissa into the bias of the exponent.
    rw [exponent, minExponent, show Format.binary64.exponentBias = 1023 from rfl,
      UInt64.toNat_toBitVec]
    omega

/-- A mantissa that is not zero has a magnitude above zero. -/
theorem magnitude_pos {mantissa : Nat} (positive : 0 < mantissa) (exponent : ℤ) :
    0 < magnitude mantissa exponent := by
  unfold magnitude
  positivity

section Comparisons

variable {value : Float}

/-- A double equals zero when it is a finite one whose number is zero, with either sign. -/
theorem beq_zero_iff :
    (value == 0) = true ↔ value.isFinite = true ∧ (Binary.ofFloat value).number = 0 := by
  -- Zero is unpacked to the positive zero.
  have compared : (value == 0) = ((unpacked value).compare (.zero .positive) == some .eq) := rfl
  have finite : value.isFinite = (unpacked value).isFinite := rfl
  rw [compared, beq_iff_eq, finite, Binary.ofFloat_eq_ofUnpacked]
  cases unpacked value with
  | notANumber => simp [UnpackedFloat.compare, UnpackedFloat.isFinite]
  | infinity sign => cases sign <;> simp [UnpackedFloat.compare, UnpackedFloat.isFinite]
  | zero sign =>
    simp [UnpackedFloat.compare, UnpackedFloat.isFinite, Binary.ofUnpacked, Binary.number, magnitude]
  | finite sign mantissa exponent positive =>
    have size := (magnitude_pos positive exponent).ne'
    cases sign <;> simp [UnpackedFloat.compare, Binary.ofUnpacked, Binary.number, size]

/-- A double is less than zero when it is the negative infinity or a finite one whose number is
less than zero. -/
theorem lt_zero_iff : value < 0 ↔ Binary.ofFloat value = .infinity true ∨
    value.isFinite = true ∧ (Binary.ofFloat value).number < 0 := by
  have compared : value < 0 ↔ (unpacked value).compare (.zero .positive) = some .lt := by
    -- The order is asked for twice on the way to what is unpacked.
    change Float.lt value 0 = true ↔ _
    rw [Float.lt, decide_eq_true_iff]
    exact beq_iff_eq
  have finite : value.isFinite = (unpacked value).isFinite := rfl
  rw [compared, finite, Binary.ofFloat_eq_ofUnpacked]
  cases unpacked value with
  | notANumber => simp [UnpackedFloat.compare, UnpackedFloat.isFinite, Binary.ofUnpacked]
  | infinity sign =>
    cases sign <;> simp [UnpackedFloat.compare, UnpackedFloat.isFinite, Binary.ofUnpacked]
  | zero sign => simp [UnpackedFloat.compare, Binary.ofUnpacked, Binary.number, magnitude]
  | finite sign mantissa exponent positive =>
    have size := magnitude_pos positive exponent
    cases sign <;>
      simp [UnpackedFloat.compare, UnpackedFloat.isFinite, Binary.ofUnpacked, Binary.number, size,
        size.le]

end Comparisons

end DeskCalc.Number
