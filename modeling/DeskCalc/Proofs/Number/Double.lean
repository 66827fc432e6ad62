import DeskCalc.Proofs.Number.Rounding
import Mathlib

/-! Doubles and their bits: taking a double apart gives back the bits that it was made of,
and its sign is one of them. -/

namespace DeskCalc.Number

open Float.Model Float.Model.UnpackedFloat

section Words

variable (word : BitVec 64)

/-- The exponent bits of a word. -/
abbrev exponentOf : BitVec 11 :=
  @unpackExponent Format.binary64 word

/-- The mantissa bits of a word. -/
abbrev mantissaOf : BitVec 52 :=
  @unpackMantissa Format.binary64 word

/-- The sign bit of a word. -/
abbrev signOf : BitVec 1 :=
  @unpackSign Format.binary64 word

theorem toNat_mantissaOf : (mantissaOf word).toNat = word.toNat % 2 ^ 52 := by
  simp [unpackMantissa, BitVec.extractLsb]

theorem toNat_exponentOf : (exponentOf word).toNat = word.toNat / 2 ^ 52 % 2 ^ 11 := by
  simp [unpackExponent, BitVec.extractLsb, Nat.shiftRight_eq_div_pow]

theorem toNat_signOf : (signOf word).toNat = word.toNat / 2 ^ 63 % 2 := by
  simp [unpackSign, BitVec.extractLsb, Nat.shiftRight_eq_div_pow]

variable {word}

/-- The exponent bits are all set when the number that they make out is the largest one. -/
theorem exponentOf_eq_top_iff :
    exponentOf word = -1#_ ↔ word.toNat / 2 ^ 52 % 2 ^ 11 = 0x7ff := by
  rw [← BitVec.toNat_inj, toNat_exponentOf]
  rfl

/-- No exponent bit is set when the number that they make out is zero. -/
theorem exponentOf_eq_zero_iff :
    exponentOf word = 0#_ ↔ word.toNat / 2 ^ 52 % 2 ^ 11 = 0 := by
  rw [← BitVec.toNat_inj, toNat_exponentOf]
  rfl

/-- No mantissa bit is set when the number that they make out is zero. -/
theorem mantissaOf_eq_zero_iff : mantissaOf word = 0#_ ↔ word.toNat % 2 ^ 52 = 0 := by
  rw [← BitVec.toNat_inj, toNat_mantissaOf]
  rfl

/-- A word with the other sign denotes the number with the other sign. -/
theorem unpack_eq_neg {other : BitVec 64} (exponent : exponentOf other = exponentOf word)
    (mantissa : mantissaOf other = mantissaOf word) (sign : signOf other = ~~~ signOf word) :
    UnpackedFloat.unpack Format.binary64 other =
      (UnpackedFloat.unpack Format.binary64 word).neg := by
  have flipped : Sign.ofBitVec (signOf other) = -Sign.ofBitVec (signOf word) := by
    -- Of the two sign bits each is turned into the other one.
    rw [sign]
    rcases BitVec.eq_zero_or_eq_one (signOf word) with zero | one
    · rw [zero]
      rfl
    · rw [one]
      rfl
  -- The kind of number does not depend on the sign, which is handed on in each of them.
  simp only [UnpackedFloat.unpack, exponent, mantissa, flipped]
  split
  · split <;> rfl
  · split
    · split <;> rfl
    · rfl

end Words

/-- Bits that are not beyond those of an infinity denote a number. -/
theorem isNaNBits_of_le {bits : Nat} (below : bits % signBit ≤ infinityBits) :
    @isNaNBits Format.binary64 (UInt64.ofNat bits).toBitVec = false := by
  -- With all the exponent bits set, only an infinity is left, whose mantissa is zero.
  simp only [isNaNBits, decide_eq_false_iff_not, not_and, not_not]
  intro top
  have topNat : (exponentOf (UInt64.ofNat bits).toBitVec).toNat = 2047 :=
    congrArg BitVec.toNat top
  -- The mantissa is compared as a number, where the bits below the exponent are all that counts.
  apply BitVec.eq_of_toNat_eq
  refine (toNat_mantissaOf _).trans ?_
  rw [toNat_exponentOf] at topNat
  simp [signBit, infinityBits, fractionBits] at below topNat ⊢
  omega

/-- The bits of a double that is made of the bits of a number. -/
theorem toBits_ofBits {bits : Nat} (below : bits % signBit ≤ infinityBits) :
    (Float.ofBits (UInt64.ofNat bits)).toBits = UInt64.ofNat bits := by
  -- The library knows that a word is packed again as it was, unless it denotes no number.
  have packed := @pack_unpack Format.binary64 (UInt64.ofNat bits).toBitVec (by decide)
  rw [isNaNBits_of_le below] at packed
  exact congrArg UInt64.ofBitVec packed

/-- A double that is made of the bits of a number is taken apart like its bits. -/
theorem Binary.ofFloat_ofBits {bits : Nat} (below : bits % signBit ≤ infinityBits)
    (room : bits < 2 ^ 64) :
    Binary.ofFloat (Float.ofBits (UInt64.ofNat bits)) = Binary.ofBits bits := by
  -- The word has room for all the bits, so none of them is cut off.
  rw [Binary.ofFloat, toBits_ofBits below, UInt64.toNat_ofNat', Nat.mod_eq_of_lt room]

/-- A double changes its sign with its sign bit. -/
theorem neg_ofBits {bits : Nat} (below : bits ≤ infinityBits) :
    -Float.ofBits (UInt64.ofNat bits) = Float.ofBits (UInt64.ofNat (signBit + bits)) := by
  -- The sign bit is free, and setting it changes the sign of the word and nothing else.
  have room : bits < signBit := Nat.lt_of_le_of_lt below (by decide)
  have same := toBits_ofBits (Nat.mod_eq_of_lt room ▸ below)
  have flipped : UnpackedFloat.unpack Format.binary64 (UInt64.ofNat (signBit + bits)).toBitVec =
      (UnpackedFloat.unpack Format.binary64 (UInt64.ofNat bits).toBitVec).neg := by
    apply unpack_eq_neg
    · apply BitVec.eq_of_toNat_eq
      simp only [toNat_exponentOf]
      simp [signBit] at room ⊢
      omega
    · apply BitVec.eq_of_toNat_eq
      simp only [toNat_mantissaOf]
      simp [signBit] at room ⊢
      omega
    · apply BitVec.eq_of_toNat_eq
      simp only [BitVec.toNat_not, toNat_signOf]
      simp [signBit] at room ⊢
      omega
  -- The negation takes the word of the double apart, changes the sign and packs it again.
  change Float.ofModel (.pack (UnpackedFloat.unpack Format.binary64
    (Float.ofBits (UInt64.ofNat bits)).toBits.toBitVec).neg) = _
  rw [same, ← flipped]
  rfl

/-- A double is finite exactly when its exponent bits are not all set. -/
theorem isFinite_iff_exponentOf {value : Float} :
    value.isFinite = true ↔ exponentOf value.toBits.toBitVec ≠ -1#_ := by
  -- The question is asked of the number that the bits are unpacked to.
  change (UnpackedFloat.unpack Format.binary64 value.toBits.toBitVec).isFinite = true ↔ _
  simp only [UnpackedFloat.unpack]
  split
  · rename_i special
    -- With all exponent bits set the number is infinite or none.
    refine iff_of_false ?_ (not_not_intro special)
    split <;> simp [UnpackedFloat.isFinite]
  · rename_i ordinary
    -- All the other numbers are finite: zero, below the normal ones, and normal.
    refine iff_of_true ?_ ordinary
    split
    · split <;> rfl
    · rfl

/-- A double is finite exactly when it is taken apart into a mantissa and an exponent. -/
theorem isFinite_iff {value : Float} : value.isFinite = true ↔
    ∃ negative mantissa exponent, Binary.ofFloat value = .finite negative mantissa exponent := by
  -- Both ways of taking the bits apart look at the same eleven of them.
  rw [isFinite_iff_exponentOf, ne_eq, exponentOf_eq_top_iff, UInt64.toNat_toBitVec,
    Binary.ofFloat, Binary.ofBits]
  simp only [fractionBits, beq_iff_eq]
  split
  · rename_i special
    refine iff_of_false (not_not_intro special) ?_
    split <;> simp
  · rename_i ordinary
    refine iff_of_true ordinary ?_
    split <;> exact ⟨_, _, _, rfl⟩

/-- A mantissa and an exponent as the bits of a finite double encode them. -/
structure IsCanonical (mantissa : Nat) (exponent : ℤ) : Prop where
  mantissa_lt : mantissa < 2 ^ 53
  exponent_ge : minExponent ≤ exponent
  exponent_le : exponent ≤ 971
  leading : exponent = minExponent ∨ 2 ^ 52 ≤ mantissa

/-- What the bits of a finite double are taken apart into is canonical. -/
theorem isCanonical_of_ofBits {bits : Nat} {negative : Bool} {mantissa : Nat} {exponent : ℤ}
    (finite : Binary.ofBits bits = .finite negative mantissa exponent) :
    IsCanonical mantissa exponent := by
  -- The fields of the bits are bounded by their widths.
  simp only [Binary.ofBits, fractionBits, minExponent, beq_iff_eq] at finite
  have small := Nat.mod_lt bits (Nat.two_pow_pos 52)
  have low := Nat.mod_lt (bits / 2 ^ 52) (Nat.two_pow_pos 11)
  split at finite
  · split at finite <;> simp at finite
  · split at finite
    · -- Below the normal doubles the place is the lowest one.
      simp only [Binary.finite.injEq] at finite
      obtain ⟨-, rfl, rfl⟩ := finite
      exact ⟨by omega, by simp [minExponent], by omega, .inl rfl⟩
    · -- A normal double has its leading bit set.
      simp only [Binary.finite.injEq] at finite
      obtain ⟨-, rfl, rfl⟩ := finite
      exact ⟨by omega, by simp only [minExponent]; omega, by omega, .inr (by omega)⟩

/-- The bits of a sign. -/
def signBits (negative : Bool) : Nat :=
  if negative then signBit else 0

/-- The sign is its own bit of a word, and the bits below it are the rest. -/
theorem signBits_add {rest : Nat} (negative : Bool) (below : rest < 2 ^ 63) :
    (signBits negative + rest) / signBit % 2 = (if negative then 1 else 0) ∧
      (signBits negative + rest) / 2 ^ 52 % 2 ^ 11 = rest / 2 ^ 52 ∧
      (signBits negative + rest) % 2 ^ 52 = rest % 2 ^ 52 := by
  -- Without a sign nothing is added, and with it the bit lies above all the others.
  cases negative with
  | false =>
    simp only [signBits, signBit, if_false, Bool.false_eq_true]
    omega
  | true =>
    simp only [signBits, signBit, if_true]
    omega

/-- Bits are taken apart into the sign, the exponent and the fraction that they were made of. -/
theorem ofBits_fields {biased fraction : Nat} (negative : Bool) (low : biased < 2047)
    (small : fraction < 2 ^ 52) :
    Binary.ofBits (signBits negative + (biased * 2 ^ 52 + fraction)) =
      if biased = 0 then .finite negative fraction minExponent
      else .finite negative (2 ^ 52 + fraction) (biased + minExponent - 1) := by
  -- The fraction does not reach the exponent, and the exponent does not reach the sign.
  have below : biased * 2 ^ 52 + fraction < 2 ^ 63 := by omega
  obtain ⟨sign, exponent, rest⟩ := signBits_add negative below
  have biased_eq : (biased * 2 ^ 52 + fraction) / 2 ^ 52 = biased := by omega
  have fraction_eq : (biased * 2 ^ 52 + fraction) % 2 ^ 52 = fraction := by omega
  have ordinary : biased ≠ 2047 := by omega
  simp only [Binary.ofBits, fractionBits, sign, exponent, rest, biased_eq, fraction_eq,
    beq_iff_eq, ordinary, if_false]
  cases negative <;> rfl

/-- Places above the smallest one count bits of the exponent, on top of a mantissa. -/
theorem ofBits_place {place mantissa : Nat} (negative : Bool) (low : place ≤ 2045)
    (small : mantissa < 2 ^ 53) (leading : place = 0 ∨ 2 ^ 52 ≤ mantissa) :
    Binary.ofBits (signBits negative + (place * 2 ^ 52 + mantissa)) =
      .finite negative mantissa (place + minExponent) := by
  -- The leading bit of the mantissa is carried into the exponent.
  rcases Nat.lt_or_ge mantissa (2 ^ 52) with short | long
  · -- A mantissa without its leading bit stands at the lowest place only.
    obtain rfl : place = 0 := by omega
    rw [ofBits_fields negative (by decide) short, if_pos rfl]
    simp
  · -- The leading bit raises the exponent by one, and the rest stays as the fraction.
    have carried : place * 2 ^ 52 + mantissa =
        (place + 1) * 2 ^ 52 + (mantissa - 2 ^ 52) := by
      omega
    rw [carried, ofBits_fields negative (by omega) (by omega), if_neg (by omega)]
    simp only [Binary.finite.injEq, true_and]
    omega

/-- A mantissa that is rounded up to one more bit counts as one more place. -/
theorem ofBits_carry {place : Nat} (negative : Bool) (low : place ≤ 2044) :
    Binary.ofBits (signBits negative + (place * 2 ^ 52 + 2 ^ 53)) =
      .finite negative (2 ^ 52) (place + 1 + minExponent) := by
  have carried : place * 2 ^ 52 + 2 ^ 53 = (place + 1) * 2 ^ 52 + 2 ^ 52 := by omega
  rw [carried, ofBits_place negative (by omega) (by decide) (.inr (Nat.le_refl _))]
  rfl

end DeskCalc.Number
