import DeskCalc.Expression.Power
import DeskCalc.Proofs.Number.Unpacking

/-! Powers always have a value. The faults of the library are told apart by the operands, and what
is put in place of them never asks for a parity that a double has not. -/

namespace DeskCalc.Expression

open DeskCalc.Number

/-- A double is a zero, with either sign. -/
def IsZero (value : Float) : Prop :=
  value.isFinite = true ∧ (Binary.ofFloat value).number = 0

/-- A double is below zero: the negative infinity or a negative number. -/
def IsBelowZero (value : Float) : Prop :=
  Binary.ofFloat value = .infinity true ∨
    value.isFinite = true ∧ (Binary.ofFloat value).number < 0

/-- A double is a number, but no integer. -/
def IsFractional (value : Float) : Prop :=
  value.isFinite = true ∧ ∀ n : ℤ, (Binary.ofFloat value).number ≠ n

/-- A double is an odd integer. -/
def IsOddInteger (value : Float) : Prop :=
  value.isFinite = true ∧ ∃ n : ℤ, Odd n ∧ (Binary.ofFloat value).number = n

/-- A power of doubles is not real: the base is a number below zero, and the exponent one that is
no integer. -/
def IsUnreal (base exponent : Float) : Prop :=
  base.isFinite = true ∧ IsBelowZero base ∧ IsFractional exponent

/-- A double is infinite: the negative infinity just where the base has its sign bit set and the
exponent is an odd integer. -/
def IsSignedInfinity (base exponent value : Float) : Prop :=
  ∃ negative, Binary.ofFloat value = .infinity negative ∧
    (negative = true ↔ (Binary.ofFloat base).isNegative = true ∧ IsOddInteger exponent)

section Operands

variable {value base exponent : Float}

/-- No infinity is finite. -/
theorem not_isFinite_of_infinity {negative : Bool}
    (infinite : Binary.ofFloat value = .infinity negative) : value.isFinite ≠ true := by
  intro finite
  obtain ⟨_, _, _, taken⟩ := isFinite_iff.mp finite
  rw [taken] at infinite
  cases infinite

/-- A double below zero is no zero. -/
theorem IsBelowZero.not_isZero (below : IsBelowZero value) : ¬ IsZero value := by
  rintro ⟨finite, zero⟩
  rcases below with infinite | ⟨-, negative⟩
  · exact not_isFinite_of_infinity infinite finite
  · exact negative.ne zero

/-- A power is not real just where the library has no value for it. -/
theorem hasNoRealPower_iff : hasNoRealPower base exponent = true ↔ IsUnreal base exponent := by
  -- A finite exponent that is taken for no integer has a fraction.
  have fractional (finite : exponent.isFinite = true) :
      (Binary.ofFloat exponent).toInt?.isNone = true ↔ IsFractional exponent := by
    rw [← Bool.not_eq_false, Option.isNone_eq_false_iff, toInt?_isSome_iff finite, not_exists]
    exact (and_iff_right finite).symm
  simp only [hasNoRealPower, Bool.and_eq_true, decide_eq_true_iff, lt_zero_iff]
  constructor
  · rintro ⟨⟨⟨baseFinite, finite⟩, below⟩, none⟩
    exact ⟨baseFinite, below, (fractional finite).mp none⟩
  · rintro ⟨baseFinite, below, broken⟩
    exact ⟨⟨⟨baseFinite, broken.1⟩, below⟩, (fractional broken.1).mpr broken⟩

/-- A finite double is asked for its parity without a fault. -/
theorem isOddInteger_eq (finite : value.isFinite = true) :
    ∃ odd, isOddInteger value = .ok odd ∧ (odd = true ↔ IsOddInteger value) := by
  obtain ⟨negative, mantissa, exponent, taken⟩ := isFinite_iff.mp finite
  refine ⟨(Binary.ofFloat value).toInt?.any (· % 2 == 1), by rw [isOddInteger, taken], ?_⟩
  -- The integer that the double is taken for is the only one that its number is.
  rw [Option.any_eq_true, IsOddInteger, and_iff_right finite, taken]
  refine exists_congr fun n => ?_
  rw [Binary.toInt?_eq_some_iff, beq_iff_eq, Int.odd_iff, and_comm]

/-- The infinity of a power is found for each finite exponent. -/
theorem signedInfinity_spec (base : Float) (finite : exponent.isFinite = true) :
    ∃ value, signedInfinity base exponent = .ok value ∧
      IsSignedInfinity base exponent value := by
  -- The infinity is negative where an odd power of a negative base is.
  obtain ⟨odd, asked, isOdd⟩ := isOddInteger_eq finite
  refine ⟨_, by rw [signedInfinity, asked]; rfl, ?_⟩
  rw [IsSignedInfinity, ← isOdd, and_comm, ← Bool.and_eq_true]
  cases odd && (Binary.ofFloat base).isNegative with
  | true => exact ⟨true, by decide +kernel, Iff.rfl⟩
  | false => exact ⟨false, by decide +kernel, Iff.rfl⟩

end Operands

/-- What the library gives as the power of two doubles: the faults that it documents, and
otherwise a value. -/
inductive LibraryPower (base exponent : Float) : Except PowerFault Float → Prop
  /-- There is no real power. -/
  | unreal (unreal : IsUnreal base exponent) : LibraryPower base exponent (.error .domain)
  /-- A zero cannot be raised to a negative number. -/
  | zero (zero : IsZero base) (below : IsBelowZero exponent) (finite : exponent.isFinite = true) :
    LibraryPower base exponent (.error .domain)
  /-- A zero can be raised to the negative infinity. -/
  | infinite (zero : IsZero base) (infinite : Binary.ofFloat exponent = .infinity true) :
    LibraryPower base exponent (.ok infinity)
  /-- The power of two numbers is too large. -/
  | overflow (other : ¬ (IsZero base ∧ IsBelowZero exponent)) (real : ¬ IsUnreal base exponent)
    (finiteBase : base.isFinite = true) (finite : exponent.isFinite = true)
    (infinite : (base.pow exponent).isFinite = false) :
    LibraryPower base exponent (.error .overflow)
  /-- The power has a value. -/
  | value (other : ¬ (IsZero base ∧ IsBelowZero exponent)) (real : ¬ IsUnreal base exponent) :
    LibraryPower base exponent (.ok (base.pow exponent))

/-- The library gives a value wherever it documents no fault. -/
theorem libraryPower_spec (base exponent : Float) :
    LibraryPower base exponent (libraryPower base exponent) := by
  have zeroBase : (base == 0 && exponent < 0) = true ↔ IsZero base ∧ IsBelowZero exponent := by
    rw [Bool.and_eq_true, decide_eq_true_iff, beq_zero_iff, lt_zero_iff]
    rfl
  by_cases unreal : IsUnreal base exponent
  · rw [libraryPower, if_pos (hasNoRealPower_iff.mpr unreal)]
    exact .unreal unreal
  rw [libraryPower, if_neg (mt hasNoRealPower_iff.mp unreal)]
  by_cases zero : IsZero base ∧ IsBelowZero exponent
  · rw [if_pos (zeroBase.mpr zero)]
    obtain ⟨zero, below⟩ := zero
    split
    · rename_i finite
      exact .zero zero below finite
    · rename_i infinite
      exact .infinite zero (below.resolve_right fun negative => infinite negative.1)
  rw [if_neg (mt zeroBase.mp zero)]
  -- For other operands it is the power itself that decides.
  simp only
  split
  · rename_i large
    simp only [Bool.and_eq_true, Bool.not_eq_true'] at large
    exact .overflow zero unreal large.1.1 large.1.2 large.2
  · exact .value zero unreal

/-- A double is the power of two others. -/
structure IsPower (base exponent value : Float) : Prop where
  /-- It is what the library gives. -/
  given : ∀ result, libraryPower base exponent = .ok result → value = result
  /-- It is infinite where it is too large or a zero has a negative exponent. -/
  infinite : libraryPower base exponent = .error .overflow ∨
    (IsZero base ∧ IsBelowZero exponent) → IsSignedInfinity base exponent value
  /-- It is no number where it is not real. -/
  unreal : IsUnreal base exponent → Binary.ofFloat value = .nan

/-- The faults of the library are recovered from without another fault. -/
theorem recoveredPower_spec (base exponent : Float) :
    ∃ value, recoveredPower base exponent = .ok value ∧ IsPower base exponent value := by
  have cases := libraryPower_spec base exponent
  generalize given : libraryPower base exponent = result at cases
  cases cases with
  | unreal unreal =>
    -- The base is below zero, so it is not taken for a zero.
    have other : ¬ IsZero base := unreal.2.1.not_isZero
    refine ⟨notANumber, ?_, fun value same => ?_, ?_, fun _ => by decide +kernel⟩
    · rw [recoveredPower, given]
      exact if_neg (mt beq_zero_iff.mp other)
    · cases given.symm.trans same
    · rintro (overflow | ⟨zero, -⟩)
      · cases given.symm.trans overflow
      · exact absurd zero other
  | zero zero below finite =>
    -- An exponent that the library refuses is finite, and so has a parity.
    obtain ⟨value, found, signed⟩ := signedInfinity_spec base finite
    refine ⟨value, ?_, fun value same => ?_, fun _ => signed, fun unreal => ?_⟩
    · rw [recoveredPower, given]
      exact (if_pos (beq_zero_iff.mpr zero)).trans found
    · cases given.symm.trans same
    · exact absurd zero unreal.2.1.not_isZero
  | infinite zero infinite =>
    -- The negative infinity is no odd integer, and the positive infinity is what is due.
    have even : ¬ IsOddInteger exponent := fun odd => not_isFinite_of_infinity infinite odd.1
    have signed : IsSignedInfinity base exponent infinity :=
      ⟨false, by decide +kernel, iff_of_false Bool.false_ne_true fun due => even due.2⟩
    refine ⟨infinity, by rw [recoveredPower, given], fun value same => ?_, fun _ => signed,
      fun unreal => absurd zero unreal.2.1.not_isZero⟩
    exact Except.ok.inj (given.symm.trans same)
  | overflow other real finiteBase finite infinite =>
    -- Only finite operands overflow, so here too the exponent has a parity.
    obtain ⟨value, found, signed⟩ := signedInfinity_spec base finite
    refine ⟨value, ?_, fun value same => ?_, fun _ => signed, fun unreal => absurd unreal real⟩
    · rw [recoveredPower, given]
      exact found
    · cases given.symm.trans same
  | value other real =>
    refine ⟨base.pow exponent, by rw [recoveredPower, given], fun value same => ?_, ?_,
      fun unreal => absurd unreal real⟩
    · exact Except.ok.inj (given.symm.trans same)
    · rintro (overflow | zero)
      · cases given.symm.trans overflow
      · exact absurd zero other

/-- Every two doubles have a power, and no double is asked for a parity that it has not. -/
theorem power_isPower (base exponent : Float) :
    recoveredPower base exponent = .ok (power base exponent) ∧
      IsPower base exponent (power base exponent) := by
  obtain ⟨value, recovered, isPower⟩ := recoveredPower_spec base exponent
  have same : power base exponent = value := by rw [power, recovered]
  rw [same]
  exact ⟨recovered, isPower⟩

-- Only the negative zero has a negative infinity as its power, and only for an odd exponent.
example : Binary.ofFloat (power (-0.0) (-3)) = .infinity true ∧
    Binary.ofFloat (power (-0.0) (-2)) = .infinity false ∧
    Binary.ofFloat (power 0 (-3)) = .infinity false := by
  decide +kernel

end DeskCalc.Expression
