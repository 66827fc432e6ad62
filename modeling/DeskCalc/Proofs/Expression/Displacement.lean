import DeskCalc.Proofs.Expression.Failing
import Mathlib.Data.Option.Basic

/-! Displacement: reading depends on what is left and not on what came before. Readings that go on
from the same characters at different positions come to the same value, or to the same failure
displaced by the difference of the positions. -/

namespace DeskCalc

/-- The failure of an expression with so many characters more in front;
only faults know a position. -/
def Failure.displaced (count : Nat) : Failure → Failure
  | fault found => fault { found with position := found.position.map (· + count) }
  | other => other

/-- In front of nothing more a failure stays where it is. -/
theorem Failure.displaced_zero (failure : Failure) : failure.displaced 0 = failure := by
  cases failure with
  | fault found =>
    cases found with
    | mk cause position equation => cases position <;> simp [displaced]
  | angleWithoutValue | nestedTooDeeply => rfl

namespace Expression

variable {count : Nat}

/-- The second scanner stands so many characters behind the first one, with the same characters
left; none of the two texts is empty unless both are. -/
structure Scanner.IsDisplaced (count : Nat) (first second : Scanner) : Prop where
  position : second.position = first.position + count
  rest : second.rest = first.rest
  text : second.text.isEmpty = first.text.isEmpty

namespace Scanner.IsDisplaced

variable {first second : Scanner}

theorem char?_eq (displaced : IsDisplaced count first second) : second.char? = first.char? :=
  congrArg List.head? displaced.rest

theorem advance (displaced : IsDisplaced count first second) :
    IsDisplaced count first.advance second.advance where
  position := by
    simp only [Scanner.advance, displaced.position]
    omega
  rest := congrArg List.tail displaced.rest
  text := displaced.text

theorem run_eq (displaced : IsDisplaced count first second) (inClass : Char → Bool) :
    second.run inClass = first.run inClass :=
  congrArg (List.takeWhile inClass) displaced.rest

theorem skipRun (displaced : IsDisplaced count first second) (inClass : Char → Bool) :
    IsDisplaced count (first.skipRun inClass) (second.skipRun inClass) where
  position := by
    simp only [Scanner.skipRun, displaced.run_eq, displaced.position]
    omega
  rest := congrArg (List.dropWhile inClass) displaced.rest
  text := displaced.text

end Scanner.IsDisplaced

/-- The second reading comes to the outcome of the first one, but for the position of its fault,
and leaves as many characters. -/
structure Reading.IsDisplaced (count : Nat) (first second : Reading) : Prop where
  outcome : second.outcome = first.outcome.mapError (·.displaced count)
  scanner : first.scanner.IsDisplaced count second.scanner

namespace Reading.IsDisplaced

theorem value {first second : Scanner} (displaced : first.IsDisplaced count second)
    (found : Float) : IsDisplaced count (.value found first) (.value found second) :=
  ⟨rfl, displaced⟩

/-- A fault is displaced with its position. -/
theorem fault {first second : Scanner} (displaced : first.IsDisplaced count second)
    (cause : Cause) {position other : Nat} (behind : other = position + count) :
    IsDisplaced count (.fault cause position first) (.fault cause other second) := by
  refine ⟨?_, displaced⟩
  simp [Reading.fault, Reading.failure, Except.mapError, Failure.displaced, behind]

/-- An outcome that is displaced is handed on with the scanner behind it. -/
theorem ofOutcome {first second : Scanner} (displaced : first.IsDisplaced count second)
    {outcome other : Except Failure Float} (same : other = outcome.mapError (·.displaced count)) :
    IsDisplaced count ⟨outcome, first⟩ ⟨other, second⟩ :=
  ⟨same, displaced⟩

/-- Readings one after the other are displaced when each of them is. -/
theorem andThen {first second : Reading} {next other : Float → Scanner → Reading}
    (displaced : IsDisplaced count first second)
    (goes : ∀ found before behind, before.IsDisplaced count behind →
      IsDisplaced count (next found before) (other found behind)) :
    IsDisplaced count (first.andThen next) (second.andThen other) := by
  obtain ⟨outcome, scanner⟩ := displaced
  cases first with
  | mk firstOutcome firstScanner =>
    cases second with
    | mk secondOutcome secondScanner =>
      -- Both readings fail or both come to the same value.
      simp only at outcome
      subst outcome
      cases firstOutcome with
      | ok found => exact goes found firstScanner secondScanner scanner
      | error failure => exact ⟨rfl, scanner⟩

end Reading.IsDisplaced

/-- An operation fails at the position of its right operand, or at none. -/
def Operation.IsDisplaceable (operation : Operation) : Prop :=
  ∀ left right position count,
    operation left right (position + count) =
      (operation left right position).mapError (·.displaced count)

/-- A division by zero is found at the divisor. -/
theorem isDisplaceable_divide : Operation.IsDisplaceable divide := by
  intro left right position count
  unfold divide
  split
  · simp [Except.mapError, Failure.displaced]
  · rfl

/-- All operations of a rule that joins operands are displaceable. -/
theorem Rule.isDisplaceable_of_operation? {rule : Rule} {c : Char} {operation : Operation}
    (known : rule.operation? c = some operation) : operation.IsDisplaceable := by
  obtain ⟨operator, -, -, rfl⟩ := Rule.operation?_eq_some_iff.mp known
  -- Only division can fail.
  cases operator with
  | slash => exact isDisplaceable_divide
  | _ => exact fun _ _ _ _ => rfl

/-- A function fails at the position of its name, or at none. -/
theorem NamedFunction.apply_displaced (function : NamedFunction) (argument : Float)
    (position count : Nat) : function.apply argument (some ((position + count : Nat) : Int)) =
      (function.apply argument (some (position : Int))).mapError (·.displaced count) := by
  -- An angle fails at no position.
  have angle (apply : Float → Float) :
      ofAngle apply argument = (ofAngle apply argument).mapError (·.displaced count) := by
    simp only [ofAngle]
    split <;> rfl
  -- A root and a logarithm fail at the position that they are told.
  have root : squareRoot argument (some ((position + count : Nat) : Int)) =
      (squareRoot argument (some (position : Int))).mapError (·.displaced count) := by
    unfold squareRoot
    split
    · simp [Except.mapError, Failure.displaced]
    · rfl
  have log (apply : Float → Float) (outside : Cause) :
      logarithm apply outside argument (some ((position + count : Nat) : Int)) =
        (logarithm apply outside argument (some (position : Int))).mapError
          (·.displaced count) := by
    unfold logarithm
    split
    · simp [Except.mapError, Failure.displaced]
    · rfl
  -- Each function is one of these three.
  cases function with
  | sin => exact angle Float.sin
  | cos => exact angle Float.cos
  | tan => exact angle Float.tan
  | sqrt => exact root
  | log => exact log Float.log10 .nonPositiveLog
  | ln => exact log Float.log .nonPositiveNaturalLog

section Parts

variable {first second : Scanner}

/-- A run that is no numeral is a fault where it starts. -/
theorem readNumber_displaced (displaced : first.IsDisplaced count second) :
    (readNumber first).IsDisplaced count (readNumber second) := by
  -- The same characters make a numeral here and there.
  simp only [readNumber, displaced.run_eq]
  split
  · exact .value (displaced.skipRun _) _
  · exact .fault (displaced.skipRun _) _ displaced.position

/-- A name that is unknown is a fault where it starts, and so is an argument outside the domain. -/
theorem readFunction_displaced {argument : Scanner → Reading}
    (arguments : ∀ before behind : Scanner, before.IsDisplaced count behind →
      (argument before).IsDisplaced count (argument behind))
    (displaced : first.IsDisplaced count second) :
    (readFunction argument first).IsDisplaced count (readFunction argument second) := by
  -- The names are the same, and so are the arguments behind them.
  simp only [readFunction, displaced.run_eq]
  split
  · exact .fault (displaced.skipRun _) _ displaced.position
  · rename_i function _
    refine .andThen (arguments _ _ (displaced.skipRun _)) fun found before behind reached => ?_
    have applied := function.apply_displaced found first.position count
    rw [displaced.position, applied]
    cases function.apply found (some (first.position : Int)) with
    | ok result => exact .value reached result
    | error failure => exact .ofOutcome reached rfl

/-- A base that is missing is a fault where it should stand. -/
theorem noBase_displaced (displaced : first.IsDisplaced count second) :
    (noBase first).IsDisplaced count (noBase second) := by
  simp only [noBase, displaced.text, displaced.char?_eq]
  split
  · exact .fault displaced _ displaced.position
  · exact .fault displaced _ displaced.position

/-- A remark about a power changes neither its value nor its place. -/
theorem raise_displaced (displaced : first.IsDisplaced count second) (base exponent : Float)
    (position other : Nat) :
    (raise base exponent position first).IsDisplaced count (raise base exponent other second) := by
  -- Only the place of the remark is another one.
  unfold raise
  split
  · exact ⟨rfl, displaced.position, displaced.rest, displaced.text⟩
  · exact .value displaced _

end Parts

/-- A rule is displaced with the scanner that it is read at. -/
def Rule.IsDisplaced (count depth : Nat) (rule : Rule) : Prop :=
  ∀ first second : Scanner, first.IsDisplaced count second →
    (Expression.read depth rule first).IsDisplaced count (Expression.read depth rule second)

section Rules

variable {depth : Nat} {first second : Scanner}

/-- A chain of operands is displaced when the operands are. -/
theorem chain_displaced {rule operand : Rule} (operands : operand.IsDisplaced count depth)
    (limit : Nat) : ∀ (value : Float) {first second : Scanner}, first.IsDisplaced count second →
      (chain (read depth operand) rule.operation? limit value first).IsDisplaced count
        (chain (read depth operand) rule.operation? limit value second) := by
  -- The limit counts the operands that are still read.
  induction limit with
  | zero => exact fun value _ _ displaced => .value displaced value
  | succ limit ih =>
    intro value first second displaced
    rw [chain, chain, displaced.char?_eq]
    split
    · exact .value displaced value
    · rename_i operation known
      obtain ⟨c, -, known⟩ := Option.bind_eq_some_iff.mp known
      refine .andThen (operands _ _ displaced.advance) fun right before behind reached => ?_
      have applied :=
        Rule.isDisplaceable_of_operation? known value right first.advance.position count
      rw [displaced.advance.position, applied]
      cases operation value right first.advance.position with
      | ok combined => exact ih combined reached
      | error failure => exact .ofOutcome reached rfl

/-- A rule that joins operands is displaced when its first operand is, and the others would be. -/
theorem read_joined_displaced (rule : Rule) {operand : Rule} (joins : rule.operand? = some operand)
    (operands : operand.IsDisplaced count depth)
    (start : (read depth operand first).IsDisplaced count (read depth operand second)) :
    (read (depth + 1) rule first).IsDisplaced count (read (depth + 1) rule second) := by
  rw [read_joined joins, read_joined joins]
  refine .andThen start fun value before behind reached => ?_
  -- The same characters are left, so the chains have the same limit.
  simp only [Rule.goOn, joins, reached.rest]
  exact chain_displaced operands _ value reached

/-- A power is displaced when its base is, and an exponent would be. -/
theorem read_power_displaced (factors : Rule.factor.IsDisplaced count depth)
    (start : (read depth .base first).IsDisplaced count (read depth .base second)) :
    (read (depth + 1) .power first).IsDisplaced count (read (depth + 1) .power second) := by
  -- Behind the bases there is an exponent for both or for none.
  rw [read, read]
  refine .andThen start fun base before behind reached => ?_
  rw [reached.char?_eq]
  split
  · refine .andThen (factors _ _ reached.advance) fun exponent last final stopped => ?_
    exact raise_displaced stopped base exponent _ _
  · exact .value reached base

/-- Without signs in front of them factors are displaced when their powers are. -/
theorem read_factor_displaced_of_power {c other : Char} (here : first.char? = some c)
    (there : second.char? = some other) (unsigned : c ≠ '+' ∧ c ≠ '-')
    (otherUnsigned : other ≠ '+' ∧ other ≠ '-')
    (start : (read depth .power first).IsDisplaced count (read depth .power second)) :
    (read (depth + 1) .factor first).IsDisplaced count (read (depth + 1) .factor second) := by
  -- A factor without a sign is its power.
  have bare {scanner : Scanner} {c : Char} (here : scanner.char? = some c)
      (unsigned : c ≠ '+' ∧ c ≠ '-') :
      read (depth + 1) .factor scanner = read depth .power scanner := by
    rw [read, here]
    split
    · exact absurd (Option.some.inj ‹_›) unsigned.1
    · exact absurd (Option.some.inj ‹_›) unsigned.2
    · rfl
  rwa [bare here unsigned, bare there otherUnsigned]

/-- A factor is displaced when the factor behind a sign is, and the power without one. -/
theorem read_factor_displaced (factors : Rule.factor.IsDisplaced count depth)
    (powers : Rule.power.IsDisplaced count depth) : Rule.factor.IsDisplaced count (depth + 1) := by
  intro first second displaced
  rw [read, read, displaced.char?_eq]
  -- A plus changes nothing, and a minus only the value.
  split
  · exact factors _ _ displaced.advance
  · exact .andThen (factors _ _ displaced.advance) fun found _ _ reached => .value reached (-found)
  · exact powers _ _ displaced

/-- A base is displaced when the expression in a group is, and the argument of a function. -/
theorem read_base_displaced (expressions : Rule.expression.IsDisplaced count depth)
    (factors : Rule.factor.IsDisplaced count depth) : Rule.base.IsDisplaced count (depth + 1) := by
  intro first second displaced
  rw [read, read, displaced.char?_eq]
  -- The first character decides between a group, a numeral, a function and none of them.
  split
  · exact noBase_displaced displaced
  · split
    · refine .andThen (expressions _ _ displaced.advance) fun value before behind reached => ?_
      rw [reached.char?_eq]
      split
      · exact .value reached.advance value
      · exact .fault reached _ reached.position
    · split
      · exact readNumber_displaced displaced
      · split
        · exact readFunction_displaced factors displaced
        · exact noBase_displaced displaced

/-- Every rule is displaced with its scanner. -/
theorem isDisplaced_read (count depth : Nat) : ∀ rule : Rule, rule.IsDisplaced count depth := by
  -- Each rule reads the rules that are open inside it, at scanners that are displaced alike.
  induction depth with
  | zero => exact fun _ _ _ displaced => .ofOutcome displaced rfl
  | succ depth ih =>
    intro rule
    cases rule with
    | expression => exact fun first second displaced =>
        read_joined_displaced .expression rfl (ih .term) (ih .term first second displaced)
    | term => exact fun first second displaced =>
        read_joined_displaced .term rfl (ih .factor) (ih .factor first second displaced)
    | factor => exact read_factor_displaced (ih .factor) (ih .power)
    | power => exact fun first second displaced =>
        read_power_displaced (ih .factor) (ih .base first second displaced)
    | base => exact read_base_displaced (ih .expression) (ih .factor)

/-- Expressions that begin with displaced bases are displaced from there on,
whatever comes behind. -/
theorem readAll_displaced {c other : Char} (here : first.char? = some c)
    (there : second.char? = some other) (unsigned : c ≠ '+' ∧ c ≠ '-')
    (otherUnsigned : other ≠ '+' ∧ other ≠ '-')
    (start : (read (maxDepth - 4) .base first).IsDisplaced count
      (read (maxDepth - 4) .base second)) :
    (readAll first).IsDisplaced count (readAll second) := by
  -- Above the bases a power, a factor and a term are open inside the expression.
  have powers := read_power_displaced (isDisplaced_read count _ .factor) start
  have factors := read_factor_displaced_of_power here there unsigned otherUnsigned powers
  have terms := read_joined_displaced .term rfl (isDisplaced_read count _ .factor) factors
  have expressions :=
    read_joined_displaced .expression rfl (isDisplaced_read count _ .term) terms
  refine .andThen expressions fun value before behind reached => ?_
  rw [reached.char?_eq]
  split
  · exact .value reached value
  · exact .fault reached _ reached.position

end Rules

end Expression

end DeskCalc
