import DeskCalc.Proofs.Expression.Completeness
import DeskCalc.Proofs.Expression.Opening

/-! Soundness: what a rule reads to a value has a tree that the grammar derives,
and what it reads to a failure leads to a rule that fails by itself. -/

namespace DeskCalc.Expression

open DeskCalc.Number

/-- Readings are accounted for: a value by a tree, a failure by a rule that fails by itself. -/
structure Accounted (opening : Opening) (reading : Reading) : Prop where
  yields : ∀ found, reading.outcome = .ok found →
    ∃ tree, opening.Yields tree found reading.scanner.place
  fails : ∀ failure, reading.outcome = .error failure →
    ∃ inner, opening.LeadsTo inner ∧ inner.Fails failure

namespace Accounted

/-- A value is accounted for by its tree. -/
theorem value {opening : Opening} {tree : Tree} {found : Float}
    {scanner : Scanner} (yields : opening.Yields tree found scanner.place) :
    Accounted opening (.value found scanner) where
  yields := by
    -- A value is no failure, so the second account is empty.
    rintro _ ⟨⟩
    exact ⟨tree, yields⟩
  fails := by rintro _ ⟨⟩

/-- A failure is accounted for by the rule that fails. -/
theorem failure {opening : Opening} {failure : Failure} {scanner : Scanner}
    (fails : opening.Fails failure) :
    Accounted opening (.failure failure scanner) where
  yields := by rintro _ ⟨⟩
  fails := by
    rintro _ ⟨⟩
    exact ⟨opening, .refl, fails⟩

/-- What a rule reads through a rule that it enters is accounted for
when what it does with each value is. -/
theorem andThen {opening inner : Opening} {reading : Reading}
    {next : Float → Scanner → Reading} (enters : opening.Enters inner)
    (part : Accounted inner reading)
    (goes : ∀ tree found after, inner.Yields tree found after.place →
      Accounted opening (next found after)) :
    Accounted opening (reading.andThen next) := by
  -- A failure is that of the inner rule; a value is what the rule goes on with.
  obtain ⟨yields, fails⟩ := part
  cases reading with
  | mk outcome scanner =>
    cases outcome with
    | ok found =>
      obtain ⟨tree, yields⟩ := yields found rfl
      exact goes tree found scanner yields
    | error failure =>
      refine ⟨by rintro _ ⟨⟩, ?_⟩
      rintro _ ⟨⟩
      obtain ⟨last, leads, fails⟩ := fails failure rfl
      exact ⟨last, .head enters leads, fails⟩

end Accounted

/-- A place that ends the operands of a rule ends the rule when no operator of it follows. -/
theorem Place.Ends.joined {place : Place} {whole operand : Rule} (ends : place.Ends operand)
    (joins : whole.operand? = some operand) (unknown : place.char?.bind whole.operation? = none) :
    place.Ends whole := by
  intro c here
  have stops := ends c here
  have unknown : whole.operation? c = none := by
    rw [here] at unknown
    exact unknown
  -- No sign of the rule is the character, and its other characters are those of the operands.
  have differs (operator : Operator) (rule : operator.rule = whole) : c ≠ operator.sign := by
    intro same
    subst same
    rw [Rule.operation?_eq_some_iff.mpr ⟨operator, rule, rfl, rfl⟩] at unknown
    exact absurd unknown (by simp)
  cases whole with
  -- Both rules are looked at, because their own signs are what has to be excluded.
  | expression =>
    obtain rfl : Rule.term = operand := Option.some.inj joins
    have plus : c ≠ '+' := differs .plus rfl
    have minus : c ≠ '-' := differs .minus rfl
    simpa [Rule.goesOn, plus, minus] using stops
  | term =>
    obtain rfl : Rule.factor = operand := Option.some.inj joins
    have times : c ≠ '*' := differs .times rfl
    have slash : c ≠ '/' := differs .slash rfl
    simpa [Rule.goesOn, times, slash] using stops
  | _ => simp [Rule.operand?] at joins

/-- No rule joins bases. -/
theorem Rule.operand?_ne_base {whole operand : Rule} (joins : whole.operand? = some operand) :
    operand ≠ .base := by
  -- Both rules that join operands have operands looser than bases.
  intro same
  subst same
  cases whole <;> simp [Rule.operand?] at joins

/-- A chain of operands is accounted for when the operands are. -/
theorem chain_accounted {whole operand : Rule}
    (joins : whole.operand? = some operand) {depth : Nat}
    (operands : ∀ scanner : Scanner,
      Accounted ⟨depth, operand, scanner.place⟩ (read depth operand scanner)) (limit : Nat) :
    ∀ {start : Place} {left : Tree} {value : Float} {scanner : Scanner},
      Opening.Spans ⟨depth + 1, whole, start⟩ left value scanner.place →
      scanner.place.Ends operand → scanner.rest.length ≤ limit →
      Accounted ⟨depth + 1, whole, start⟩
        (chain (read depth operand) whole.operation? limit value scanner) := by
  -- The limit counts the characters that are left, and each operator takes one of them.
  induction limit with
  | zero =>
    intro start left value scanner spans ends short
    -- Without characters there is no operator.
    have done : scanner.place.char? = none := by
      simp [Scanner.char?, List.length_eq_zero_iff.mp (Nat.le_zero.mp short)]
    exact .value ⟨spans, fun _ => ends.joined joins (by rw [done]; rfl)⟩
  | succ limit ih =>
    intro start left value scanner spans ends short
    rw [chain]
    split
    · rename_i unknown
      exact .value ⟨spans, fun _ => ends.joined joins unknown⟩
    · rename_i operation known
      -- The operator, the operand behind it and what was read before are the next left part.
      obtain ⟨c, here, known⟩ := Option.bind_eq_some_iff.mp known
      obtain ⟨operator, rfl, rfl, rfl⟩ := Rule.operation?_eq_some_iff.mp known
      refine .andThen (.next joins spans here) (operands scanner.advance) ?_
      intro tree right after yields
      split
      · rename_i combined applied
        have less := Place.length_advance (show scanner.place.char? = some _ from here)
        have fewer := yields.derived.length_lt
        refine ih ⟨.join joins spans.derived here yields.derived, ⟨spans.takes, yields.takes⟩,
          ?_, ?_⟩ (yields.ends (Rule.operand?_ne_base joins)) ?_
        · -- The value of the joined tree is that of the operation.
          simp only [Tree.value, spans.value_eq, yields.value_eq]
          exact applied
        · -- The room of the joined tree is that of its parts.
          have leftRoom := spans.room
          have rightRoom := yields.room
          have operand_eq : operator.operand = operand := by
            cases operator <;> exact Option.some.inj joins
          simp only [Tree.nesting, operand_eq] at leftRoom rightRoom ⊢
          omega
        · -- What is left has become less by the operator and the operand.
          simp only [Scanner.place, Place.advance] at less fewer
          omega
      · rename_i failure applied
        exact .failure (.operation joins spans here yields applied)

/-- A rule that joins operands is accounted for when its operands are. -/
theorem read_joined_accounted {whole operand : Rule}
    (joins : whole.operand? = some operand) {depth : Nat}
    (operands : ∀ scanner : Scanner,
      Accounted ⟨depth, operand, scanner.place⟩ (read depth operand scanner))
    (scanner : Scanner) :
    Accounted ⟨depth + 1, whole, scanner.place⟩ (read (depth + 1) whole scanner) := by
  rw [read_joined joins]
  refine .andThen (.first joins) (operands scanner) fun tree value after yields => ?_
  -- The joining rule is open around its first operand.
  have opened : tree.nesting whole = tree.nesting operand + 1 := by
    cases whole <;> simp only [Rule.operand?, Option.some.injEq, reduceCtorEq] at joins <;>
      subst joins <;> exact yields.derived.nesting_eq _ (by simp [Rule.rank])
  have room : tree.nesting whole ≤ depth + 1 := by
    have := yields.room
    simp only at this
    omega
  -- From the first operand on the chain has an account of its own.
  simp only [Rule.goOn, joins]
  exact chain_accounted joins operands _
    ⟨yields.derived.single joins, yields.takes, yields.value_eq, room⟩
    (yields.ends (Rule.operand?_ne_base joins)) (Nat.le_refl _)

/-- A run of numeral characters is a number or an invalid one. -/
theorem readNumber_accounted {scanner : Scanner} {c : Char}
    (here : scanner.place.char? = some c)
    (member : isNumeralChar c = true) (depth : Nat) :
    Accounted ⟨depth + 1, .base, scanner.place⟩ (readNumber scanner) := by
  simp only [readNumber, readNumeral?]
  cases split : splitNumeral? (scanner.run isNumeralChar) with
  | none =>
    -- If the run were a numeral, it would have been taken apart.
    refine .failure (.numeral here member fun whole fraction numeral => ?_)
    exact absurd (numeral.splitNumeral?_eq.symm.trans split) (by simp)
  | some parts =>
    -- The run is taken apart as the grammar says.
    obtain ⟨whole, fraction⟩ := parts
    refine .value ⟨⟨.number (Scanner.isNumeral_run split), trivial, rfl, ?_⟩, fun base => absurd rfl base⟩
    simp only [Tree.nesting, Rule.rank]
    omega

theorem Rule.factor_ne_base : Rule.factor ≠ .base := by
  decide

theorem Rule.power_ne_base : Rule.power ≠ .base := by
  decide

/-- A run of letters is a call, whose argument is entered, or an unknown name. -/
theorem readFunction_accounted {depth : Nat}
    (arguments : ∀ scanner : Scanner,
      Accounted ⟨depth, .factor, scanner.place⟩ (read depth .factor scanner))
    {scanner : Scanner} {c : Char}
    (here : scanner.place.char? = some c) (letter : Text.isLetter c = true) :
    Accounted ⟨depth + 1, .base, scanner.place⟩
      (readFunction (read depth .factor) scanner) := by
  simp only [readFunction]
  split
  · rename_i unknown
    -- A known name would have been found.
    refine .failure (.name here letter fun function named => ?_)
    exact absurd (unknown.symm.trans (NamedFunction.ofName?_run named)) (by simp)
  · rename_i function known
    have named : scanner.place.run Text.isLetter = function.name.toList := by
      rw [NamedFunction.ofName?_eq_some_iff.mp known, String.toList_ofList]
      rfl
    -- The name is that of a function, so its argument is entered.
    refine .andThen (.argument named) (arguments (scanner.skipRun Text.isLetter)) ?_
    intro argument value after yields
    split
    · rename_i result applied
      refine .value ⟨⟨.call named yields.derived,
        ⟨yields.takes, Place.ends_factor_iff.mp (yields.ends Rule.factor_ne_base)⟩, ?_, ?_⟩,
        fun base => absurd rfl base⟩
      · simp only [Tree.value, yields.value_eq]
        exact applied
      · have := yields.room
        simp only [Tree.nesting, Rule.rank] at this ⊢
        omega
    · rename_i failure applied
      exact .failure (.call named yields applied)

/-- Where no base starts, the fault says what is missing. -/
theorem noBase_eq (scanner : Scanner) :
    noBase scanner = .fault (Opening.missingBase scanner.place) scanner.position scanner := by
  -- The scanner and its place have the same text.
  unfold noBase Opening.missingBase
  split
  · rename_i empty
    rw [if_pos (show scanner.place.text.isEmpty = true from empty)]
  · rename_i occupied
    rw [if_neg (show ¬ scanner.place.text.isEmpty = true from occupied)]
    rfl

section Rules

variable {depth : Nat}

/-- A factor is accounted for when the factor behind a sign is, and the power without one. -/
theorem read_factor_accounted
    (factors : ∀ scanner : Scanner,
      Accounted ⟨depth, .factor, scanner.place⟩ (read depth .factor scanner))
    (powers : ∀ scanner : Scanner,
      Accounted ⟨depth, .power, scanner.place⟩ (read depth .power scanner)) (scanner : Scanner) :
    Accounted ⟨depth + 1, .factor, scanner.place⟩ (read (depth + 1) .factor scanner) := by
  rw [read]
  split
  · rename_i sign
    -- A plus sign hands the value on, so nothing is done behind the factor.
    rw [← Reading.andThen_value (read depth .factor scanner.advance)]
    refine .andThen (.signed sign (.inl rfl)) (factors scanner.advance) ?_
    intro tree value after yields
    obtain ⟨⟨derived, takes, value_eq, room⟩, ends⟩ := yields
    refine .value ⟨⟨.positive sign derived, takes, value_eq, ?_⟩, ends⟩
    simp only [Tree.nesting, Rule.rank] at room ⊢
    omega
  · rename_i sign
    -- A minus sign is applied to the value behind it.
    refine .andThen (.signed sign (.inr rfl)) (factors scanner.advance) ?_
    intro tree value after yields
    obtain ⟨⟨derived, takes, value_eq, room⟩, ends⟩ := yields
    refine .value ⟨⟨.negative sign derived, takes, ?_, ?_⟩, ends⟩
    · simp only [Tree.value, value_eq]
      rfl
    · simp only [Tree.nesting, Rule.rank] at room ⊢
      omega
  · rename_i noPlus noMinus
    -- Without a sign the factor is the power.
    rw [← Reading.andThen_value (read depth .power scanner)]
    refine .andThen (.unsigned noPlus noMinus) (powers scanner) ?_
    intro tree value after yields
    obtain ⟨⟨derived, takes, value_eq, room⟩, ends⟩ := yields
    refine .value ⟨⟨.power derived, takes, value_eq, ?_⟩, fun _ => ends Rule.power_ne_base⟩
    rw [derived.nesting_eq .factor (by simp [Rule.rank])]
    simp only [Rule.rank] at room ⊢
    omega

/-- A power is accounted for when its base is, and the exponent behind the sign. -/
theorem read_power_accounted
    (bases : ∀ scanner : Scanner,
      Accounted ⟨depth, .base, scanner.place⟩ (read depth .base scanner))
    (factors : ∀ scanner : Scanner,
      Accounted ⟨depth, .factor, scanner.place⟩ (read depth .factor scanner)) (scanner : Scanner) :
    Accounted ⟨depth + 1, .power, scanner.place⟩ (read (depth + 1) .power scanner) := by
  rw [read]
  refine .andThen .base (bases scanner) ?_
  intro base value after yields
  obtain ⟨spans, -⟩ := yields
  have room := spans.room
  -- The base may be followed by an exponent.
  split
  · rename_i sign
    have sign : after.place.char? = some '^' := by simpa using sign
    refine .andThen (.exponent spans sign) (factors after.advance) ?_
    intro exponent power last yields
    have exponentRoom := yields.room
    have whole : Opening.Yields ⟨depth + 1, .power, scanner.place⟩ (.raised base exponent)
        (Expression.power value power) last.place := by
      refine ⟨⟨.raised spans.derived sign yields.derived, ⟨spans.takes, yields.takes⟩, ?_, ?_⟩,
        fun _ => yields.ends Rule.factor_ne_base⟩
      · simp only [Tree.value, spans.value_eq, yields.value_eq]
        rfl
      · simp only [Tree.nesting, Rule.rank] at room exponentRoom ⊢
        omega
    -- A remark leaves the scanner where it is.
    rw [raise]
    split
    · exact .value whole
    · exact .value whole
  · rename_i noPower
    -- Without an exponent the power ends where no exponent sign follows.
    refine .value ⟨⟨.base spans.derived, spans.takes, spans.value_eq, ?_⟩, fun _ => ?_⟩
    · rw [spans.derived.nesting_eq .power (by simp [Rule.rank])]
      simp only [Rule.rank] at room ⊢
      omega
    · exact Place.ends_factor_iff.mpr (by simpa using noPower)

/-- A group is accounted for when the expression inside it is. -/
theorem read_group_accounted
    (expressions : ∀ scanner : Scanner,
      Accounted ⟨depth, .expression, scanner.place⟩ (read depth .expression scanner))
    {scanner : Scanner} (opened : scanner.place.char? = some '(') :
    Accounted ⟨depth + 1, .base, scanner.place⟩ (read (depth + 1) .base scanner) := by
  rw [read_group opened]
  refine .andThen (.inside opened) (expressions scanner.advance) ?_
  intro inside value after yields
  -- Behind the inside either the group is closed or the parenthesis is missing.
  split
  · rename_i closed
    have room := yields.room
    have group : Derives .base scanner.place (.group inside) after.place.advance :=
      .group opened yields.derived (by simpa using closed)
    refine .value ⟨⟨group, yields.takes, yields.value_eq, ?_⟩, fun base => absurd rfl base⟩
    simp only [Tree.nesting, Rule.rank] at room ⊢
    omega
  · rename_i open_
    have unclosed : after.place.char? ≠ some ')' := by simpa using open_
    exact .failure (.parenthesis opened yields unclosed)

end Rules

/-- Every reading is accounted for. -/
theorem read_accounted (depth : Nat) : ∀ (rule : Rule) (scanner : Scanner),
    Accounted ⟨depth, rule, scanner.place⟩ (read depth rule scanner) := by
  -- Each rule puts the accounts of the rules that it enters together.
  induction depth with
  | zero => exact fun rule scanner => .failure .depth
  | succ depth ih =>
    intro rule scanner
    cases rule with
    | expression => exact read_joined_accounted rfl (ih .term) scanner
    | term => exact read_joined_accounted rfl (ih .factor) scanner
    | factor => exact read_factor_accounted (ih .factor) (ih .power) scanner
    | power => exact read_power_accounted (ih .base) (ih .factor) scanner
    | base =>
      -- The first character tells which of the bases is read.
      rcases scanner.place.base_cases with missing | here | ⟨c, here, member⟩ | ⟨c, here, letter⟩
      · rw [read_missing missing, noBase_eq]
        exact .failure (.missing missing)
      · exact read_group_accounted (ih .expression) here
      · rw [read_number here member]
        exact readNumber_accounted here member depth
      · rw [read_name here letter]
        exact readFunction_accounted (ih .factor) here letter

end DeskCalc.Expression
