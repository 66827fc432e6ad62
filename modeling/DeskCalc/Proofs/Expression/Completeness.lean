import DeskCalc.Proofs.Expression.Reading

/-! Completeness: a rule reads the tree that the grammar derives, and comes to its value. -/

namespace DeskCalc.Expression

open DeskCalc.Number

/-- A tree is derived by a looser rule through all the rules in between. -/
theorem Derives.nesting_eq {rule : Rule} {start stop : Place} {tree : Tree}
    (derived : Derives rule start tree stop) : ∀ outer : Rule, rule.rank ≤ outer.rank →
      tree.nesting outer = tree.nesting rule + (outer.rank - rule.rank) := by
  -- Only the rules that a tree passes through without a node of its own need the induction.
  have through {inner own : Rule} {tree : Tree} (next : own.rank = inner.rank + 1)
      (ih : ∀ outer : Rule, inner.rank ≤ outer.rank →
        tree.nesting outer = tree.nesting inner + (outer.rank - inner.rank)) :
      ∀ outer : Rule, own.rank ≤ outer.rank →
        tree.nesting outer = tree.nesting own + (outer.rank - own.rank) := by
    intro outer looser
    have all := ih outer (by omega)
    have one := ih own (by omega)
    omega
  induction derived with
  | term _ ih | factor _ ih | power _ ih | base _ ih => exact through rfl ih
  | sum rule _ _ _ _ _ | product rule _ _ _ _ _ =>
    intro outer looser
    simp only [Tree.nesting, rule, Rule.rank] at looser ⊢
    omega
  | _ =>
    intro outer looser
    simp only [Tree.nesting, Rule.rank] at looser ⊢
    omega

/-- A derived tree opens at least the rules from its own one down. -/
theorem Derives.rank_le_nesting {rule : Rule} {start stop : Place} {tree : Tree}
    (derived : Derives rule start tree stop) : rule.rank ≤ tree.nesting rule := by
  -- Through a rule without a node of its own one more rule is opened.
  induction derived with
  | term derived ih | factor derived ih | power derived ih | base derived ih =>
    rw [derived.nesting_eq]
    · simp only [Rule.rank] at ih ⊢
      omega
    · decide
  | sum rule _ _ _ ih _ | product rule _ _ _ ih _ =>
    simp only [Tree.nesting, rule] at ih ⊢
    omega
  | _ =>
    simp only [Tree.nesting, Rule.rank] at *
    omega

/-- From a start a rule reads a tree up to a stop, and goes on from there if it can. -/
def ReadsOn (rule : Rule) (start : Place) (tree : Tree) (stop : Place) : Prop :=
  ∀ (depth : Nat) (scanner : Scanner), tree.nesting rule ≤ depth + 1 → scanner.place = start →
    ∃ reading : Reading, reading.Gives tree.value stop ∧
      read (depth + 1) rule scanner = reading.andThen (rule.goOn depth)

/-- A rule that goes on no further comes to the value of the tree. -/
theorem ReadsOn.gives {rule : Rule} {start stop : Place} {tree : Tree}
    (reads : ReadsOn rule start tree stop) (ends : rule.operand? ≠ none → stop.Ends rule)
    (opens : rule.rank ≤ tree.nesting rule) {depth : Nat} (room : tree.nesting rule ≤ depth)
    {scanner : Scanner} (here : scanner.place = start) :
    (read depth rule scanner).Gives tree.value stop := by
  cases depth with
  -- No rule fits where none may be open.
  | zero => cases rule <;> simp only [Rule.rank] at opens <;> omega
  | succ depth =>
    -- Behind the tree there is nothing that the rule goes on with.
    obtain ⟨reading, gives, same⟩ := reads _ _ room here
    rw [same]
    refine gives.andThen_ok fun value after reached => ?_
    rw [goOn_ends depth (reached ▸ ends), ← reached]
    exact Reading.value_gives value after

/-- A single operand is read on by the rule that joins operands. -/
theorem ReadsOn.single {whole operand : Rule} {start stop : Place} {tree : Tree}
    (joins : whole.operand? = some operand) (derived : Derives operand start tree stop)
    (reads : ReadsOn operand start tree stop) (ends : stop.Ends operand) :
    ReadsOn whole start tree stop := by
  intro depth scanner room here
  -- The joining rule is open around the operand.
  have opened : tree.nesting whole = tree.nesting operand + 1 := by
    cases whole <;> simp only [Rule.operand?, Option.some.injEq, reduceCtorEq] at joins <;>
      subst joins <;> exact derived.nesting_eq _ (by decide)
  -- What the operand reads is what the joining rule goes on from.
  exact ⟨read depth operand scanner,
    reads.gives (fun _ => ends) derived.rank_le_nesting (by omega) here,
    read_joined joins depth scanner⟩

/-- Joined operands are read on when the operands before the last one are. -/
theorem ReadsOn.join {operator : Operator} {operand : Rule} {start middle stop : Place}
    {left right : Tree} (joins : operator.rule.operand? = some operand)
    (before : ReadsOn operator.rule start left middle)
    (sign : middle.char? = some operator.sign)
    (behind : ReadsOn operand middle.advance right stop) (ends : stop.Ends operand)
    (opens : operand.rank ≤ right.nesting operand) :
    ReadsOn operator.rule start (.binary operator left right middle.advance.position) stop := by
  intro depth scanner room here
  -- The left part is read by the joining rule, and the right operand by one that is open in it.
  have rooms : left.nesting operator.rule ≤ depth + 1 ∧ right.nesting operand ≤ depth := by
    have same : operator.operand = operand := by
      cases operator <;> exact Option.some.inj joins
    simp only [Tree.nesting, same] at room
    omega
  obtain ⟨reading, gives, reads⟩ := before _ _ rooms.1 here
  -- The left part, the right operand and the operation on both are one reading.
  refine ⟨reading.andThen fun value after => (read depth operand after.advance).andThen
    fun right last => ⟨operator.apply value right middle.advance.position, last⟩, ?_, ?_⟩
  · -- The outcomes of the three come one after the other, as in the tree.
    refine gives.andThen fun value after reached => ?_
    have rightGives := behind.gives (fun _ => ends) opens rooms.2 (reached ▸ after.place_advance)
    refine rightGives.andThen fun right last stopped => ?_
    exact ⟨rfl, fun _ _ => stopped⟩
  · -- Behind the left part the rule goes on with the operator.
    rw [reads, Reading.andThen_assoc]
    refine Reading.andThen_congr fun value after found => ?_
    have reached := gives.place_of_value found
    rw [goOn_operator joins depth (reached ▸ sign), Reading.andThen_assoc, reached]

section Signs

variable {start stop : Place} {tree : Tree}

/-- A plus sign is read on when the factor behind it is. -/
theorem ReadsOn.positive (sign : start.char? = some '+')
    (behind : ReadsOn .factor start.advance tree stop) (ends : stop.Ends .factor)
    (opens : Rule.factor.rank ≤ tree.nesting .factor) :
    ReadsOn .factor start (.positive tree) stop := by
  intro depth scanner room here
  subst here
  -- The sign is read by the factor, which opens another factor behind it.
  have fits : tree.nesting .factor ≤ depth := by
    simp only [Tree.nesting, Rule.rank] at room
    omega
  refine ⟨read depth .factor scanner.advance, behind.gives (fun _ => ends) opens fits rfl, ?_⟩
  rw [Scanner.place_char?] at sign
  simp only [read, sign]
  exact (Reading.andThen_value _).symm

/-- A minus sign is read on when the factor behind it is, and changes its sign. -/
theorem ReadsOn.negative (sign : start.char? = some '-')
    (behind : ReadsOn .factor start.advance tree stop) (ends : stop.Ends .factor)
    (opens : Rule.factor.rank ≤ tree.nesting .factor) :
    ReadsOn .factor start (.negative tree) stop := by
  intro depth scanner room here
  subst here
  -- The sign opens one rule, the rest of the limit is for the factor.
  have fits : tree.nesting .factor ≤ depth := by
    simp only [Tree.nesting, Rule.rank] at room
    omega
  have gives := behind.gives (fun _ => ends) opens fits scanner.place_advance
  refine ⟨(read depth .factor scanner.advance).andThen fun value after => .value (-value) after,
    gives.andThen fun value after reached => ⟨rfl, fun _ _ => reached⟩, ?_⟩
  rw [Scanner.place_char?] at sign
  simp only [read, sign]
  exact (Reading.andThen_value _).symm

/-- A factor without a sign is read on when the power is. -/
theorem ReadsOn.power (derived : Derives .power start tree stop)
    (reads : ReadsOn .power start tree stop) (ends : stop.Ends .power) :
    ReadsOn .factor start tree stop := by
  intro depth scanner room here
  subst here
  have fits : tree.nesting .power ≤ depth := by
    rw [derived.nesting_eq .factor (by decide)] at room
    simp only [Rule.rank] at room
    omega
  refine ⟨read depth .power scanner,
    reads.gives (fun _ => ends) derived.rank_le_nesting fits rfl, ?_⟩
  -- A power does not start with a sign, so the scanner does not find one.
  obtain ⟨c, first, noPlus, noMinus⟩ := derived.power_char?
  rw [read_unsigned (by simpa [first] using noPlus) (by simpa [first] using noMinus)]
  exact (Reading.andThen_value _).symm

end Signs

section Powers

variable {start middle stop : Place} {tree exponent : Tree}

/-- A power without an exponent is read on when its base is. -/
theorem ReadsOn.base (derived : Derives .base start tree stop)
    (reads : ReadsOn .base start tree stop) (ends : stop.Ends .power) :
    ReadsOn .power start tree stop := by
  intro depth scanner room here
  subst here
  have fits : tree.nesting .base ≤ depth := by
    rw [derived.nesting_eq .power (by decide)] at room
    simp only [Rule.rank] at room
    omega
  have gives := reads.gives (absurd rfl) derived.rank_le_nesting fits rfl
  refine ⟨read depth .base scanner, gives, ?_⟩
  rw [read]
  refine Reading.andThen_congr fun value after found => ?_
  -- The exponent sign would be one with which the power goes on.
  have noPower : after.char? ≠ some '^' := by
    rw [← Scanner.place_char?, gives.place_of_value found]
    intro here
    exact absurd (ends _ here) (by decide)
  simp [noPower, Rule.goOn, Rule.operand?]

/-- A power with an exponent is read on when both of its parts are. -/
theorem ReadsOn.raised (derived : Derives .base start tree middle)
    (reads : ReadsOn .base start tree middle) (sign : middle.char? = some '^')
    (behind : ReadsOn .factor middle.advance exponent stop) (ends : stop.Ends .factor)
    (opens : Rule.factor.rank ≤ exponent.nesting .factor) :
    ReadsOn .power start (.raised tree exponent) stop := by
  intro depth scanner room here
  subst here
  have rooms : tree.nesting .base ≤ depth ∧ exponent.nesting .factor ≤ depth := by
    simp only [Tree.nesting, Rule.rank] at room
    omega
  have gives := reads.gives (absurd rfl) derived.rank_le_nesting rooms.1 rfl
  refine ⟨(read depth .base scanner).andThen fun base after =>
    (read depth .factor after.advance).andThen fun exponent last =>
      Expression.raise base exponent after.position last, ?_, ?_⟩
  · refine gives.andThen fun base after reached => ?_
    have exponentGives := behind.gives (fun _ => ends) opens rooms.2
      (reached ▸ after.place_advance)
    -- A remark about the power changes neither its value nor its place.
    refine exponentGives.andThen fun exponent last stopped => ⟨rfl, fun _ _ => ?_⟩
    simp only [Expression.raise]
    split <;> exact stopped
  · rw [Reading.andThen_assoc, read]
    refine Reading.andThen_congr fun base after found => ?_
    have power : after.char? = some '^' := by
      rw [← Scanner.place_char?, gives.place_of_value found, sign]
    simp only [power, beq_self_eq_true, if_true]
    exact (Reading.andThen_value _).symm

end Powers

section Bases

variable {start last stop : Place}

/-- A numeral is read on: its run is taken apart as the grammar says. -/
theorem ReadsOn.number {whole fraction : List Char}
    (numeral : IsNumeral (start.run isNumeralChar) whole fraction) :
    ReadsOn .base start (.number whole fraction) (start.skipRun isNumeralChar) := by
  intro depth scanner room here
  subst here
  obtain ⟨c, first, member⟩ := numeral.char?
  have split : splitNumeral? (scanner.run isNumeralChar) = some (whole, fraction) :=
    numeral.splitNumeral?_eq
  refine ⟨readNumber scanner, ?_, ?_⟩
  · -- The run is a numeral, so reading it comes to its value.
    simp only [readNumber, readNumeral?, split, Option.map_some]
    exact Reading.value_gives _ _
  · rw [read_number first member]
    exact (Reading.andThen_value _).symm

/-- A group is read on when the expression inside it is. -/
theorem ReadsOn.group {inside : Tree} (opened : start.char? = some '(')
    (reads : ReadsOn .expression start.advance inside last) (closed : last.char? = some ')')
    (opens : Rule.expression.rank ≤ inside.nesting .expression) :
    ReadsOn .base start (.group inside) last.advance := by
  intro depth scanner room here
  subst here
  have fits : inside.nesting .expression ≤ depth := by
    simp only [Tree.nesting, Rule.rank] at room
    omega
  -- The closing parenthesis ends the expression.
  have gives := reads.gives (fun _ => Place.ends_of_char closed rfl) opens fits
    scanner.place_advance
  refine ⟨(read depth .expression scanner.advance).andThen fun value after =>
    .value value after.advance, gives.andThen_ok fun value after reached => ?_, ?_⟩
  · rw [← reached]
    exact Reading.value_gives value after.advance
  · rw [Reading.andThen_assoc, read_group opened]
    refine Reading.andThen_congr fun value after found => ?_
    have parenthesis : after.char? = some ')' := by
      rw [← Scanner.place_char?, gives.place_of_value found, closed]
    simp [parenthesis, Rule.goOn, Rule.operand?]

/-- A call is read on when its argument is, and applies its function to it. -/
theorem ReadsOn.call {function : NamedFunction} {argument : Tree}
    (named : start.run Text.isLetter = function.name.toList)
    (behind : ReadsOn .factor (start.skipRun Text.isLetter) argument stop)
    (ends : stop.Ends .factor) (opens : Rule.factor.rank ≤ argument.nesting .factor) :
    ReadsOn .base start (.call function start argument stop) stop := by
  intro depth scanner room here
  subst here
  have fits : argument.nesting .factor ≤ depth := by
    simp only [Tree.nesting, Rule.rank] at room
    omega
  have gives := behind.gives (fun _ => ends) opens fits (scanner.place_skipRun Text.isLetter)
  -- The name starts with a letter, at which a base reads a function.
  obtain ⟨tail, name⟩ := function.name_eq_cons
  obtain ⟨first, letter⟩ := Place.char?_of_run (named.trans name)
  refine ⟨readFunction (read depth .factor) scanner, ?_, ?_⟩
  · simp only [readFunction, NamedFunction.ofName?_run named]
    refine gives.andThen fun value after reached => ?_
    rw [Scanner.place_position]
    cases function.apply value (some scanner.position) with
    | ok result => exact ⟨rfl, fun _ _ => reached⟩
    | error failure => exact ⟨rfl, by rintro _ ⟨⟩⟩
  · rw [read_name first letter]
    exact (Reading.andThen_value _).symm

end Bases

/-- A place that ends the operands of a rule, or the rule itself if it joins none;
a base ends anywhere. -/
def Place.EndsOperand (place : Place) (rule : Rule) : Prop :=
  rule ≠ .base → place.Ends (rule.operand?.getD rule)

/-- A rule reads the tree that the grammar derives, up to operators with which it goes on. -/
theorem Derives.readsOn {rule : Rule} {start stop : Place} {tree : Tree}
    (derived : Derives rule start tree stop) (takes : tree.TakesExponents)
    (ends : stop.EndsOperand rule) : ReadsOn rule start tree stop := by
  -- The induction is on the derivation; the character behind a part tells that it has ended.
  induction derived with
  | term derived ih =>
    have stops := ends (by decide)
    exact .single rfl derived (ih takes fun _ => stops.operand rfl) stops
  | factor derived ih =>
    have stops := ends (by decide)
    exact .single rfl derived (ih takes fun _ => stops) stops
  | sum rule before here behind first second =>
    have joins : _ = some Rule.term := congrArg Rule.operand? rule
    have stops := ends (by decide)
    have reads := first takes.1 fun _ => Place.ends_of_char here (Operator.goesOn_sign joins).2
    rw [← rule] at reads ⊢
    exact .join joins reads here (second takes.2 fun _ => stops.operand rfl) stops
      behind.rank_le_nesting
  | product rule before here behind first second =>
    have joins : _ = some Rule.factor := congrArg Rule.operand? rule
    have stops := ends (by decide)
    have reads := first takes.1 fun _ => Place.ends_of_char here (Operator.goesOn_sign joins).2
    rw [← rule] at reads ⊢
    exact .join joins reads here (second takes.2 fun _ => stops) stops behind.rank_le_nesting
  | positive sign derived ih =>
    exact .positive sign (ih takes ends) (ends (by decide)) derived.rank_le_nesting
  | negative sign derived ih =>
    exact .negative sign (ih takes ends) (ends (by decide)) derived.rank_le_nesting
  | power derived ih =>
    have stops := ends (by decide)
    exact .power derived (ih takes fun _ => stops) stops
  | base derived ih =>
    -- A base ends anywhere, so nothing is asked of the place behind it.
    exact .base derived (ih takes fun base => absurd rfl base) (ends (by decide))
  | raised derived sign behind first second =>
    have stops := ends (by decide)
    exact .raised derived (first takes.1 fun base => absurd rfl base) sign
      (second takes.2 fun _ => stops) stops behind.rank_le_nesting
  | number numeral => exact .number numeral
  | group opened inside closed ih =>
    have reads := ih takes fun _ => Place.ends_of_char closed rfl
    exact .group opened reads closed inside.rank_le_nesting
  | call named behind ih =>
    -- The argument has taken an exponent in, so none follows.
    have stops := Place.ends_factor_iff.mpr takes.2
    exact .call named (ih takes.1 fun _ => stops) stops behind.rank_le_nesting

/-- A rule comes to the value of the tree that the grammar derives, and stops behind it;
only a base cannot go on anyway. -/
theorem Derives.read_gives {rule : Rule} {start stop : Place} {tree : Tree}
    (derived : Derives rule start tree stop) (takes : tree.TakesExponents)
    (ends : rule ≠ .base → stop.Ends rule) {depth : Nat} (room : tree.nesting rule ≤ depth)
    {scanner : Scanner} (here : scanner.place = start) :
    (read depth rule scanner).Gives tree.value stop := by
  -- The operands end where the rule ends.
  have operandEnds : stop.EndsOperand rule := by
    intro loose
    cases joins : rule.operand? with
    | none => exact ends loose
    | some operand => exact (ends loose).operand joins
  -- No rule that joins operands is a base.
  have joinedEnds : rule.operand? ≠ none → stop.Ends rule := by
    intro joins
    exact ends (by rintro rfl; exact joins rfl)
  exact (derived.readsOn takes operandEnds).gives joinedEnds derived.rank_le_nesting room here

end DeskCalc.Expression
