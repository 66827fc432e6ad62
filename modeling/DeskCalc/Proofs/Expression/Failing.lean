import DeskCalc.Proofs.Expression.Soundness

/-! Failures: reading an expression fails exactly where a rule that it leads to fails by itself. -/

namespace DeskCalc.Expression

open DeskCalc.Number

namespace Reading

/-- What comes after a failure does not change it. -/
theorem andThen_error {reading : Reading} {failure : Failure} (next : Float → Scanner → Reading)
    (fails : reading.outcome = .error failure) :
    (reading.andThen next).outcome = .error failure := by
  -- The second reading only starts from a value.
  simp [andThen, fails]

/-- A reading that gives a value is that value at the place where it stands. -/
theorem Gives.eq_value {reading : Reading} {outcome : Except Failure Float} {found : Float}
    {stop : Place} (gives : reading.Gives outcome stop) (ok : outcome = .ok found) :
    ∃ after : Scanner, after.place = stop ∧ reading = .value found after := by
  obtain ⟨outcome_eq, place_eq⟩ := gives
  cases reading with
  | mk outcome scanner =>
    subst ok outcome_eq
    exact ⟨scanner, place_eq found rfl, rfl⟩

end Reading

namespace Opening

/-- Behind the tree that an opening spans, its rule goes on with the value. -/
theorem Spans.read_eq {depth : Nat} {rule : Rule} {start stop : Place} {tree : Tree} {value : Float}
    (spans : Spans ⟨depth + 1, rule, start⟩ tree value stop) (ends : stop.EndsOperand rule)
    {scanner : Scanner} (here : scanner.place = start) :
    ∃ after : Scanner, after.place = stop ∧
      read (depth + 1) rule scanner = rule.goOn depth value after := by
  -- The tree of the opening is read as the grammar derives it.
  obtain ⟨reading, gives, same⟩ :=
    spans.derived.readsOn spans.takes ends depth scanner spans.room here
  obtain ⟨after, there, rfl⟩ := gives.eq_value spans.value_eq
  exact ⟨after, there, same⟩

/-- The rule of an opening reads the value that it yields. -/
theorem Yields.read_eq {opening : Opening} {tree : Tree} {value : Float} {stop : Place}
    (yields : opening.Yields tree value stop) {scanner : Scanner}
    (here : scanner.place = opening.place) :
    ∃ after : Scanner, after.place = stop ∧
      read opening.depth opening.rule scanner = .value value after :=
  (yields.derived.read_gives yields.takes yields.ends yields.room here).eq_value yields.value_eq

/-- From an opening on, reading comes to a failure. -/
def Stops (opening : Opening) (failure : Failure) : Prop :=
  ∀ scanner : Scanner, scanner.place = opening.place →
    (read opening.depth opening.rule scanner).outcome = .error failure

/-- An operator behind what a rule has read leads on to its operand. -/
theorem read_operator {depth : Nat} {operator : Operator} {operand : Rule} {start middle : Place}
    {left : Tree} {value : Float} (joins : operator.rule.operand? = some operand)
    (spans : Spans ⟨depth + 1, operator.rule, start⟩ left value middle)
    (sign : middle.char? = some operator.sign) {scanner : Scanner} (here : scanner.place = start) :
    ∃ after : Scanner, after.place = middle.advance ∧
      read (depth + 1) operator.rule scanner = (read depth operand after).andThen
        fun right last =>
          (Reading.mk (operator.apply value right middle.advance.position) last).andThen
            (operator.rule.goOn depth) := by
  -- An operator is no sign with which one of its operands goes on.
  have ends : middle.EndsOperand operator.rule := by
    intro _
    simp only [joins, Option.getD_some]
    exact Place.ends_of_char sign (Operator.goesOn_sign joins).2
  obtain ⟨after, there, same⟩ := spans.read_eq ends here
  refine ⟨after.advance, by rw [Scanner.place_advance, there], ?_⟩
  -- Behind the left part the rule goes on with the operator and its operand.
  rw [same, goOn_operator joins depth (there ▸ sign), there]

/-- A rule comes to the failure that a rule comes to which it enters. -/
theorem Enters.stops {opening inner : Opening} {failure : Failure} (enters : opening.Enters inner)
    (stops : inner.Stops failure) : opening.Stops failure := by
  intro scanner here
  -- Each way of entering a rule is one of the readings that its own rule does first.
  cases enters with
  | first joins =>
    rw [read_joined joins]
    exact Reading.andThen_error _ (stops scanner here)
  | next joins spans sign =>
    obtain ⟨after, there, same⟩ := read_operator joins spans sign here
    rw [same]
    exact Reading.andThen_error _ (stops after there)
  | signed sign either =>
    subst here
    have fails := stops scanner.advance rfl
    rw [Scanner.place_char?] at sign
    rcases either with rfl | rfl
    · simpa only [read, sign] using fails
    · simp only [read, sign]
      exact Reading.andThen_error _ fails
  | unsigned noPlus noMinus =>
    subst here
    rw [read_unsigned noPlus noMinus]
    exact stops scanner rfl
  | base =>
    rw [read]
    exact Reading.andThen_error _ (stops scanner here)
  | exponent spans sign =>
    have yields : Yields _ _ _ _ := ⟨spans, fun base => absurd rfl base⟩
    obtain ⟨after, there, same⟩ := yields.read_eq here
    have power : after.char? = some '^' := by rw [← Scanner.place_char?, there, sign]
    simp only at same
    -- The base comes to its value, behind which the exponent sign is found.
    rw [read, same, Reading.value_andThen]
    simp only [power, beq_self_eq_true, if_true]
    exact Reading.andThen_error _ (stops after.advance (by rw [Scanner.place_advance, there]))
  | inside opened =>
    subst here
    rw [read_group opened]
    exact Reading.andThen_error _ (stops scanner.advance rfl)
  | @argument _ _ function named =>
    subst here
    obtain ⟨tail, name⟩ := function.name_eq_cons
    obtain ⟨first, letter⟩ := Place.char?_of_run (named.trans name)
    -- The name is known, so its argument is read.
    simp only [read_name first letter, readFunction, NamedFunction.ofName?_run named]
    exact Reading.andThen_error _ (stops (scanner.skipRun Text.isLetter) rfl)

/-- A rule that fails by itself comes to that failure. -/
theorem Fails.stops {opening : Opening} {failure : Failure} (fails : opening.Fails failure) :
    opening.Stops failure := by
  intro scanner here
  -- Each cause is found where the rule has read everything that comes before it.
  cases fails with
  | depth => rfl
  | operation joins spans sign yields applied =>
    obtain ⟨after, there, same⟩ := read_operator joins spans sign here
    obtain ⟨last, -, part⟩ := yields.read_eq there
    simp only at part
    rw [same, part, Reading.value_andThen, applied]
    rfl
  | missing nothing =>
    subst here
    rw [read_missing nothing, noBase_eq]
    rfl
  | numeral there member invalid =>
    subst here
    rw [read_number there member]
    cases split : splitNumeral? (scanner.run isNumeralChar) with
    | none =>
      simp only [readNumber, readNumeral?, split]
      rfl
    | some parts =>
      -- The run would have to be a numeral.
      exact absurd (Scanner.isNumeral_run split) (invalid _ _)
  | name there letter unknown =>
    subst here
    rw [read_name there letter]
    cases found : NamedFunction.ofName? (String.ofList (scanner.run Text.isLetter)) with
    | none =>
      simp only [readFunction, found]
      rfl
    | some function =>
      -- The letters would have to be the name of a function.
      refine absurd ?_ (unknown function)
      rw [NamedFunction.ofName?_eq_some_iff.mp found, String.toList_ofList]
      rfl
  | @call _ _ _ function _ _ _ named yields applied =>
    subst here
    obtain ⟨tail, name⟩ := function.name_eq_cons
    -- The argument comes to its value, to which the function is applied.
    obtain ⟨first, letter⟩ := Place.char?_of_run (named.trans name)
    obtain ⟨last, -, part⟩ := yields.read_eq (scanner.place_skipRun Text.isLetter)
    simp only [Scanner.place_position] at part applied
    simp only [read_name first letter, readFunction, NamedFunction.ofName?_run named, part,
      Reading.value_andThen, applied]
    rfl
  | parenthesis opened yields unclosed =>
    subst here
    obtain ⟨last, stop, part⟩ := yields.read_eq scanner.place_advance
    subst stop
    -- What stands behind the inside is no closing parenthesis.
    simp only at part
    have unclosed : ¬ (last.char? == some ')') = true := by simpa using unclosed
    rw [read_group opened, part, Reading.value_andThen, if_neg unclosed]
    rfl

/-- A failure of an opening that is led to is a failure of the whole. -/
theorem LeadsTo.stops {opening inner : Opening} {failure : Failure} (leads : opening.LeadsTo inner)
    (stops : inner.Stops failure) : opening.Stops failure := by
  -- Induction on the way: each rule comes to the failure of the one that it enters.
  induction leads using Relation.ReflTransGen.head_induction_on with
  | refl => exact stops
  | head enters _ ih => exact enters.stops ih

end Opening

/-- A rule comes to a failure exactly when it leads to a rule that fails by itself. -/
theorem read_fails_iff {depth : Nat} {rule : Rule} {scanner : Scanner} {failure : Failure} :
    (read depth rule scanner).outcome = .error failure ↔
      ∃ inner, Opening.LeadsTo ⟨depth, rule, scanner.place⟩ inner ∧ inner.Fails failure := by
  -- What is accounted for is one direction, and that failures are handed on is the other.
  constructor
  · exact (read_accounted depth rule scanner).fails failure
  · intro failing
    obtain ⟨inner, leads, fails⟩ := failing
    exact Opening.LeadsTo.stops leads fails.stops scanner rfl

end DeskCalc.Expression
