import DeskCalc.Proofs.Expression.Soundness

/-! Termination: without a limit on how many rules are open inside each other every rule finishes,
and a reading under a limit is the same unless the limit cuts it off. -/

namespace DeskCalc.Expression

open DeskCalc.Number

/-- A part of reading: a rule from its start on, or what it does behind a value it has come to. -/
inductive Part
  | all (rule : Rule)
  | behind (rule : Rule) (value : Float)

/-- A part of reading finishes at a scanner with a reading, after finitely many rules and operands.

Nothing limits how many rules are open inside each other, and nothing how many operands follow
each other. What is done behind a value is only asked for where there is a value. -/
inductive Finishes : Part → Scanner → Reading → Prop
  -- Two of the rules join operands, and go on as long as one of their operators follows.
  | joined {whole operand : Rule} {scanner : Scanner} {first : Reading}
      {next : Float → Scanner → Reading} : whole.operand? = some operand →
      Finishes (.all operand) scanner first →
      (∀ value, first.outcome = .ok value →
        Finishes (.behind whole value) first.scanner (next value first.scanner)) →
      Finishes (.all whole) scanner (first.andThen next)
  | ended {rule : Rule} {value : Float} {scanner : Scanner} :
      scanner.char?.bind rule.operation? = none →
      Finishes (.behind rule value) scanner (.value value scanner)
  | operator {operator : Operator} {operand : Rule} {left : Float} {scanner : Scanner}
      {right : Reading} {next : Float → Scanner → Reading} :
      operator.rule.operand? = some operand → scanner.char? = some operator.sign →
      Finishes (.all operand) scanner.advance right →
      (∀ value combined, right.outcome = .ok value →
        operator.apply left value scanner.advance.position = .ok combined →
        Finishes (.behind operator.rule combined) right.scanner (next combined right.scanner)) →
      Finishes (.behind operator.rule left) scanner (right.andThen fun value after =>
        (Reading.mk (operator.apply left value scanner.advance.position) after).andThen next)
  -- A sign stands before another factor.
  | positive {scanner : Scanner} {reading : Reading} : scanner.char? = some '+' →
      Finishes (.all .factor) scanner.advance reading → Finishes (.all .factor) scanner reading
  | negative {scanner : Scanner} {reading : Reading} : scanner.char? = some '-' →
      Finishes (.all .factor) scanner.advance reading →
      Finishes (.all .factor) scanner (reading.andThen fun value after => .value (-value) after)
  | unsigned {scanner : Scanner} {reading : Reading} : scanner.char? ≠ some '+' →
      scanner.char? ≠ some '-' → Finishes (.all .power) scanner reading →
      Finishes (.all .factor) scanner reading
  -- An exponent is a factor as well.
  | power {scanner : Scanner} {base exponent : Reading} : Finishes (.all .base) scanner base →
      (∀ value, base.outcome = .ok value → base.scanner.char? = some '^' →
        Finishes (.all .factor) base.scanner.advance exponent) →
      Finishes (.all .power) scanner (base.andThen fun value after =>
        if after.char? == some '^' then
          exponent.andThen fun raised last => raise value raised after.position last
        else .value value after)
  -- Which base it is the first character tells.
  | group {scanner : Scanner} {inside : Reading} : scanner.char? = some '(' →
      Finishes (.all .expression) scanner.advance inside →
      Finishes (.all .base) scanner (inside.andThen fun value after =>
        if after.char? == some ')' then .value value after.advance
        else .fault .unmatchedParenthesis after.position after)
  | number {scanner : Scanner} {c : Char} : scanner.char? = some c → isNumeralChar c = true →
      Finishes (.all .base) scanner (readNumber scanner)
  | call {scanner : Scanner} {c : Char} {argument : Reading} : scanner.char? = some c →
      Text.isLetter c = true →
      (∀ function, NamedFunction.ofName? (String.ofList (scanner.run Text.isLetter)) =
          some function → Finishes (.all .factor) (scanner.skipRun Text.isLetter) argument) →
      Finishes (.all .base) scanner (readFunction (fun _ => argument) scanner)
  | missing {scanner : Scanner} : (∀ c, scanner.char? = some c → startsBase c = false) →
      Finishes (.all .base) scanner (noBase scanner)

/-- Read a part of a rule while no more than `depth` rules are open inside each other;
behind a value the rule itself is open already. -/
def Part.read (depth : Nat) : Part → Scanner → Reading
  | all rule, scanner => Expression.read depth rule scanner
  | behind rule value, scanner => rule.goOn depth value scanner

namespace Reading

/-- A reading has not been cut off by the limit on open rules. -/
def HadRoom (reading : Reading) : Prop :=
  reading.outcome ≠ .error .nestedTooDeeply

/-- A reading of several parts had room when each of them had. -/
theorem HadRoom.of_andThen {reading : Reading} {next : Float → Scanner → Reading}
    (room : (reading.andThen next).HadRoom) :
    reading.HadRoom ∧ ∀ value, reading.outcome = .ok value →
      (next value reading.scanner).HadRoom := by
  -- Only a value is followed by the next part; a failure is the whole reading.
  cases reading with
  | mk outcome scanner =>
    cases outcome with
    | ok value =>
      refine ⟨nofun, ?_⟩
      rintro _ ⟨⟩
      exact room
    | error failure => exact ⟨room, nofun⟩

/-- Readings of several parts with room are the same when their parts are. -/
theorem HadRoom.andThen_congr {reading first : Reading} {next other : Float → Scanner → Reading}
    (room : (reading.andThen next).HadRoom) (same : reading.HadRoom → reading = first)
    (goes : ∀ value, first.outcome = .ok value → (next value first.scanner).HadRoom →
      next value first.scanner = other value first.scanner) :
    reading.andThen next = first.andThen other := by
  obtain ⟨before, behind⟩ := room.of_andThen
  obtain rfl := same before
  -- Behind a value both go on in the same way, as long as there is room.
  refine Reading.andThen_congr fun value after reads => ?_
  subst reads
  exact goes value rfl (behind value rfl)

end Reading

/-- What a rule does behind a value finishes when its operands do. -/
theorem goOn_finishes {whole operand : Rule} (joins : whole.operand? = some operand) {depth : Nat}
    (operands : ∀ scanner : Scanner, (read depth operand scanner).HadRoom →
      Finishes (.all operand) scanner (read depth operand scanner)) (size : Nat) :
    ∀ (value : Float) (scanner : Scanner), scanner.rest.length < size →
      (whole.goOn depth value scanner).HadRoom →
      Finishes (.behind whole value) scanner (whole.goOn depth value scanner) := by
  -- Each round takes an operator, so the characters that are left get fewer.
  induction size with
  | zero => exact fun _ _ short => absurd short (Nat.not_lt_zero _)
  | succ size ih =>
    intro value scanner short room
    cases known : scanner.char?.bind whole.operation? with
    -- No operator follows, so the rule ends with its value.
    | none =>
      rw [goOn_unknown depth known]
      exact .ended known
    | some operation =>
      obtain ⟨c, here, known⟩ := Option.bind_eq_some_iff.mp known
      obtain ⟨operator, rfl, rfl, rfl⟩ := Rule.operation?_eq_some_iff.mp known
      rw [goOn_operator joins depth here] at room ⊢
      obtain ⟨before, behind⟩ := room.of_andThen
      -- The next round starts behind the operand that is read now.
      refine .operator joins here (operands _ before) fun right combined reads applies => ?_
      have fewer : (read depth operand scanner.advance).scanner.rest.length ≤
          scanner.advance.rest.length := (read_leadsTo depth operand _).length_le
      have less : scanner.advance.rest.length + 1 = scanner.rest.length :=
        Place.length_advance (show scanner.place.char? = some _ from here)
      exact ih _ _ (by omega) ((behind right reads).of_andThen.2 combined applies)

/-- A reading that had room is what its rule finishes with. -/
theorem read_finishes (depth : Nat) : ∀ (rule : Rule) (scanner : Scanner),
    (read depth rule scanner).HadRoom →
      Finishes (.all rule) scanner (read depth rule scanner) := by
  -- The induction is on the limit, which every rule lowers for those that it opens.
  induction depth with
  | zero => exact fun _ _ room => absurd rfl room
  | succ depth ih =>
    have joined {whole operand : Rule} (joins : whole.operand? = some operand) (scanner : Scanner)
        (room : (read (depth + 1) whole scanner).HadRoom) :
        Finishes (.all whole) scanner (read (depth + 1) whole scanner) := by
      rw [read_joined joins] at room ⊢
      obtain ⟨before, behind⟩ := room.of_andThen
      exact .joined joins (ih _ _ before) fun value reads =>
        goOn_finishes joins (ih operand) _ _ _ (Nat.lt_succ_self _) (behind value reads)
    intro rule scanner room
    cases rule with
    | expression => exact joined rfl scanner room
    | term => exact joined rfl scanner room
    | factor =>
      rw [read] at room ⊢
      -- A factor has a sign or is a power, and each of these opens one more rule.
      split at room
      · rename_i here
        exact .positive here (ih _ _ room)
      · rename_i here
        exact .negative here (ih _ _ room.of_andThen.1)
      · rename_i noPlus noMinus
        exact .unsigned noPlus noMinus (ih _ _ room)
    | power =>
      obtain ⟨before, behind⟩ := room.of_andThen
      refine .power (ih _ _ before) fun value reads sign => ?_
      have raised := behind value reads
      -- Only where a power sign follows there is an exponent to be read.
      simp only [sign, beq_self_eq_true, if_true] at raised
      exact ih _ _ raised.of_andThen.1
    | base =>
      rcases scanner.place.base_cases with missing | here | ⟨c, here, member⟩ | ⟨c, here, letter⟩
      · rw [read_missing missing]
        exact .missing missing
      · rw [read_group here] at room ⊢
        exact .group here (ih _ _ room.of_andThen.1)
      · rw [read_number here member]
        exact .number here member
      · rw [read_name here letter] at room ⊢
        -- Only the name and what is read behind it matter to a call.
        refine @Finishes.call scanner c (read depth .factor (scanner.skipRun Text.isLetter)) here
          letter fun function named => ih _ _ ?_
        simp only [readFunction, named] at room
        exact room.of_andThen.1

/-- A part of reading that finishes is what is read under a limit that leaves it room. -/
theorem Finishes.read_eq {part : Part} {scanner : Scanner} {reading : Reading}
    (finishes : Finishes part scanner reading) : ∀ depth : Nat,
      (part.read depth scanner).HadRoom → part.read depth scanner = reading := by
  -- A rule that is opened needs a limit above zero, and what it opens has one less.
  have opened {rule : Rule} {scanner : Scanner} {reading : Reading}
      (reads : ∀ depth, (read (depth + 1) rule scanner).HadRoom →
        read (depth + 1) rule scanner = reading) (depth : Nat)
      (room : (read depth rule scanner).HadRoom) : read depth rule scanner = reading := by
    cases depth with
    | zero => exact absurd rfl room
    | succ depth => exact reads depth room
  -- Induction on the way that the rule finishes: each part is read as it finishes.
  induction finishes with
  | joined joins _ _ first behind =>
    refine opened fun depth room => ?_
    rw [read_joined joins] at room ⊢
    exact room.andThen_congr (first depth) fun value reads => behind value reads depth
  | ended unknown => exact fun depth _ => goOn_unknown depth unknown
  | operator joins sign _ _ operand behind =>
    intro depth room
    simp only [Part.read, goOn_operator joins depth sign] at room ⊢
    refine room.andThen_congr (operand depth) fun value reads inner => ?_
    exact inner.andThen_congr (fun _ => rfl) fun combined applies =>
      behind value combined reads applies depth
  | positive sign _ factor =>
    refine opened fun depth room => ?_
    simp only [read, sign] at room ⊢
    exact factor depth room
  | negative sign _ factor =>
    refine opened fun depth room => ?_
    simp only [read, sign] at room ⊢
    exact room.andThen_congr (factor depth) fun _ _ _ => rfl
  | unsigned noPlus noMinus _ power =>
    refine opened fun depth room => ?_
    rw [read_unsigned noPlus noMinus] at room ⊢
    exact power depth room
  | power _ _ base exponent =>
    refine opened fun depth room => ?_
    rw [read] at room ⊢
    refine room.andThen_congr (base depth) fun value reads inner => ?_
    -- Behind the base only the power sign makes a difference.
    split
    · rename_i sign
      simp only [sign, if_true] at inner
      exact inner.andThen_congr (exponent value reads (by simpa using sign) depth) fun _ _ _ => rfl
    · rfl
  | group here _ inside =>
    refine opened fun depth room => ?_
    rw [read_group here] at room ⊢
    exact room.andThen_congr (inside depth) fun _ _ _ => rfl
  | number here member => exact opened fun depth _ => read_number here member
  | call here letter _ argument =>
    refine opened fun depth room => ?_
    rw [read_name here letter] at room ⊢
    simp only [readFunction] at room ⊢
    -- A name that is not known is not followed by anything.
    split
    · rfl
    · rename_i function named
      simp only [named] at room
      exact room.andThen_congr (argument function named depth) fun _ _ _ => rfl
  | missing nothing => exact opened fun depth _ => read_missing nothing

/-- A bound on how many rules are open inside each other while a rule is read, with itself:
up to the next character no more than five. -/
def Rule.nestingBound (rule : Rule) (left : Nat) : Nat :=
  rule.rank + 5 * left

/-- Below a rule lie no more than the five rules, and at least itself. -/
theorem Rule.rank_bounds (rule : Rule) : 1 ≤ rule.rank ∧ rule.rank ≤ 5 := by
  cases rule <;> decide

/-- A rule that joins operands is looser than they are. -/
theorem Rule.rank_operand {whole operand : Rule} (joins : whole.operand? = some operand) :
    operand.rank < whole.rank := by
  -- Two rules join operands, each of them those of the next one.
  cases whole with
  | expression =>
    obtain rfl : Rule.term = operand := Option.some.inj joins
    decide
  | term =>
    obtain rfl : Rule.factor = operand := Option.some.inj joins
    decide
  | _ => simp [operand?] at joins

/-- With fewer characters left the bound of every rule is lower. -/
theorem Rule.nestingBound_lt {inner outer : Rule} {fewer left : Nat} (less : fewer < left) :
    inner.nestingBound fewer < outer.nestingBound left := by
  have := inner.rank_bounds
  have := outer.rank_bounds
  simp only [nestingBound]
  omega

namespace Opening

/-- A rule that is entered has one rule less to open, and its bound is lower. -/
theorem Enters.nestingBound_lt {outer inner : Opening} (enters : outer.Enters inner) :
    inner.depth + 1 = outer.depth ∧ inner.rule.nestingBound inner.place.rest.length <
      outer.rule.nestingBound outer.place.rest.length := by
  -- Either a tighter rule is entered at the same place, or some characters have been passed.
  cases enters with
  | first joins =>
    exact ⟨rfl, Nat.add_lt_add_right (Rule.rank_operand joins) _⟩
  | unsigned _ _ =>
    have tighter : Rule.power.rank < Rule.factor.rank := by decide
    exact ⟨rfl, Nat.add_lt_add_right tighter _⟩
  | base =>
    have tighter : Rule.base.rank < Rule.power.rank := by decide
    exact ⟨rfl, Nat.add_lt_add_right tighter _⟩
  -- The operand in front has taken characters.
  | next _ spans sign | exponent spans sign =>
    have less := Place.length_advance sign
    have fewer := spans.derived.length_lt
    exact ⟨rfl, Rule.nestingBound_lt (by simp only at fewer ⊢; omega)⟩
  -- The sign or the parenthesis is passed.
  | signed here _ | inside here =>
    have less := Place.length_advance here
    exact ⟨rfl, Rule.nestingBound_lt (by simp only; omega)⟩
  | argument named =>
    exact ⟨rfl, Rule.nestingBound_lt (NamedFunction.length_skipRun named)⟩

/-- On the way to an opening the bound is lowered at least as often as the limit is. -/
theorem LeadsTo.nestingBound_le {outer inner : Opening} (leads : outer.LeadsTo inner) :
    inner.rule.nestingBound inner.place.rest.length + outer.depth ≤
      outer.rule.nestingBound outer.place.rest.length + inner.depth := by
  -- Induction on the way, of which every step lowers the limit by one and the bound by one or more.
  induction leads with
  | refl => exact Nat.le_refl _
  | tail _ enters ih =>
    obtain ⟨one, less⟩ := enters.nestingBound_lt
    omega

end Opening

/-- Functions do not fail because of the limit on open rules. -/
theorem NamedFunction.apply_ne_nestedTooDeeply (function : NamedFunction) (argument : Float)
    (position : Option Int) : function.apply argument position ≠ .error .nestedTooDeeply := by
  -- Each function has a failure of its own, or none.
  cases function with
  | sin | cos | tan =>
    simp only [apply, ofAngle]
    split <;> simp
  | sqrt =>
    simp only [apply, squareRoot]
    split <;> simp
  | log | ln =>
    simp only [apply, commonLog, naturalLog, logarithm]
    split <;> simp

/-- Operators do not fail because of the limit on open rules. -/
theorem Operator.apply_ne_nestedTooDeeply (operator : Operator) (left right : Float)
    (position : Nat) : operator.apply left right position ≠ .error .nestedTooDeeply := by
  -- Only the division has a failure of its own.
  cases operator with
  | plus | minus | times => simp [apply]
  | slash =>
    simp only [apply, divide]
    split <;> simp

/-- The limit on open rules is only met where no rule may be opened. -/
theorem Opening.Fails.depth_eq_zero {opening : Opening}
    (fails : opening.Fails .nestedTooDeeply) : opening.depth = 0 := by
  cases fails with
  | depth => rfl
  | operation _ _ _ _ applied => exact absurd applied (Operator.apply_ne_nestedTooDeeply _ _ _ _)
  | call _ _ applied => exact absurd applied (NamedFunction.apply_ne_nestedTooDeeply _ _ _)

/-- The bound on open rules is all the room that a rule needs. -/
theorem read_hadRoom {rule : Rule} {depth : Nat} {scanner : Scanner}
    (room : rule.nestingBound scanner.rest.length ≤ depth) : (read depth rule scanner).HadRoom := by
  intro fails
  -- The rule that meets the limit has a bound of its own, which is more than none.
  obtain ⟨inner, leads, failing⟩ := (read_accounted depth rule scanner).fails _ fails
  have lowered := leads.nestingBound_le
  have := inner.rule.rank_bounds
  have := failing.depth_eq_zero
  simp only [Scanner.place, Rule.nestingBound] at room lowered
  omega

/-- Every rule finishes at every scanner, and with one reading only. -/
theorem exists_finishes (rule : Rule) (scanner : Scanner) :
    ∃ reading, ∀ other, Finishes (.all rule) scanner other ↔ other = reading := by
  -- Under its own bound a rule has room, and finishes with what is read under it.
  have room : (read (rule.nestingBound scanner.rest.length) rule scanner).HadRoom :=
    read_hadRoom (Nat.le_refl _)
  refine ⟨read (rule.nestingBound scanner.rest.length) rule scanner, fun other => ⟨?_, ?_⟩⟩
  · intro finishes
    exact (finishes.read_eq _ room).symm
  · rintro rfl
    exact read_finishes _ rule scanner room

/-- Under any limit a rule reads what it finishes with, or is cut off by a limit below the bound. -/
theorem Finishes.read_cases {rule : Rule} {scanner : Scanner} {reading : Reading}
    (finishes : Finishes (.all rule) scanner reading) (depth : Nat) :
    read depth rule scanner = reading ∨
      (read depth rule scanner).outcome = .error .nestedTooDeeply ∧
        depth < rule.nestingBound scanner.rest.length := by
  by_cases room : (read depth rule scanner).HadRoom
  · exact .inl (finishes.read_eq depth room)
  · -- With enough room nothing is cut off, so the limit is below the bound.
    refine .inr ⟨Classical.not_not.mp room, ?_⟩
    exact Nat.not_le.mp fun enough => room (read_hadRoom enough)

end DeskCalc.Expression
