import DeskCalc.Proofs.Expression.Longest

/-! Reading a rule gives the value of the tree that the grammar derives, and stops where it stops. -/

namespace DeskCalc.Expression

open DeskCalc.Number

namespace Reading

/-- A reading comes to an outcome, and to a place if that is a value. -/
structure Gives (reading : Reading) (outcome : Except Failure Float) (stop : Place) : Prop where
  outcome_eq : reading.outcome = outcome
  place_eq : ∀ value, outcome = .ok value → reading.scanner.place = stop

theorem value_gives (found : Float) (scanner : Scanner) :
    (value found scanner).Gives (.ok found) scanner.place :=
  ⟨rfl, fun _ _ => rfl⟩

/-- A reading that comes to a value stands where it says. -/
theorem Gives.place_of_value {reading : Reading} {outcome : Except Failure Float} {stop : Place}
    (gives : reading.Gives outcome stop) {found : Float} {after : Scanner}
    (reads : reading = .value found after) : after.place = stop := by
  -- A value is an outcome, and the place is that of the outcome.
  subst reads
  exact gives.place_eq found gives.outcome_eq.symm

/-- Readings one after the other give their outcomes one after the other. -/
theorem Gives.andThen {reading : Reading} {outcome : Except Failure Float} {middle stop : Place}
    {next : Float → Scanner → Reading} {result : Float → Except Failure Float}
    (gives : reading.Gives outcome middle)
    (goes : ∀ value after, after.place = middle → (next value after).Gives (result value) stop) :
    (reading.andThen next).Gives (outcome >>= result) stop := by
  -- The first reading decides whether there is a second one.
  obtain ⟨outcome_eq, place_eq⟩ := gives
  cases outcome with
  | ok value =>
    have same : reading.andThen next = next value reading.scanner := by
      simp [Reading.andThen, outcome_eq]
    rw [same]
    exact goes value _ (place_eq value rfl)
  | error failure =>
    have same : reading.andThen next = ⟨.error failure, reading.scanner⟩ := by
      simp [Reading.andThen, outcome_eq]
    rw [same]
    exact ⟨rfl, by rintro _ ⟨⟩⟩

/-- A reading that is followed by nothing new gives what it gave. -/
theorem Gives.andThen_ok {reading : Reading} {outcome : Except Failure Float} {middle stop : Place}
    {next : Float → Scanner → Reading} (gives : reading.Gives outcome middle)
    (goes : ∀ value after, after.place = middle → (next value after).Gives (.ok value) stop) :
    (reading.andThen next).Gives outcome stop := by
  -- With the value handed on unchanged, the second outcome is the first one.
  have both := gives.andThen goes
  cases outcome <;> exact both

/-- Readings one after the other can be grouped in either way. -/
theorem andThen_assoc (reading : Reading) (first second : Float → Scanner → Reading) :
    (reading.andThen first).andThen second =
      reading.andThen fun value after => (first value after).andThen second := by
  cases reading with
  | mk outcome scanner => cases outcome <;> rfl

/-- A reading that is only handed on stays what it is. -/
theorem andThen_value (reading : Reading) : reading.andThen value = reading := by
  cases reading with
  | mk outcome scanner => cases outcome <;> rfl

end Reading

/-- Characters of numerals are digits and the point. -/
theorem eq_point_of_isNumeralChar {c : Char} (member : isNumeralChar c = true)
    (noDigit : ¬ c.isDigit = true) : c = '.' := by
  simpa [isNumeralChar, noDigit] using member

/-- A run of numeral characters that is taken apart at its point is a numeral. -/
theorem isNumeral_of_splitNumeral? {text whole fraction : List Char}
    (members : ∀ c ∈ text, isNumeralChar c = true)
    (split : splitNumeral? text = some (whole, fraction)) : IsNumeral text whole fraction := by
  have parts := List.takeWhile_append_dropWhile (p := Char.isDigit) (l := text)
  have digits : (text.takeWhile Char.isDigit).all Char.isDigit := List.all_takeWhile
  simp only [splitNumeral?] at split
  -- The digits in front end with the text or at the first character that is no digit.
  cases behind : text.dropWhile Char.isDigit with
  | nil =>
    rw [behind, List.append_nil] at parts
    simp only [behind, List.isEmpty_iff] at split
    split at split
    · simp at split
    · rename_i occupied
      simp only [Option.some.injEq, Prod.mk.injEq] at split
      obtain ⟨rfl, rfl⟩ := split
      rw [parts] at occupied digits ⊢
      exact .whole occupied digits
  | cons c tail =>
    -- That character is the point, because there are no others.
    rw [behind] at parts
    have noDigit : ¬ c.isDigit = true := by
      have := List.head?_dropWhile_not Char.isDigit text
      simpa [behind] using this
    have member : c ∈ text := by
      rw [← parts]
      simp
    obtain rfl := eq_point_of_isNumeralChar (members c member) noDigit
    simp only [behind] at split
    split at split
    · rename_i checked
      simp only [Option.some.injEq, Prod.mk.injEq] at split
      obtain ⟨rfl, rfl⟩ := split
      rw [Bool.and_eq_true] at checked
      obtain ⟨fractionDigits, occupied⟩ := checked
      by_cases empty : text.takeWhile Char.isDigit = []
      · rw [empty] at occupied parts ⊢
        rw [← parts]
        exact .fraction (by rintro rfl; simp at occupied) fractionDigits
      · have numeral := IsNumeral.point empty digits fractionDigits
        rwa [parts] at numeral
    · simp at split

/-- A numeral is taken apart at its point. -/
theorem IsNumeral.splitNumeral?_eq {text whole fraction : List Char}
    (numeral : IsNumeral text whole fraction) : splitNumeral? text = some (whole, fraction) := by
  cases numeral with
  | whole occupied digits =>
    have every := List.all_eq_true.mp digits
    have run := @List.takeWhile_append_of_pos _ _ _ [] every
    have rest := @List.dropWhile_append_of_pos _ _ _ [] every
    simp only [List.append_nil, List.takeWhile_nil, List.dropWhile_nil] at run rest
    simp [splitNumeral?, run, rest, occupied]
  | point occupied digits fractionDigits =>
    -- The point is no digit, so the digits in front end there.
    have every := List.all_eq_true.mp digits
    simp [splitNumeral?, List.takeWhile_append_of_pos every, List.dropWhile_append_of_pos every,
      occupied, fractionDigits]
  | fraction occupied digits => simp [splitNumeral?, digits, occupied]

/-- The run of numeral characters at a scanner is only taken apart when it is a numeral. -/
theorem Scanner.isNumeral_run {scanner : Scanner} {whole fraction : List Char}
    (split : splitNumeral? (scanner.run isNumeralChar) = some (whole, fraction)) :
    IsNumeral (scanner.place.run isNumeralChar) whole fraction := by
  have all : (scanner.run isNumeralChar).all isNumeralChar = true := List.all_takeWhile
  exact isNumeral_of_splitNumeral? (List.all_eq_true.mp all) split

/-- The operation that an operator sign stands for behind what a rule has derived. -/
def Rule.operation? : Rule → Char → Option Operation
  | expression => additive?
  | term => multiplicative?
  | _ => fun _ => none

/-- The signs that a rule knows are those of the operators that join its operands. -/
theorem Rule.operation?_eq_some_iff {rule : Rule} {c : Char} {operation : Operation} :
    rule.operation? c = some operation ↔
      ∃ operator : Operator, operator.rule = rule ∧ operator.sign = c ∧
        operator.apply = operation := by
  constructor
  · intro known
    -- Two rules join operands, each with signs of its own.
    cases rule with
    | expression =>
      simp only [Rule.operation?, additive?] at known
      split at known
      · exact ⟨.plus, rfl, rfl, Option.some.inj known⟩
      · exact ⟨.minus, rfl, rfl, Option.some.inj known⟩
      · simp at known
    | term =>
      simp only [Rule.operation?, multiplicative?] at known
      split at known
      · exact ⟨.times, rfl, rfl, Option.some.inj known⟩
      · exact ⟨.slash, rfl, rfl, Option.some.inj known⟩
      · simp at known
    | _ => simp [Rule.operation?] at known
  · -- An operator is known by its sign to the rule that it belongs to.
    intro sign
    obtain ⟨operator, rfl, rfl, rfl⟩ := sign
    cases operator <;> rfl

/-- How a rule goes on behind what it has read: with the operators that join its operands. -/
def Rule.goOn (rule : Rule) (depth : Nat) (value : Float) (after : Scanner) : Reading :=
  match rule.operand? with
  | none => .value value after
  | some operand => chain (Expression.read depth operand) rule.operation? after.rest.length value after

/-- A rule that joins operands reads one of them and goes on. -/
theorem read_joined {rule operand : Rule} (joins : rule.operand? = some operand) (depth : Nat)
    (scanner : Scanner) :
    read (depth + 1) rule scanner = (read depth operand scanner).andThen (rule.goOn depth) := by
  cases rule <;> simp only [Rule.operand?, Option.some.injEq, reduceCtorEq] at joins <;>
    subst joins <;> rfl

/-- A base starts with an opening parenthesis, with a numeral or with a name. -/
def startsBase (c : Char) : Bool :=
  c == '(' || isNumeralChar c || Text.isLetter c

/-- A place is where no base starts, or where one of the three kinds of bases does. -/
theorem Place.base_cases (place : Place) :
    (∀ c, place.char? = some c → startsBase c = false) ∨ place.char? = some '(' ∨
      (∃ c, place.char? = some c ∧ isNumeralChar c = true) ∨
      ∃ c, place.char? = some c ∧ Text.isLetter c = true := by
  -- At the end of the text no base starts.
  cases here : place.char? with
  | none => exact .inl (by simp)
  | some c =>
    cases starts : startsBase c with
    | false =>
      refine .inl fun d there => ?_
      rwa [← Option.some.inj there]
    | true =>
      -- The characters that start a base are told apart by their kinds.
      simp only [startsBase, Bool.or_eq_true, beq_iff_eq] at starts
      rcases starts with (rfl | member) | letter
      · exact .inr (.inl rfl)
      · exact .inr (.inr (.inl ⟨c, rfl, member⟩))
      · exact .inr (.inr (.inr ⟨c, rfl, letter⟩))

/-- Without a sign a factor reads a power and nothing else. -/
theorem read_unsigned {depth : Nat} {scanner : Scanner} (noPlus : scanner.place.char? ≠ some '+')
    (noMinus : scanner.place.char? ≠ some '-') :
    read (depth + 1) .factor scanner = read depth .power scanner := by
  -- The signs have branches of their own.
  rw [read]
  split
  · exact absurd ‹_› noPlus
  · exact absurd ‹_› noMinus
  · rfl

/-- Behind an opening parenthesis a base reads an expression and the closing one. -/
theorem read_group {depth : Nat} {scanner : Scanner} (opened : scanner.place.char? = some '(') :
    read (depth + 1) .base scanner = (read depth .expression scanner.advance).andThen
      fun value after => if after.char? == some ')' then .value value after.advance
        else .fault .unmatchedParenthesis after.position after := by
  -- The parenthesis is the first character that a base looks for.
  rw [Scanner.place_char?] at opened
  simp only [read, opened, beq_self_eq_true, if_true]

/-- At a character of numerals a base reads a number. -/
theorem read_number {depth : Nat} {scanner : Scanner} {c : Char}
    (here : scanner.place.char? = some c) (member : isNumeralChar c = true) :
    read (depth + 1) .base scanner = readNumber scanner := by
  -- The parenthesis, which is looked for first, is no character of numerals.
  have noParenthesis : c ≠ '(' := by
    intro same
    subst same
    exact absurd member (by decide)
  rw [Scanner.place_char?] at here
  simp only [read, here, beq_iff_eq, noParenthesis, if_false, member, if_true]

/-- At a letter a base reads a function and its argument. -/
theorem read_name {depth : Nat} {scanner : Scanner} {c : Char}
    (here : scanner.place.char? = some c) (letter : Text.isLetter c = true) :
    read (depth + 1) .base scanner = readFunction (read depth .factor) scanner := by
  -- Letters come behind the characters with which the other bases start.
  have behind := Text.le_toNat_of_isLetter letter
  have noParenthesis : c ≠ '(' := by
    intro same
    subst same
    exact absurd behind (by decide)
  have noNumeral : isNumeralChar c = false := by
    refine Bool.eq_false_iff.mpr fun member => ?_
    have := toNat_lt_of_isNumeralChar member
    omega
  rw [Scanner.place_char?] at here
  simp [read, here, noParenthesis, noNumeral, letter]

/-- The function of a name is found where the name stands. -/
theorem NamedFunction.ofName?_run {function : NamedFunction} {scanner : Scanner}
    (named : scanner.place.run Text.isLetter = function.name.toList) :
    ofName? (String.ofList (scanner.run Text.isLetter)) = some function := by
  rw [show scanner.run Text.isLetter = function.name.toList from named, String.ofList_toList]
  exact ofName?_eq_some_iff.mpr rfl

/-- A base that does not start where the scanner stands is missing. -/
theorem read_missing {depth : Nat} {scanner : Scanner}
    (nothing : ∀ c, scanner.place.char? = some c → startsBase c = false) :
    read (depth + 1) .base scanner = noBase scanner := by
  rw [read]
  -- At the end of the text nothing is looked for; any other character is none of the three kinds.
  split
  · rfl
  · rename_i c here
    have stops := nothing c here
    simp only [startsBase, Bool.or_eq_false_iff, beq_eq_false_iff_ne] at stops
    obtain ⟨⟨noParenthesis, noNumeral⟩, noLetter⟩ := stops
    simp [noParenthesis, noNumeral, noLetter]

theorem Place.LeadsTo.refl (place : Place) : place.LeadsTo place :=
  ⟨[], rfl, rfl, rfl⟩

theorem Scanner.leadsTo_advance {scanner : Scanner} {c : Char} (here : scanner.char? = some c) :
    scanner.place.LeadsTo scanner.advance.place :=
  Place.leadsTo_advance here

theorem Scanner.leadsTo_skipRun (scanner : Scanner) (inClass : Char → Bool) :
    scanner.place.LeadsTo (scanner.skipRun inClass).place :=
  Place.leadsTo_skipRun _ _

/-- A reading of several parts leads on when each of them does. -/
theorem Reading.andThen_leadsTo {start : Place} {reading : Reading}
    {next : Float → Scanner → Reading} (first : start.LeadsTo reading.scanner.place)
    (goes : ∀ value after, start.LeadsTo after.place →
      start.LeadsTo (next value after).scanner.place) :
    start.LeadsTo (reading.andThen next).scanner.place := by
  cases reading with
  | mk outcome scanner =>
    cases outcome with
    | ok value => exact goes value scanner first
    | error failure => exact first

/-- A chain leads on when its operands do. -/
theorem chain_leadsTo {operand : Scanner → Reading} {operation? : Char → Option Operation}
    (leads : ∀ scanner : Scanner, scanner.place.LeadsTo (operand scanner).scanner.place) (limit : Nat) :
    ∀ (value : Float) (scanner : Scanner),
      scanner.place.LeadsTo (chain operand operation? limit value scanner).scanner.place := by
  -- Induction on the limit: what is behind an operator is read with one less.
  induction limit with
  | zero => exact fun _ scanner => .refl scanner.place
  | succ limit ih =>
    intro value scanner
    rw [chain]
    split
    · exact .refl scanner.place
    · rename_i operation known
      obtain ⟨c, here, -⟩ := Option.bind_eq_some_iff.mp known
      have onward := (Scanner.leadsTo_advance here).trans (leads scanner.advance)
      refine Reading.andThen_leadsTo onward fun right after reached => ?_
      split
      · exact reached.trans (ih _ _)
      · exact reached

/-- A number leads on over its run, whether or not it is a numeral. -/
theorem readNumber_leadsTo (scanner : Scanner) :
    scanner.place.LeadsTo (readNumber scanner).scanner.place := by
  -- The run is passed before its characters are looked at.
  rw [readNumber]
  split <;> exact Place.leadsTo_skipRun _ _

/-- A function leads on over its name, and as far as its argument does. -/
theorem readFunction_leadsTo {argument : Scanner → Reading}
    (leads : ∀ scanner : Scanner, scanner.place.LeadsTo (argument scanner).scanner.place)
    (scanner : Scanner) :
    scanner.place.LeadsTo (readFunction argument scanner).scanner.place := by
  rw [readFunction]
  split
  · -- An unknown name is passed as well.
    exact Place.leadsTo_skipRun _ _
  · refine Reading.andThen_leadsTo ((Scanner.leadsTo_skipRun _ _).trans (leads _)) ?_
    intro value after reached
    split <;> exact reached

/-- A base that is missing leaves the scanner where it is. -/
theorem noBase_leadsTo (scanner : Scanner) :
    scanner.place.LeadsTo (noBase scanner).scanner.place := by
  rw [noBase]
  split <;> exact .refl scanner.place

/-- Reading never goes back, whatever it comes to. -/
theorem read_leadsTo (depth : Nat) : ∀ (rule : Rule) (scanner : Scanner),
    scanner.place.LeadsTo (read depth rule scanner).scanner.place := by
  -- Each rule moves on by single characters and runs, or reads a rule that is open in it.
  induction depth with
  | zero => exact fun _ scanner => .refl scanner.place
  | succ depth ih =>
    intro rule scanner
    cases rule with
    | expression => exact Reading.andThen_leadsTo (ih _ _) fun _ _ reached =>
        reached.trans (chain_leadsTo (ih .term) _ _ _)
    | term => exact Reading.andThen_leadsTo (ih _ _) fun _ _ reached =>
        reached.trans (chain_leadsTo (ih .factor) _ _ _)
    | factor =>
      rw [read]
      split
      · rename_i here
        exact (Scanner.leadsTo_advance here).trans (ih _ _)
      · rename_i here
        exact Reading.andThen_leadsTo ((Scanner.leadsTo_advance here).trans (ih _ _))
          fun _ _ reached => reached
      · exact ih _ _
    | power =>
      refine Reading.andThen_leadsTo (ih _ _) fun base after reached => ?_
      split
      · rename_i here
        have onward := Scanner.leadsTo_advance (by simpa using here)
        refine Reading.andThen_leadsTo (reached.trans (onward.trans (ih _ _))) ?_
        -- A remark about the power leaves the scanner behind the exponent.
        intro exponent last end_
        rw [raise]
        split <;> exact end_
      · exact reached
    | base =>
      rcases scanner.place.base_cases with missing | here | ⟨c, here, member⟩ | ⟨c, here, letter⟩
      · rw [read_missing missing]
        exact noBase_leadsTo scanner
      · rw [read_group here]
        refine Reading.andThen_leadsTo ((Scanner.leadsTo_advance here).trans (ih _ _)) ?_
        intro value after reached
        split
        · rename_i closed
          exact reached.trans (Scanner.leadsTo_advance (by simpa using closed))
        · exact reached
      · rw [read_number here member]
        exact readNumber_leadsTo scanner
      · rw [read_name here letter]
        exact readFunction_leadsTo (ih .factor) scanner

/-- What follows a reading only matters where the reading comes to a value. -/
theorem Reading.andThen_congr {reading : Reading} {next other : Float → Scanner → Reading}
    (same : ∀ found after, reading = .value found after → next found after = other found after) :
    reading.andThen next = reading.andThen other := by
  cases reading with
  | mk outcome scanner =>
    cases outcome with
    | ok found => exact same found scanner rfl
    | error failure => rfl

/-- Limits that are no shorter than what is left do not matter to a chain. -/
theorem chain_limit {operand : Scanner → Reading} {operation? : Char → Option Operation}
    (leads : ∀ scanner : Scanner, scanner.place.LeadsTo (operand scanner).scanner.place)
    (limit : Nat) : ∀ (other : Nat) (value : Float) (scanner : Scanner),
      scanner.rest.length ≤ limit → scanner.rest.length ≤ other →
      chain operand operation? limit value scanner =
        chain operand operation? other value scanner := by
  have atEnd {scanner : Scanner} (short : scanner.rest.length ≤ 0) (other : Nat) (value : Float) :
      chain operand operation? other value scanner = .value value scanner := by
    have done : scanner.char? = none := by
      simp [Scanner.char?, List.length_eq_zero_iff.mp (Nat.le_zero.mp short)]
    cases other <;> simp [chain, done]
  induction limit with
  | zero =>
    intro other value scanner short _
    rw [atEnd short, atEnd short]
  | succ limit ih =>
    intro other value scanner short otherShort
    cases other with
    | zero => rw [atEnd otherShort, atEnd otherShort]
    | succ other =>
      rw [chain, chain]
      cases known : scanner.char?.bind operation? with
      | none => rfl
      | some operation =>
        obtain ⟨c, here, -⟩ := Option.bind_eq_some_iff.mp known
        have less := Place.length_advance (show scanner.place.char? = some _ from here)
        refine Reading.andThen_congr fun right after reads => ?_
        -- The operand takes at least its operator, so one limit less is enough behind it.
        have fewer := (leads scanner.advance).length_le
        rw [reads] at fewer
        simp only [Scanner.place_advance, Reading.value] at fewer
        cases operation value right scanner.advance.position with
        | ok combined =>
          simp only [Scanner.place] at less fewer
          exact ih _ _ _ (by omega) (by omega)
        | error failure => rfl

/-- An operator and an operand behind what a rule has read go on with it. -/
theorem goOn_operator {operator : Operator} {operand : Rule}
    (joins : operator.rule.operand? = some operand) (depth : Nat) {value : Float}
    {after : Scanner} (here : after.place.char? = some operator.sign) :
    operator.rule.goOn depth value after =
      (read depth operand after.advance).andThen fun right last =>
        (Reading.mk (operator.apply value right after.place.advance.position) last).andThen
          (operator.rule.goOn depth) := by
  have knows : after.char?.bind operator.rule.operation? = some operator.apply := by
    rw [← Scanner.place_char?, here]
    exact Rule.operation?_eq_some_iff.mpr ⟨operator, rfl, rfl, rfl⟩
  have less := Place.length_advance here
  have unfolded (value : Float) (after : Scanner) : operator.rule.goOn depth value after =
      chain (read depth operand) operator.rule.operation? after.rest.length value after := by
    simp only [Rule.goOn, joins]
  rw [unfolded, show after.rest.length = after.place.advance.rest.length + 1 from less.symm, chain,
    knows]
  refine Reading.andThen_congr fun right last reads => ?_
  have fewer := (read_leadsTo depth operand after.advance).length_le
  rw [reads] at fewer
  -- What is left of the limit is enough for what is left of the characters.
  rw [show after.place.advance.position = after.advance.position from rfl]
  cases operator.apply value right after.advance.position with
  | ok combined =>
    change _ = operator.rule.goOn depth combined last
    rw [unfolded]
    exact chain_limit (read_leadsTo depth operand) _ _ _ _ fewer (Nat.le_refl _)
  | error failure => rfl

/-- Where no operator follows that a rule knows, it does not go on. -/
theorem goOn_unknown {rule : Rule} (depth : Nat) {value : Float} {after : Scanner}
    (unknown : after.char?.bind rule.operation? = none) :
    rule.goOn depth value after = .value value after := by
  unfold Rule.goOn
  split
  · rfl
  · cases after.rest.length <;> simp [chain, unknown]

/-- Where a rule ends, it does not go on. -/
theorem goOn_ends {rule : Rule} (depth : Nat) {value : Float} {after : Scanner}
    (ends : rule.operand? ≠ none → after.place.Ends rule) :
    rule.goOn depth value after = .value value after := by
  by_cases joins : rule.operand? = none
  · simp only [Rule.goOn, joins]
  refine goOn_unknown depth ?_
  cases here : after.char? with
  | none => rfl
  | some c =>
    cases known : rule.operation? c with
    | none => simp [known]
    | some operation =>
      -- A known sign would be one with which the rule goes on.
      obtain ⟨operator, rfl, rfl, -⟩ := Rule.operation?_eq_some_iff.mp known
      have stops := ends joins operator.sign here
      cases operator <;> exact absurd stops (by decide)

/-- Reading all of a text is reading an expression, which has to end with the text if it comes to a
value; otherwise the character that is left over is a fault. -/
theorem readAll_cases (scanner : Scanner) :
    readAll scanner = read maxDepth .expression scanner ∧
        (∀ value, (readAll scanner).outcome = .ok value →
          (readAll scanner).scanner.char? = none) ∨
      ∃ value after c, read maxDepth .expression scanner = .value value after ∧
        after.char? = some c ∧
        readAll scanner = .fault (.trailingInput (some (String.singleton c))) after.position after := by
  unfold readAll Rule.read
  cases read maxDepth .expression scanner with
  -- A failure is passed on, and with a value it matters whether anything is left over.
  | mk outcome after =>
    cases outcome with
    | error failure => exact .inl ⟨rfl, nofun⟩
    | ok value =>
      simp only [Reading.andThen]
      split
      · rename_i finished
        exact .inl ⟨rfl, fun _ _ => finished⟩
      · rename_i c left
        exact .inr ⟨value, after, c, rfl, left, rfl⟩

end DeskCalc.Expression
