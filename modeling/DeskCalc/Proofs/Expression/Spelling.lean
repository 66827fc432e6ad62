import DeskCalc.Proofs.Expression.Longest

/-! Spelling: what a rule derives at one place it derives wherever the same characters stand,
whatever follows them, as long as that does not prolong a numeral. -/

namespace DeskCalc.Expression

open DeskCalc.Number

/-- What is spelled out by a class in front of other characters is the run of that class. -/
theorem Place.run_eq {place : Place} {inClass : Char → Bool} {run behind : List Char}
    (here : place.rest = run ++ behind) (members : ∀ c ∈ run, inClass c = true)
    (ends : ∀ c, behind.head? = some c → inClass c = false) :
    place.run inClass = run ∧ (place.skipRun inClass).rest = behind := by
  have stops : behind.takeWhile inClass = [] ∧ behind.dropWhile inClass = behind := by
    cases behind with
    | nil => exact ⟨rfl, rfl⟩
    | cons c tail => simp [ends c rfl]
  -- The characters of the class are all taken, and the first one behind them is not.
  constructor
  · rw [Place.run, here, List.takeWhile_append_of_pos members, stops.1, List.append_nil]
  · rw [Place.skipRun, here, List.dropWhile_append_of_pos members, stops.2]

/-- Behind the run of a class stands no character of it. -/
theorem Place.char?_skipRun {place : Place} {inClass : Char → Bool} {c : Char}
    (here : (place.skipRun inClass).char? = some c) : inClass c = false := by
  -- Where the run ends the next character is not of the class, or it would have been taken.
  have stops := List.head?_dropWhile_not inClass place.rest
  rw [show (place.rest.dropWhile inClass).head? = some c from here] at stops
  simpa using stops

/-- A place stands before its run and what is behind that. -/
theorem Place.rest_eq_run (place : Place) (inClass : Char → Bool) :
    place.rest = place.run inClass ++ (place.skipRun inClass).rest :=
  List.takeWhile_append_dropWhile.symm

/-- Wherever a word stands before other characters, a rule derives the word. -/
def Rule.Spells (rule : Rule) (word behind : List Char) : Prop :=
  ∀ start : Place, start.rest = word ++ behind →
    ∃ tree stop, Derives rule start tree stop ∧ stop.rest = behind

namespace Rule.Spells

variable {word left right behind : List Char}

/-- A single operand is spelled by the rule that joins operands. -/
theorem single {whole operand : Rule} (joins : whole.operand? = some operand)
    (spells : operand.Spells word behind) : whole.Spells word behind := by
  intro start here
  obtain ⟨tree, stop, derived, done⟩ := spells start here
  exact ⟨tree, stop, derived.single joins, done⟩

/-- An operator and one more operand go on with what is spelled by the rule that joins them. -/
theorem join {operator : Operator} {operand : Rule}
    (joins : operator.rule.operand? = some operand)
    (before : operator.rule.Spells left (operator.sign :: (right ++ behind)))
    (next : operand.Spells right behind) :
    operator.rule.Spells (left ++ operator.sign :: right) behind := by
  intro start here
  -- The first operand is spelled up to the sign, and the second one behind it.
  obtain ⟨tree, middle, derived, rest⟩ := before start (by simp [here])
  obtain ⟨operandTree, stop, operandDerived, done⟩ :=
    next middle.advance (by simp [Place.advance, rest])
  exact ⟨_, stop, derived.join joins (by simp [Place.char?, rest]) operandDerived, done⟩

/-- A sign in front of a factor makes a factor. -/
theorem signed {sign : Char} (either : sign = '+' ∨ sign = '-')
    (spells : Rule.factor.Spells word behind) : Rule.factor.Spells (sign :: word) behind := by
  intro start here
  obtain ⟨tree, stop, derived, done⟩ := spells start.advance (by simp [Place.advance, here])
  have first : start.char? = some sign := by simp [Place.char?, here]
  -- Both signs are read by the same rule, each into a tree of its own.
  rcases either with rfl | rfl
  · exact ⟨_, stop, .positive first derived, done⟩
  · exact ⟨_, stop, .negative first derived, done⟩

/-- A power is a factor. -/
theorem power (spells : Rule.power.Spells word behind) : Rule.factor.Spells word behind := by
  intro start here
  obtain ⟨tree, stop, derived, done⟩ := spells start here
  exact ⟨tree, stop, .power derived, done⟩

/-- A base is a power. -/
theorem base (spells : Rule.base.Spells word behind) : Rule.power.Spells word behind := by
  intro start here
  obtain ⟨tree, stop, derived, done⟩ := spells start here
  exact ⟨tree, stop, .base derived, done⟩

/-- A base with an exponent is a power. -/
theorem raised (before : Rule.base.Spells left ('^' :: (right ++ behind)))
    (next : Rule.factor.Spells right behind) : Rule.power.Spells (left ++ '^' :: right) behind := by
  intro start here
  -- The base is spelled up to the power sign, and the exponent behind it.
  obtain ⟨tree, middle, derived, rest⟩ := before start (by simp [here])
  obtain ⟨exponent, stop, behindDerived, done⟩ :=
    next middle.advance (by simp [Place.advance, rest])
  exact ⟨_, stop, .raised derived (by simp [Place.char?, rest]) behindDerived, done⟩

/-- A numeral that is not prolonged is a base. -/
theorem number {whole fraction : List Char} (numeral : IsNumeral word whole fraction)
    (members : ∀ c ∈ word, isNumeralChar c = true)
    (ends : ∀ c, behind.head? = some c → isNumeralChar c = false) :
    Rule.base.Spells word behind := by
  intro start here
  -- The run is the numeral alone, as nothing behind it is of its class.
  obtain ⟨run, rest⟩ := Place.run_eq here members ends
  exact ⟨_, _, .number (run.symm ▸ numeral), rest⟩

/-- An expression in parentheses is a base. -/
theorem group (spells : Rule.expression.Spells word (')' :: behind)) :
    Rule.base.Spells ('(' :: (word ++ [')'])) behind := by
  intro start here
  -- Behind the closing parenthesis nothing belongs to the base any more.
  obtain ⟨tree, last, derived, rest⟩ := spells start.advance (by simp [Place.advance, here])
  refine ⟨_, last.advance, .group (by simp [Place.char?, here]) derived ?_, ?_⟩
  · simp [Place.char?, rest]
  · simp [Place.advance, rest]

/-- A function name that is not prolonged makes a base of the factor behind it. -/
theorem call (function : NamedFunction) (spells : Rule.factor.Spells word behind)
    (ends : ∀ c, (word ++ behind).head? = some c → Text.isLetter c = false) :
    Rule.base.Spells (function.name.toList ++ word) behind := by
  intro start here
  -- A name is made of letters only, so it is the run in front of its argument.
  have letters : function.name.toList.all Text.isLetter = true := by
    cases function <;> decide +kernel
  obtain ⟨run, rest⟩ :=
    Place.run_eq (here.trans (List.append_assoc ..)) (List.all_eq_true.mp letters) ends
  obtain ⟨argument, stop, derived, done⟩ := spells (start.skipRun Text.isLetter) rest
  exact ⟨_, stop, .call run derived, done⟩

end Rule.Spells

/-- Characters can stand behind a place in the stead of its own ones:
they start with no character of numerals, or with the one that stands there anyway. -/
def Place.CanPrecede (place : Place) (behind : List Char) : Prop :=
  ∀ c, behind.head? = some c → isNumeralChar c = true → place.char? = some c

/-- What starts with the character that stands at a place can stand there. -/
theorem Place.canPrecede_of_char? {place : Place} {behind : List Char}
    (same : behind.head? = place.char?) : place.CanPrecede behind :=
  fun _ here _ => same.symm.trans here

/-- What starts with no character of numerals can stand anywhere. -/
theorem Place.canPrecede_of_ends (place : Place) {behind : List Char}
    (ends : ∀ c, behind.head? = some c → isNumeralChar c = false) : place.CanPrecede behind :=
  fun c here member => by simp [ends c here] at member

/-- What is derived is a word, and the rule spells it in front of all that can stand behind it. -/
theorem Derives.exists_spells {rule : Rule} {start stop : Place} {tree : Tree}
    (derived : Derives rule start tree stop) :
    ∃ word, start.rest = word ++ stop.rest ∧
      ∀ behind, stop.CanPrecede behind → rule.Spells word behind := by
  -- The words of the parts are put together as the derivation puts its parts together.
  have joined {operator : Operator} {operand : Rule} {start middle stop : Place}
      (joins : operator.rule.operand? = some operand) (here : middle.char? = some operator.sign)
      (first : ∃ word, start.rest = word ++ middle.rest ∧
        ∀ behind, middle.CanPrecede behind → operator.rule.Spells word behind)
      (second : ∃ word, middle.advance.rest = word ++ stop.rest ∧
        ∀ behind, stop.CanPrecede behind → operand.Spells word behind) :
      ∃ word, start.rest = word ++ stop.rest ∧
        ∀ behind, stop.CanPrecede behind → operator.rule.Spells word behind := by
    -- Behind the left word stands the sign, as it did in the text.
    obtain ⟨left, leftRest, before⟩ := first
    obtain ⟨right, rightRest, next⟩ := second
    refine ⟨left ++ operator.sign :: right, ?_, fun behind follows => ?_⟩
    · simp [leftRest, Place.rest_eq_cons here, rightRest]
    · exact .join joins (before _ (Place.canPrecede_of_char? here.symm)) (next behind follows)
  -- Induction on the derivation: each rule spells the words of its parts.
  induction derived with
  | term _ ih | factor _ ih =>
    -- A single operand is the whole word.
    obtain ⟨word, rest, spells⟩ := ih
    exact ⟨word, rest, fun behind follows => .single rfl (spells behind follows)⟩
  | sum same _ here _ first second | product same _ here _ first second =>
    rw [← same] at first ⊢
    exact joined (by rw [same]; rfl) here first second
  | positive here _ ih | negative here _ ih =>
    -- The sign is spelled in front of the word.
    obtain ⟨word, rest, spells⟩ := ih
    refine ⟨_ :: word, by rw [Place.rest_eq_cons here, rest]; rfl, fun behind follows => ?_⟩
    exact .signed (by simp) (spells behind follows)
  | power _ ih =>
    obtain ⟨word, rest, spells⟩ := ih
    exact ⟨word, rest, fun behind follows => (spells behind follows).power⟩
  | base _ ih =>
    obtain ⟨word, rest, spells⟩ := ih
    exact ⟨word, rest, fun behind follows => (spells behind follows).base⟩
  | raised _ here _ first second =>
    -- The power sign stands between the words, whatever is going to follow the exponent.
    obtain ⟨left, leftRest, before⟩ := first
    obtain ⟨right, rightRest, next⟩ := second
    refine ⟨left ++ '^' :: right, ?_, fun behind follows => ?_⟩
    · simp [leftRest, Place.rest_eq_cons here, rightRest]
    · exact .raised (before _ (Place.canPrecede_of_char? here.symm)) (next behind follows)
  | @number start whole fraction numeral =>
    refine ⟨_, start.rest_eq_run isNumeralChar, fun behind follows => ?_⟩
    have members : (start.run isNumeralChar).all isNumeralChar = true := List.all_takeWhile
    refine .number numeral (List.all_eq_true.mp members) fun c here => ?_
    -- A character of numerals would have to stand behind the run, which has taken all of them.
    refine Bool.eq_false_iff.mpr fun member => ?_
    simp [Place.char?_skipRun (follows c here member)] at member
  | group opened _ closed ih =>
    -- The word is closed by its parenthesis, so anything may follow.
    obtain ⟨word, rest, spells⟩ := ih
    refine ⟨'(' :: (word ++ [')']), ?_, fun behind _ => ?_⟩
    · simp [Place.rest_eq_cons opened, rest, Place.rest_eq_cons closed]
    · exact (spells (')' :: behind) (Place.canPrecede_of_char? closed.symm)).group
  | @call function start stop argument named derived ih =>
    obtain ⟨word, rest, spells⟩ := ih
    refine ⟨function.name.toList ++ word, ?_, fun behind follows => ?_⟩
    · rw [start.rest_eq_run Text.isLetter, named, rest, List.append_assoc]
    · -- The argument takes characters, and the first of them does not prolong the name.
      have taken := derived.length_lt
      obtain ⟨c, tail, rfl⟩ : ∃ c tail, word = c :: tail := by
        refine List.exists_cons_of_ne_nil ?_
        rintro rfl
        simp [rest] at taken
      refine .call function (spells behind follows) fun d here => ?_
      exact Place.char?_skipRun (show (start.skipRun Text.isLetter).char? = some d by
        rw [Place.char?, rest]
        exact here)

end DeskCalc.Expression
