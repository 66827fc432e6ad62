import DeskCalc.Proofs.Expression.Grammar

/-! Longest derivations: where no operator follows with which a rule could go on,
nothing longer is derived from the same start. -/

namespace DeskCalc.Expression

open DeskCalc.Number

namespace Place

/-- One place leads to another when only characters in between are passed. -/
def LeadsTo (start stop : Place) : Prop :=
  ∃ passed, start.rest = passed ++ stop.rest ∧
    stop.position = start.position + passed.length ∧ stop.text = start.text

theorem LeadsTo.trans {start middle stop : Place} (first : start.LeadsTo middle)
    (second : middle.LeadsTo stop) : start.LeadsTo stop := by
  -- The passed characters are put behind each other.
  obtain ⟨front, frontRest, frontPosition, frontText⟩ := first
  obtain ⟨back, backRest, backPosition, backText⟩ := second
  refine ⟨front ++ back, by simp [frontRest, backRest], ?_, backText.trans frontText⟩
  simp only [backPosition, frontPosition, List.length_append]
  omega

/-- The places that one start leads to are told apart by how much is left. -/
theorem LeadsTo.eq_of_length {start stop other : Place} (leads : start.LeadsTo stop)
    (otherwise : start.LeadsTo other) (same : stop.rest.length = other.rest.length) :
    stop = other := by
  obtain ⟨passed, rest, position, text⟩ := leads
  obtain ⟨otherPassed, otherRest, otherPosition, otherText⟩ := otherwise
  -- Two splits of one list with equally long second parts are the same split.
  obtain ⟨samePassed, sameRest⟩ := List.append_inj' (rest.symm.trans otherRest) same
  cases stop
  cases other
  simp_all

/-- A place that is not the end stands before its next character. -/
theorem rest_eq_cons {place : Place} {c : Char} (here : place.char? = some c) :
    place.rest = c :: place.advance.rest := by
  -- At the end of the text there is no character.
  cases place with
  | mk text position rest => cases rest <;> simp_all [char?, advance]

theorem leadsTo_advance {place : Place} {c : Char} (here : place.char? = some c) :
    place.LeadsTo place.advance :=
  ⟨[c], rest_eq_cons here, rfl, rfl⟩

theorem leadsTo_skipRun (place : Place) (inClass : Char → Bool) :
    place.LeadsTo (place.skipRun inClass) :=
  ⟨place.run inClass, List.takeWhile_append_dropWhile.symm, rfl, rfl⟩

/-- A run that is not empty starts with the next character, which is of its class. -/
theorem char?_of_run {place : Place} {inClass : Char → Bool} {c : Char} {tail : List Char}
    (run : place.run inClass = c :: tail) : place.char? = some c ∧ inClass c = true := by
  cases place with
  -- Only the first character of what is left decides whether the run is empty.
  | mk text position rest =>
    cases rest with
    | nil => simp [Place.run] at run
    | cons d rest =>
      simp only [Place.run, List.takeWhile_cons] at run
      split at run
      · rename_i member
        simp only [List.cons.injEq] at run
        obtain ⟨rfl, -⟩ := run
        exact ⟨rfl, member⟩
      · simp at run

end Place

/-- A numeral is not empty, and its first character is a digit or the point. -/
theorem IsNumeral.exists_cons {text whole fraction : List Char}
    (numeral : IsNumeral text whole fraction) : ∃ c tail, text = c :: tail := by
  -- In each form a digit or the point comes first.
  cases numeral with
  | whole occupied _ => exact List.exists_cons_of_ne_nil occupied
  | point occupied _ _ => exact List.exists_cons_of_ne_nil (by simp)
  | fraction _ _ => exact ⟨_, _, rfl⟩

/-- A place where a numeral starts stands before a digit or a point. -/
theorem IsNumeral.char? {start : Place} {whole fraction : List Char}
    (numeral : IsNumeral (start.run isNumeralChar) whole fraction) :
    ∃ c, start.char? = some c ∧ isNumeralChar c = true := by
  -- The run of a numeral is not empty, so it has a first character.
  obtain ⟨c, tail, run⟩ := numeral.exists_cons
  exact ⟨c, Place.char?_of_run run⟩

/-- The first letter of a function name. -/
def NamedFunction.initial : NamedFunction → Char
  | sin | sqrt => 's'
  | cos => 'c'
  | tan => 't'
  | log | ln => 'l'

theorem NamedFunction.name_eq_cons (function : NamedFunction) :
    ∃ tail, function.name.toList = function.initial :: tail := by
  -- The initials are read off the names.
  cases function <;> exact ⟨_, rfl⟩

/-- A place where a function name starts stands before its first letter. -/
theorem NamedFunction.char? {function : NamedFunction} {start : Place}
    (named : start.run Text.isLetter = function.name.toList) :
    start.char? = some function.initial := by
  -- The run spells the name, which starts with its initial.
  obtain ⟨tail, name⟩ := function.name_eq_cons
  exact (Place.char?_of_run (named.trans name)).1

/-- What a rule derives lies between its two places. -/
theorem Derives.leadsTo {rule : Rule} {start stop : Place} {tree : Tree}
    (derived : Derives rule start tree stop) : start.LeadsTo stop := by
  -- Every rule passes its characters one after the other.
  induction derived with
  | term _ ih | factor _ ih | power _ ih | base _ ih => exact ih
  | sum _ _ here _ first second | product _ _ here _ first second =>
    exact first.trans ((Place.leadsTo_advance here).trans second)
  | raised _ here _ first second =>
    exact first.trans ((Place.leadsTo_advance here).trans second)
  | positive here _ ih | negative here _ ih => exact (Place.leadsTo_advance here).trans ih
  | number _ => exact Place.leadsTo_skipRun _ _
  | group opened _ closed ih =>
    exact (Place.leadsTo_advance opened).trans (ih.trans (Place.leadsTo_advance closed))
  | call _ _ ih => exact (Place.leadsTo_skipRun _ _).trans ih

theorem Place.LeadsTo.length_le {start stop : Place} (leads : start.LeadsTo stop) :
    stop.rest.length ≤ start.rest.length := by
  -- What has been passed is no longer left.
  obtain ⟨passed, rest, -⟩ := leads
  simp [rest]

theorem Place.length_advance {place : Place} {c : Char} (here : place.char? = some c) :
    place.advance.rest.length + 1 = place.rest.length := by
  simp [rest_eq_cons here]

theorem Place.length_skipRun {place : Place} {inClass : Char → Bool} {c : Char} {tail : List Char}
    (run : place.run inClass = c :: tail) :
    (place.skipRun inClass).rest.length < place.rest.length := by
  -- The run and what is behind it make up what was left.
  have whole : place.run inClass ++ (place.skipRun inClass).rest = place.rest :=
    List.takeWhile_append_dropWhile
  rw [← whole, run]
  simp only [List.length_append, List.length_cons]
  omega

/-- The characters behind a function name are fewer than those from its start. -/
theorem NamedFunction.length_skipRun {function : NamedFunction} {start : Place}
    (named : start.run Text.isLetter = function.name.toList) :
    (start.skipRun Text.isLetter).rest.length < start.rest.length := by
  -- Names are not empty.
  obtain ⟨tail, name⟩ := function.name_eq_cons
  exact Place.length_skipRun (named.trans name)

/-- No rule derives the empty text. -/
theorem Derives.length_lt {rule : Rule} {start stop : Place} {tree : Tree}
    (derived : Derives rule start tree stop) : stop.rest.length < start.rest.length := by
  -- Every derivation goes down to a numeral, a parenthesis or a name, which take characters.
  induction derived with
  | term _ ih | factor _ ih | power _ ih | base _ ih => exact ih
  | sum _ _ here _ first second | product _ _ here _ first second =>
    have := Place.length_advance here
    omega
  | raised _ here _ first second =>
    have := Place.length_advance here
    omega
  | positive here _ ih | negative here _ ih =>
    have := Place.length_advance here
    omega
  | number numeral =>
    obtain ⟨c, tail, run⟩ := numeral.exists_cons
    exact Place.length_skipRun run
  | group opened _ closed ih =>
    have := Place.length_advance opened
    have := Place.length_advance closed
    omega
  | call named _ ih =>
    have := NamedFunction.length_skipRun named
    omega

/-- The characters with which a rule could go on behind what it has derived. -/
def Rule.goesOn : Rule → Char → Bool
  | base, c | power, c | factor, c => c == '^'
  | term, c => c == '^' || c == '*' || c == '/'
  | expression, c => c == '^' || c == '*' || c == '/' || c == '+' || c == '-'

/-- A place where a rule cannot go on. -/
def Place.Ends (place : Place) (rule : Rule) : Prop :=
  ∀ c, place.char? = some c → rule.goesOn c = false

/-- The rule of the operands that a rule joins, if it joins any. -/
def Rule.operand? : Rule → Option Rule
  | expression => some .term
  | term => some .factor
  | _ => none

/-- A single operand is derived by the rule that joins operands. -/
theorem Derives.single {whole operand : Rule} {start stop : Place} {tree : Tree}
    (joins : whole.operand? = some operand) (derived : Derives operand start tree stop) :
    Derives whole start tree stop := by
  -- There are two rules that join operands.
  cases whole <;> simp only [Rule.operand?, Option.some.injEq, reduceCtorEq] at joins <;> subst joins
  · exact .term derived
  · exact .factor derived

/-- An operator and one more operand go on with the rule that joins them. -/
theorem Derives.join {operator : Operator} {operand : Rule} {start middle stop : Place}
    {left right : Tree} (joins : operator.rule.operand? = some operand)
    (before : Derives operator.rule start left middle)
    (here : middle.char? = some operator.sign)
    (behind : Derives operand middle.advance right stop) :
    Derives operator.rule start (.binary operator left right middle.advance.position) stop := by
  -- The operator tells which of the two rules joins its operands.
  cases operator <;> simp only [Operator.rule, Rule.operand?, Option.some.injEq] at joins before ⊢
    <;> subst joins
  · exact .sum rfl before here behind
  · exact .sum rfl before here behind
  · exact .product rfl before here behind
  · exact .product rfl before here behind

/-- Joined operands start with one operand, behind which an operator leads to the others. -/
theorem Derives.first {whole operand : Rule} {start stop : Place} {tree : Tree}
    (derived : Derives whole start tree stop) (joins : whole.operand? = some operand) :
    ∃ head middle, Derives operand start head middle ∧
      (middle = stop ∨ ∃ (operator : Operator) (tail : Tree), operator.rule = whole ∧
        middle.char? = some operator.sign ∧ Derives whole middle.advance tail stop) := by
  -- The last operand joins whatever the operands before it lead to.
  induction derived with
  | term derived _ =>
    obtain rfl : Rule.term = operand := Option.some.inj joins
    exact ⟨_, _, derived, .inl rfl⟩
  | factor derived _ =>
    obtain rfl : Rule.factor = operand := Option.some.inj joins
    exact ⟨_, _, derived, .inl rfl⟩
  | sum rule _ here behind ih _ =>
    obtain ⟨head, middle, derived, rfl | ⟨operator, tail, same, there, others⟩⟩ := ih joins
    · exact ⟨head, _, derived, .inr ⟨_, _, rule, here, .term behind⟩⟩
    · exact ⟨head, middle, derived, .inr ⟨operator, _, same, there, .sum rule others here behind⟩⟩
  | product rule _ here behind ih _ =>
    obtain ⟨head, middle, derived, rfl | ⟨operator, tail, same, there, others⟩⟩ := ih joins
    · exact ⟨head, _, derived, .inr ⟨_, _, rule, here, .factor behind⟩⟩
    · exact ⟨head, middle, derived,
        .inr ⟨operator, _, same, there, .product rule others here behind⟩⟩
  | _ => simp [Rule.operand?] at joins

/-- Behind a factor that a power follows, the factor can take in the exponent. -/
theorem Derives.raise {rule : Rule} {start middle stop : Place} {tree exponent : Tree}
    (derived : Derives rule start tree middle) (tight : rule.operand? = none)
    (here : middle.char? = some '^') (behind : Derives .factor middle.advance exponent stop) :
    ∃ raised, Derives .factor start raised stop := by
  -- The exponent goes to the innermost factor that ends where the power follows.
  induction derived with
  | term _ _ | sum _ _ _ _ _ _ | factor _ _ | product _ _ _ _ _ _ => simp [Rule.operand?] at tight
  | positive sign _ ih =>
    obtain ⟨raised, longer⟩ := ih rfl here behind
    exact ⟨_, .positive sign longer⟩
  | negative sign _ ih =>
    obtain ⟨raised, longer⟩ := ih rfl here behind
    exact ⟨_, .negative sign longer⟩
  | power _ ih | base _ ih => exact ih rfl here behind
  | raised base there _ _ ih =>
    obtain ⟨raised, longer⟩ := ih rfl here behind
    exact ⟨_, .power (.raised base there longer)⟩
  | number numeral => exact ⟨_, .power (.raised (.number numeral) here behind)⟩
  | group opened inside closed _ =>
    exact ⟨_, .power (.raised (.group opened inside closed) here behind)⟩
  | call named _ ih =>
    obtain ⟨raised, longer⟩ := ih rfl here behind
    exact ⟨_, .power (.base (.call named longer))⟩

/-- A number or a group: a base that is no call. -/
inductive Atom (start : Place) : Place → Prop
  | number {whole fraction : List Char} :
      IsNumeral (start.run isNumeralChar) whole fraction → Atom start (start.skipRun isNumeralChar)
  | group {last : Place} {tree : Tree} : start.char? = some '(' →
      Derives .expression start.advance tree last → last.char? = some ')' →
      Atom start last.advance

/-- A power is a call that takes all behind the name, or an atom with or without an exponent. -/
theorem Derives.power_cases {start stop : Place} {tree : Tree}
    (derived : Derives .power start tree stop) :
    (∃ (function : NamedFunction) (argument : Tree),
      start.run Text.isLetter = function.name.toList ∧
        Derives .factor (start.skipRun Text.isLetter) argument stop) ∨
    ∃ middle, Atom start middle ∧ (middle = stop ∨ ∃ exponent, middle.char? = some '^' ∧
      Derives .factor middle.advance exponent stop) := by
  cases derived with
  | base base =>
    cases base with
    | number numeral => exact .inr ⟨_, .number numeral, .inl rfl⟩
    | group opened inside closed => exact .inr ⟨_, .group opened inside closed, .inl rfl⟩
    | call named argument => exact .inl ⟨_, _, named, argument⟩
  | raised base here exponent =>
    cases base with
    | number numeral => exact .inr ⟨_, .number numeral, .inr ⟨_, here, exponent⟩⟩
    | group opened inside closed =>
      exact .inr ⟨_, .group opened inside closed, .inr ⟨_, here, exponent⟩⟩
    | call named argument =>
      -- A call with an exponent behind it is a call of the raised argument.
      obtain ⟨raised, longer⟩ := argument.raise rfl here exponent
      exact .inl ⟨_, _, named, longer⟩

/-- An atom starts with a parenthesis or with a character of numerals. -/
theorem Atom.char? {start stop : Place} (atom : Atom start stop) :
    ∃ c, start.char? = some c ∧ (c = '(' ∨ isNumeralChar c = true) := by
  -- A numeral and a group start with different characters.
  cases atom with
  | number numeral =>
    obtain ⟨c, here, member⟩ := numeral.char?
    exact ⟨c, here, .inr member⟩
  | group opened _ _ => exact ⟨_, opened, .inl rfl⟩

/-- An atom takes characters. -/
theorem Atom.length_lt {start stop : Place} (atom : Atom start stop) :
    stop.rest.length < start.rest.length := by
  -- An atom is a base, and bases take characters.
  cases atom with
  | number numeral => exact (Derives.number numeral).length_lt
  | group opened inside closed => exact (Derives.group opened inside closed).length_lt

/-- No function name starts like an atom or like a sign. -/
theorem NamedFunction.initial_ne (function : NamedFunction) :
    function.initial ≠ '(' ∧ isNumeralChar function.initial = false ∧
      function.initial ≠ '+' ∧ function.initial ≠ '-' := by
  -- There are only six names.
  cases function <;> decide

/-- No atom starts where a function name starts. -/
theorem Atom.not_named {start stop : Place} (atom : Atom start stop) {function : NamedFunction}
    (named : start.run Text.isLetter = function.name.toList) : False := by
  -- The letter would have to be a parenthesis or a character of numerals.
  obtain ⟨c, here, kind⟩ := atom.char?
  rw [NamedFunction.char? named, Option.some.injEq] at here
  subst here
  obtain ⟨noParenthesis, noNumeral, -⟩ := function.initial_ne
  rcases kind with parenthesis | numeral
  · exact noParenthesis parenthesis
  · simp [noNumeral] at numeral

/-- A power does not start with a sign. -/
theorem Derives.power_char? {start stop : Place} {tree : Tree}
    (derived : Derives .power start tree stop) :
    ∃ c, start.char? = some c ∧ c ≠ '+' ∧ c ≠ '-' := by
  -- A power starts with a name or with an atom, and no sign does either.
  rcases derived.power_cases with ⟨function, _, named, _⟩ | ⟨_, atom, _⟩
  · exact ⟨_, NamedFunction.char? named, function.initial_ne.2.2⟩
  · obtain ⟨c, here, rfl | numeral⟩ := atom.char?
    · exact ⟨_, here, by decide, by decide⟩
    · exact ⟨c, here, by rintro rfl; exact absurd numeral (by decide),
        by rintro rfl; exact absurd numeral (by decide)⟩

/-- Places that stand before a character with which a rule cannot go on end it. -/
theorem Place.ends_of_char {place : Place} {c : Char} {rule : Rule} (here : place.char? = some c)
    (stops : rule.goesOn c = false) : place.Ends rule := by
  -- A place has only one next character.
  intro d there
  rw [here, Option.some.injEq] at there
  exact there ▸ stops

/-- A factor ends wherever no power follows. -/
theorem Place.ends_factor_iff {place : Place} : place.Ends .factor ↔ place.char? ≠ some '^' := by
  -- The exponent sign is the only character with which a factor goes on.
  constructor
  · intro ends here
    exact absurd (ends _ here) (by decide)
  · intro noPower c here
    have differs : c ≠ '^' := by
      intro same
      subst same
      exact noPower here
    simpa [Rule.goesOn] using differs

/-- Where the joined operands end, the last operand ends too. -/
theorem Place.Ends.operand {place : Place} {whole operand : Rule} (ends : place.Ends whole)
    (joins : whole.operand? = some operand) : place.Ends operand := by
  intro c here
  have stops := ends c here
  -- The characters with which the operands go on are among those of the joined operands.
  cases whole <;> simp only [Rule.operand?, Option.some.injEq, reduceCtorEq] at joins <;>
    subst joins <;> simp_all [Rule.goesOn]

/-- An operator goes on with the rule whose operands it joins, and ends the operand before it. -/
theorem Operator.goesOn_sign {operator : Operator} {operand : Rule}
    (joins : operator.rule.operand? = some operand) :
    operator.rule.goesOn operator.sign = true ∧ operand.goesOn operator.sign = false := by
  -- Each operator is one of the rule's own signs, and the operands are tighter than it.
  cases operator <;> simp only [Operator.rule, Rule.operand?, Option.some.injEq] at joins <;>
    subst joins <;> decide

/-- Nothing that starts with fewer characters left than `size` is derived beyond a place
that ends its rule. -/
def LongestBelow (size : Nat) : Prop :=
  ∀ {rule : Rule} {start stop last : Place} {tree other : Tree}, start.rest.length < size →
    Derives rule start tree stop → stop.Ends rule → Derives rule start other last →
    stop.rest.length ≤ last.rest.length

/-- Two atoms with the same start stop at the same place. -/
theorem Atom.unique {start stop last : Place} (shorter : LongestBelow start.rest.length)
    (atom : Atom start stop) (other : Atom start last) : stop = last := by
  -- A numeral and a group do not start with the same character, and equal forms stop together.
  cases atom with
  | number numeral =>
    cases other with
    | number _ => rfl
    | group opened _ _ =>
      obtain ⟨c, here, member⟩ := numeral.char?
      rw [opened, Option.some.injEq] at here
      subst here
      exact absurd member (by decide)
  | group opened inside closed =>
    cases other with
    | number numeral =>
      obtain ⟨c, here, member⟩ := numeral.char?
      rw [opened, Option.some.injEq] at here
      subst here
      exact absurd member (by decide)
    | group _ otherInside otherClosed =>
      -- Both insides end at a closing parenthesis, so neither is longer than the other.
      have less := Place.length_advance opened
      have one := shorter (by omega) inside (Place.ends_of_char closed rfl) otherInside
      have two := shorter (by omega) otherInside (Place.ends_of_char otherClosed rfl) inside
      rw [inside.leadsTo.eq_of_length otherInside.leadsTo (by omega)]

/-- The step for powers. -/
theorem Derives.longest_power {start stop last : Place} {tree other : Tree}
    (shorter : LongestBelow start.rest.length) (derived : Derives .power start tree stop)
    (ends : stop.Ends .power) (otherwise : Derives .power start other last) :
    stop.rest.length ≤ last.rest.length := by
  -- Both powers start with a call, or both with an atom, because the first character is the same.
  rcases derived.power_cases with ⟨function, argument, named, derived⟩ | ⟨middle, atom, shape⟩
  · rcases otherwise.power_cases with ⟨_, _, _, otherwise⟩ | ⟨_, atom, _⟩
    · -- Behind the same name the two arguments are compared.
      exact shorter (NamedFunction.length_skipRun named) derived ends otherwise
    · exact (atom.not_named named).elim
  · rcases otherwise.power_cases with ⟨_, _, named, _⟩ | ⟨otherMiddle, otherAtom, otherShape⟩
    · exact (atom.not_named named).elim
    · -- The two atoms stop at the same place, so what follows them is compared.
      obtain rfl := atom.unique shorter otherAtom
      rcases shape with rfl | ⟨exponent, here, derived⟩
      · rcases otherShape with rfl | ⟨_, here, _⟩
        · exact Nat.le_refl _
        · -- The place that ends the power does not stand before another exponent.
          exact absurd (ends _ here) (by decide)
      · -- Behind the exponent sign the two exponents are compared.
        have less := Place.length_advance here
        have fewer := derived.length_lt
        rcases otherShape with rfl | ⟨_, _, otherwise⟩
        · omega
        · have inside : middle.advance.rest.length < start.rest.length := by
            have := atom.length_lt
            omega
          exact shorter inside derived ends otherwise

/-- The step for factors. -/
theorem Derives.longest_factor {start stop last : Place} {tree other : Tree}
    (shorter : LongestBelow start.rest.length) (derived : Derives .factor start tree stop)
    (ends : stop.Ends .factor) (otherwise : Derives .factor start other last) :
    stop.rest.length ≤ last.rest.length := by
  -- The first character tells both derivations whether a sign comes first, and which one.
  cases derived with
  | positive here derived =>
    have less := Place.length_advance here
    cases otherwise with
    | positive _ otherwise => exact shorter (by omega) derived ends otherwise
    | negative there _ => simp [here] at there
    | power otherwise =>
      obtain ⟨c, there, noPlus, -⟩ := otherwise.power_char?
      exact absurd (Option.some.inj (there.symm.trans here)) noPlus
  | negative here derived =>
    have less := Place.length_advance here
    cases otherwise with
    | positive there _ => simp [here] at there
    | negative _ otherwise => exact shorter (by omega) derived ends otherwise
    | power otherwise =>
      obtain ⟨c, there, -, noMinus⟩ := otherwise.power_char?
      exact absurd (Option.some.inj (there.symm.trans here)) noMinus
  | power derived =>
    obtain ⟨c, here, noPlus, noMinus⟩ := derived.power_char?
    cases otherwise with
    | positive there _ => exact absurd (Option.some.inj (here.symm.trans there)) noPlus
    | negative there _ => exact absurd (Option.some.inj (here.symm.trans there)) noMinus
    | power otherwise => exact derived.longest_power shorter ends otherwise

/-- The step for joined operands, given that it holds for their operands. -/
theorem Derives.longest_joined {whole operand : Rule} {start stop last : Place} {tree other : Tree}
    (joins : whole.operand? = some operand) (shorter : LongestBelow start.rest.length)
    (single : ∀ {tree other stop last}, Derives operand start tree stop → stop.Ends operand →
      Derives operand start other last → stop.rest.length ≤ last.rest.length)
    (derived : Derives whole start tree stop) (ends : stop.Ends whole)
    (otherwise : Derives whole start other last) : stop.rest.length ≤ last.rest.length := by
  -- Both are a first operand, with an operator and more operands behind it or not.
  obtain ⟨head, middle, first, shape⟩ := derived.first joins
  obtain ⟨otherHead, otherMiddle, otherFirst, otherShape⟩ := otherwise.first joins
  have signEnds : ∀ {operator : Operator} {place : Place}, operator.rule = whole →
      place.char? = some operator.sign → place.Ends operand := by
    intro operator place same here
    subst same
    exact Place.ends_of_char here (Operator.goesOn_sign joins).2
  -- The first operand ends where its derivation stops, so the other one is no shorter.
  have firstEnds : middle.Ends operand := by
    rcases shape with rfl | ⟨operator, tail, rule, here, _⟩
    · exact ends.operand joins
    · exact signEnds rule here
  have noShorter := single first firstEnds otherFirst
  rcases otherShape with rfl | ⟨operator, otherTail, rule, here, others⟩
  · -- Only the first operand is left in the other one.
    rcases shape with rfl | ⟨_, tail, _, there, behind⟩
    · exact noShorter
    · have := behind.length_lt
      have := Place.length_advance there
      omega
  · -- An operator follows in both derivations, and at the same place.
    have noLonger := single otherFirst (signEnds rule here) first
    obtain rfl := first.leadsTo.eq_of_length otherFirst.leadsTo (by omega)
    rcases shape with rfl | ⟨_, tail, _, _, behind⟩
    · subst rule
      exact absurd (ends _ here) (by simp [(Operator.goesOn_sign joins).1])
    · have := first.length_lt
      have := Place.length_advance here
      exact shorter (by omega) behind ends others

/-- Where no operator follows with which a rule could go on, it derives nothing longer. -/
theorem Derives.longest {rule : Rule} {start stop last : Place} {tree other : Tree}
    (derived : Derives rule start tree stop) (ends : stop.Ends rule)
    (otherwise : Derives rule start other last) : stop.rest.length ≤ last.rest.length := by
  -- Induction on the characters left; at one start the rules build on each other.
  have general : ∀ size, LongestBelow size := by
    intro size
    induction size with
    -- No place has fewer characters left than none.
    | zero => intro rule start stop last tree other below; omega
    | succ size ih =>
      intro rule start stop last tree other below derived ends otherwise
      have shorter : LongestBelow start.rest.length := by
        intro rule start' stop last tree other less
        exact ih (by omega)
      have factors {tree other : Tree} {stop last : Place} (derived : Derives .factor start tree stop)
          (ends : stop.Ends .factor) (otherwise : Derives .factor start other last) :
          stop.rest.length ≤ last.rest.length :=
        derived.longest_factor shorter ends otherwise
      have terms {tree other : Tree} {stop last : Place} (derived : Derives .term start tree stop)
          (ends : stop.Ends .term) (otherwise : Derives .term start other last) :
          stop.rest.length ≤ last.rest.length :=
        derived.longest_joined rfl shorter factors ends otherwise
      cases rule with
      | expression => exact derived.longest_joined rfl shorter terms ends otherwise
      | term => exact terms derived ends otherwise
      | factor => exact factors derived ends otherwise
      | power => exact derived.longest_power shorter ends otherwise
      | base => exact Derives.longest_power shorter (.base derived) ends (.base otherwise)
  exact general _ (Nat.lt_succ_self _) derived ends otherwise

/-- No call is followed by a power: its argument has taken the exponent in. -/
def Tree.TakesExponents : Tree → Prop
  | .number _ _ => True
  | .group inside => inside.TakesExponents
  | .call _ _ argument stop => argument.TakesExponents ∧ stop.char? ≠ some '^'
  | .raised base exponent => base.TakesExponents ∧ exponent.TakesExponents
  | .positive operand | .negative operand => operand.TakesExponents
  | .binary _ left right _ => left.TakesExponents ∧ right.TakesExponents

/-- An operator between two operands is no power. -/
theorem Operator.sign_ne (operator : Operator) : operator.sign ≠ '^' := by
  -- It is a sign of its own.
  cases operator <;> decide

/-- Arguments that take exponents in are the longest ones. -/
theorem Derives.hasLongestArguments {rule : Rule} {start stop : Place} {tree : Tree}
    (derived : Derives rule start tree stop) (takes : tree.TakesExponents) :
    tree.HasLongestArguments := by
  -- Each call takes what a factor takes, and a factor that ends before no power is the longest.
  induction derived with
  | term _ ih | factor _ ih | power _ ih | base _ ih => exact ih takes
  | positive _ _ ih | negative _ _ ih | group _ _ _ ih => exact ih takes
  | sum _ _ _ _ first second | product _ _ _ _ first second | raised _ _ _ first second =>
    exact ⟨first takes.1, second takes.2⟩
  | number _ => trivial
  | call _ argument ih =>
    exact ⟨ih takes.1, fun _ _ => argument.longest (Place.ends_factor_iff.mpr takes.2)⟩

/-- Where a factor follows each exponent sign, the longest arguments take exponents in. -/
theorem Derives.takesExponents {rule : Rule} {start stop : Place} {tree : Tree}
    (derived : Derives rule start tree stop) (longest : tree.HasLongestArguments)
    (followed : stop.char? = some '^' → ∃ exponent last, Derives .factor stop.advance exponent last) :
    tree.TakesExponents := by
  -- Only calls need their length; the other trees hand the conditions on to their parts.
  induction derived with
  | term _ ih | factor _ ih | power _ ih | base _ ih => exact ih longest followed
  | positive _ _ ih | negative _ _ ih => exact ih longest followed
  | sum _ _ here _ first second | product _ _ here _ first second =>
    refine ⟨first longest.1 fun power => ?_, second longest.2 followed⟩
    -- Behind the left part stands the operator, which is no power.
    exact absurd (Option.some.inj (here.symm.trans power)) (Operator.sign_ne _)
  | raised _ _ exponent first second =>
    exact ⟨first longest.1 fun _ => ⟨_, _, exponent⟩, second longest.2 followed⟩
  | number _ => trivial
  -- A closing parenthesis is no exponent sign.
  | group _ _ closed ih => exact ih longest fun power => by simp [closed] at power
  | call _ argument ih =>
    refine ⟨ih longest.1 followed, fun power => ?_⟩
    -- Otherwise the argument raised to what follows would be longer than the longest one.
    obtain ⟨exponent, last, behind⟩ := followed power
    obtain ⟨raised, longer⟩ := argument.raise rfl power behind
    have := longest.2 _ _ longer
    have := behind.length_lt
    have := Place.length_advance power
    omega

/-- An atom has a tree that takes exponents in when the insides of groups have one. -/
theorem Atom.exists_takesExponents {start stop : Place} (atom : Atom start stop)
    (insides : ∀ {inner last : Place} {tree : Tree}, Derives .expression inner tree last →
      last.char? = some ')' → inner.rest.length < start.rest.length →
      ∃ better, Derives .expression inner better last ∧ better.TakesExponents) :
    ∃ better, Derives .base start better stop ∧ better.TakesExponents := by
  -- The inside of a group ends at its closing parenthesis, which is no power.
  cases atom with
  | number numeral => exact ⟨_, .number numeral, trivial⟩
  | group opened inside closed =>
    have := Place.length_advance opened
    obtain ⟨better, inside, takes⟩ := insides inside closed (by omega)
    exact ⟨_, .group opened inside closed, takes⟩

/-- What is derived up to a place that no power follows has a tree that takes exponents in. -/
theorem Derives.exists_takesExponents {rule : Rule} {start stop : Place} {tree : Tree}
    (derived : Derives rule start tree stop) (ends : stop.char? ≠ some '^') :
    ∃ better, Derives rule start better stop ∧ better.TakesExponents := by
  -- Induction on the characters left; only a power is taken apart in a different way.
  obtain ⟨size, below⟩ : ∃ size, start.rest.length ≤ size := ⟨_, Nat.le_refl _⟩
  induction size generalizing rule start stop tree with
  | zero =>
    have := derived.length_lt
    omega
  | succ size shorter =>
    induction derived with
    | term _ ih =>
      obtain ⟨better, derived, takes⟩ := ih ends below
      exact ⟨better, .term derived, takes⟩
    | factor _ ih =>
      obtain ⟨better, derived, takes⟩ := ih ends below
      exact ⟨better, .factor derived, takes⟩
    | power _ ih =>
      obtain ⟨better, derived, takes⟩ := ih ends below
      exact ⟨better, .power derived, takes⟩
    | base _ ih =>
      obtain ⟨better, derived, takes⟩ := ih ends below
      exact ⟨better, .base derived, takes⟩
    | sum rule before here behind ih _ =>
      have := before.length_lt
      have := Place.length_advance here
      obtain ⟨left, before, leftTakes⟩ := ih (by simp [here, Operator.sign_ne]) below
      obtain ⟨right, behind, rightTakes⟩ := shorter behind ends (by omega)
      exact ⟨_, .sum rule before here behind, leftTakes, rightTakes⟩
    | product rule before here behind ih _ =>
      have := before.length_lt
      have := Place.length_advance here
      obtain ⟨left, before, leftTakes⟩ := ih (by simp [here, Operator.sign_ne]) below
      obtain ⟨right, behind, rightTakes⟩ := shorter behind ends (by omega)
      exact ⟨_, .product rule before here behind, leftTakes, rightTakes⟩
    | positive here derived _ =>
      have := Place.length_advance here
      obtain ⟨better, derived, takes⟩ := shorter derived ends (by omega)
      exact ⟨_, .positive here derived, takes⟩
    | negative here derived _ =>
      have := Place.length_advance here
      obtain ⟨better, derived, takes⟩ := shorter derived ends (by omega)
      exact ⟨_, .negative here derived, takes⟩
    | number numeral => exact ⟨_, .number numeral, trivial⟩
    | group opened inside closed _ =>
      have := Place.length_advance opened
      obtain ⟨better, inside, takes⟩ := shorter inside (by simp [closed]) (by omega)
      exact ⟨_, .group opened inside closed, takes⟩
    | call named argument _ =>
      have := NamedFunction.length_skipRun named
      obtain ⟨better, argument, takes⟩ := shorter argument ends (by omega)
      exact ⟨_, .call named argument, takes, ends⟩
    | raised base here exponent _ _ =>
      rcases (Derives.raised base here exponent).power_cases with
        ⟨function, argument, named, derived⟩ | ⟨middle, atom, shape⟩
      · -- A call with an exponent is read as a call whose argument has taken it in.
        have := NamedFunction.length_skipRun named
        obtain ⟨better, derived, takes⟩ := shorter derived ends (by omega)
        exact ⟨_, .base (.call named derived), takes, ends⟩
      · have fewer := atom.length_lt
        obtain ⟨better, base, takes⟩ := atom.exists_takesExponents fun derived closed less =>
          shorter derived (by simp [closed]) (by omega)
        -- An atom keeps the exponent that follows it.
        rcases shape with rfl | ⟨exponent, there, derived⟩
        · exact ⟨_, .base base, takes⟩
        · have := Place.length_advance there
          obtain ⟨exponent, derived, exponentTakes⟩ := shorter derived ends (by omega)
          exact ⟨_, .raised base there derived, takes, exponentTakes⟩

end DeskCalc.Expression
