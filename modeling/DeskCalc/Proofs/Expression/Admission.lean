import DeskCalc.Proofs.Expression.Completion
import DeskCalc.Proofs.Expression.Failing

/-! Admission: which rules derive something at a place up to where they end. Texts that agree up to
a character, and with it, admit the same rules on the way there. -/

namespace DeskCalc.Expression

open DeskCalc.Number

/-- What is left at a later place is the end of what was left before. -/
theorem Place.LeadsTo.suffix {start stop : Place} (leads : start.LeadsTo stop) :
    stop.rest <:+ start.rest := by
  obtain ⟨passed, here, -⟩ := leads
  exact ⟨passed, here.symm⟩

section Twins

variable {c : Char} {rest behind : List Char}

/-- Two places stand before the same characters up to the character `c` and with it;
behind it they may have different ones. -/
def Place.Twins (c : Char) (rest behind : List Char) (first second : Place) : Prop :=
  ∃ word, first.rest = word ++ c :: rest ∧ second.rest = word ++ c :: behind

namespace Place.Twins

variable {first second : Place}

/-- Twins stand before the same character. -/
theorem char?_eq (twins : Twins c rest behind first second) : second.char? = first.char? := by
  obtain ⟨word, here, there⟩ := twins
  cases word <;> simp [Place.char?, here, there]

/-- Behind characters that one of two twins passes on the way to `c` the other one has a twin. -/
theorem pass (twins : Twins c rest behind first second) {passed left : List Char}
    (here : first.rest = passed ++ left) (unread : c :: rest <:+ left) :
    ∃ back, left = back ++ c :: rest ∧ second.rest = passed ++ (back ++ c :: behind) := by
  obtain ⟨word, firstRest, secondRest⟩ := twins
  obtain ⟨back, rfl⟩ := unread
  rw [firstRest, ← List.append_assoc] at here
  obtain rfl := List.append_cancel_right here
  exact ⟨back, rfl, by rw [secondRest, List.append_assoc]⟩

/-- Twins that have not reached `c` advance to twins. -/
theorem advance (twins : Twins c rest behind first second) {d : Char} (here : first.char? = some d)
    (unread : c :: rest <:+ first.advance.rest) :
    Twins c rest behind first.advance second.advance := by
  have one : first.rest = [d] ++ first.advance.rest := rest_eq_cons here
  obtain ⟨back, left, there⟩ := twins.pass one unread
  exact ⟨back, left, by simp [Place.advance, there]⟩

/-- Twins pass the same run of a class, unless it goes beyond `c`. -/
theorem run (twins : Twins c rest behind first second) {inClass : Char → Bool}
    (unread : c :: rest <:+ (first.skipRun inClass).rest) :
    second.run inClass = first.run inClass ∧
      Twins c rest behind (first.skipRun inClass) (second.skipRun inClass) := by
  obtain ⟨back, left, there⟩ := twins.pass (first.rest_eq_run inClass) unread
  have members : (first.run inClass).all inClass = true := List.all_takeWhile
  -- The character behind the run is the same, so it ends there for both.
  obtain ⟨same, secondRest⟩ := Place.run_eq there (List.all_eq_true.mp members) fun d here => by
    have stands : (first.skipRun inClass).char? = some d := by
      rw [Place.char?, left]
      cases back <;> simpa using here
    exact Place.char?_skipRun stands
  exact ⟨same, back, left, secondRest⟩

/-- What is derived up to a place that is not beyond `c` is derived from a twin too. -/
theorem derives (twins : Twins c rest behind first second) {rule : Rule} {tree : Tree}
    {stop : Place} (derived : Derives rule first tree stop) (unread : c :: rest <:+ stop.rest) :
    ∃ other last, Derives rule second other last ∧ Twins c rest behind stop last := by
  obtain ⟨word, here, spells⟩ := derived.exists_spells
  obtain ⟨back, left, there⟩ := twins.pass here unread
  -- Behind the word the same character follows, which prolongs no numeral.
  obtain ⟨other, last, derived, done⟩ := spells _ (Place.canPrecede_of_char? (by
    rw [Place.char?, left]
    cases back <;> rfl)) second there
  exact ⟨other, last, derived, back, left, done⟩

/-- An atom up to a place that is not beyond `c` is an atom at a twin too. -/
theorem atom (twins : Twins c rest behind first second) {stop : Place} (atom : Atom first stop)
    (unread : c :: rest <:+ stop.rest) :
    ∃ last, Atom second last ∧ Twins c rest behind stop last := by
  cases atom with
  | number numeral =>
    obtain ⟨same, twins⟩ := twins.run unread
    exact ⟨_, .number (same ▸ numeral), twins⟩
  | @group last tree opened inside closed =>
    -- All of the group comes before `c`, so both of its parentheses stand at the twin too.
    have closes : c :: rest <:+ last.rest := by
      rw [rest_eq_cons closed]
      exact unread.trans (List.suffix_cons _ _)
    have opens : c :: rest <:+ first.advance.rest :=
      closes.trans (Place.LeadsTo.suffix inside.leadsTo)
    obtain ⟨other, end_, derived, ends⟩ := (twins.advance opened opens).derives inside closes
    exact ⟨end_.advance, .group (twins.char?_eq.trans opened) derived (ends.char?_eq.trans closed),
      ends.advance closed unread⟩

end Place.Twins

end Twins

/-- An operand behind an operator is derived by whatever the rule derives from the same start
up to a place where it ends. -/
theorem Derives.operand_behind {whole operand : Rule} (joins : whole.operand? = some operand)
    {start middle stop : Place} {left tree : Tree} (before : Derives whole start left middle)
    (sign : ∃ operator : Operator, operator.rule = whole ∧ middle.char? = some operator.sign)
    (derived : Derives whole start tree stop) (ends : stop.Ends whole) :
    ∃ right last, Derives operand middle.advance right last ∧ last.Ends operand := by
  have signEnds {place : Place} (sign : ∃ operator : Operator, operator.rule = whole ∧
      place.char? = some operator.sign) : place.Ends operand := by
    obtain ⟨operator, rfl, here⟩ := sign
    exact Place.ends_of_char here (Operator.goesOn_sign joins).2
  have signGoesOn {place : Place} (sign : ∃ operator : Operator, operator.rule = whole ∧
      place.char? = some operator.sign) : ¬ place.Ends whole := by
    obtain ⟨operator, rfl, here⟩ := sign
    intro ends
    exact absurd (ends _ here) (by simp [(Operator.goesOn_sign joins).1])
  -- Induction on the characters left: the operands of both are the same ones up to the operator.
  obtain ⟨size, below⟩ : ∃ size, start.rest.length ≤ size := ⟨_, Nat.le_refl _⟩
  induction size generalizing start left tree with
  | zero =>
    have := derived.length_lt
    omega
  | succ size ih =>
    obtain ⟨head, headStop, first, shape⟩ := before.first joins
    obtain ⟨other, otherStop, otherFirst, otherShape⟩ := derived.first joins
    have headSign : ∃ operator : Operator, operator.rule = whole ∧
        headStop.char? = some operator.sign := by
      rcases shape with rfl | ⟨operator, _, rule, here, _⟩
      · exact sign
      · exact ⟨operator, rule, here⟩
    have otherEnds : otherStop.Ends operand := by
      rcases otherShape with rfl | ⟨operator, _, rule, here, _⟩
      · exact ends.operand joins
      · exact signEnds ⟨operator, rule, here⟩
    -- The first operands are no longer than each other.
    have noShorter := first.longest (signEnds headSign) otherFirst
    have noLonger := otherFirst.longest otherEnds first
    obtain rfl := first.leadsTo.eq_of_length otherFirst.leadsTo (by omega)
    rcases otherShape with rfl | ⟨_, otherTail, _, there, others⟩
    · exact absurd ends (signGoesOn headSign)
    · have := first.length_lt
      have := Place.length_advance there
      rcases shape with rfl | ⟨_, tail, _, _, rest⟩
      · -- What follows the operator is the first of the other operands.
        obtain ⟨right, last, derived, shape⟩ := others.first joins
        refine ⟨right, last, derived, ?_⟩
        rcases shape with rfl | ⟨operator, _, rule, here, _⟩
        · exact ends.operand joins
        · exact signEnds ⟨operator, rule, here⟩
      · exact ih rest others (by omega)

/-- A base that an exponent follows is an atom, because a call would have taken the exponent in. -/
theorem Derives.atom {start stop : Place} {tree : Tree} (derived : Derives .base start tree stop)
    (takes : tree.TakesExponents) (power : stop.char? = some '^') : Atom start stop := by
  cases derived with
  | number numeral => exact .number numeral
  | group opened inside closed => exact .group opened inside closed
  | call _ _ => exact absurd power takes.2

/-- The exponent behind an atom is derived by whatever power is derived from the same start
up to a place where it ends. -/
theorem Derives.exponent_behind {start middle stop : Place} {tree : Tree} (atom : Atom start middle)
    (power : middle.char? = some '^') (derived : Derives .power start tree stop)
    (ends : stop.Ends .power) : ∃ exponent, Derives .factor middle.advance exponent stop := by
  -- The power starts with the same atom, behind which it cannot have ended.
  rcases derived.power_cases with ⟨function, _, named, _⟩ | ⟨other, otherAtom, shape⟩
  · exact (atom.not_named named).elim
  · obtain rfl := atom.unique (fun _ derived ends => derived.longest ends) otherAtom
    rcases shape with rfl | ⟨exponent, _, behind⟩
    · exact absurd (ends _ power) (by decide)
    · exact ⟨exponent, behind⟩

/-- Bases are not joined of operands. -/
theorem Rule.ne_base_of_joins {whole operand : Rule} (joins : whole.operand? = some operand) :
    whole ≠ .base := by
  rintro rfl
  cases joins

/-- At a place a rule is admitted when it derives something up to a place where it ends. -/
def Place.Admits (place : Place) (rule : Rule) : Prop :=
  ∃ tree stop, Derives rule place tree stop ∧ tree.TakesExponents ∧
    (rule ≠ .base → stop.Ends rule)

/-- Every rule could go on with an exponent. -/
theorem Rule.goesOn_power (rule : Rule) : rule.goesOn '^' = true := by
  cases rule <;> rfl

/-- What is derived up to a place where its rule ends is admitted. -/
theorem Derives.admits {rule : Rule} {start stop : Place} {tree : Tree}
    (derived : Derives rule start tree stop) (ends : stop.Ends rule) : start.Admits rule := by
  have noPower : stop.char? ≠ some '^' := fun power => by
    simpa [rule.goesOn_power] using ends _ power
  obtain ⟨better, derived, takes⟩ := derived.exists_takesExponents noPower
  exact ⟨better, stop, derived, takes, fun _ => ends⟩

/-- A derivable text admits an expression at its start. -/
theorem Derivable.admits {text : List Char} (derivable : Derivable text) :
    (Place.start text).Admits .expression := by
  obtain ⟨tree, stop, derived, done⟩ := derivable
  exact derived.admits fun d here => by simp [Place.char?, done] at here

/-- A base starts with one of the characters for it. -/
theorem Derives.startsBase {start stop : Place} {tree : Tree}
    (derived : Derives .base start tree stop) :
    ∃ d, start.char? = some d ∧ Expression.startsBase d = true := by
  -- Each kind of base has a first character of its own.
  cases derived with
  | number numeral =>
    obtain ⟨d, here, member⟩ := numeral.char?
    exact ⟨d, here, by simp [Expression.startsBase, member]⟩
  | group opened _ _ => exact ⟨_, opened, rfl⟩
  | @call function _ _ _ named _ =>
    obtain ⟨tail, name⟩ := function.name_eq_cons
    obtain ⟨here, letter⟩ := Place.char?_of_run (named.trans name)
    exact ⟨_, here, by simp [Expression.startsBase, letter]⟩

/-- Behind an opening parenthesis a base admits an expression up to the closing one. -/
theorem Derives.inside {start stop : Place} {tree : Tree} (derived : Derives .base start tree stop)
    (opened : start.char? = some '(') : ∃ inside last,
      Derives .expression start.advance inside last ∧ last.char? = some ')' := by
  -- Neither a numeral nor a name starts with a parenthesis.
  cases derived with
  | number numeral =>
    obtain ⟨d, here, member⟩ := numeral.char?
    rw [opened, Option.some.injEq] at here
    subst here
    exact absurd member (by decide)
  | group _ inside closed => exact ⟨_, _, inside, closed⟩
  | @call function _ _ _ named _ =>
    rw [NamedFunction.char? named, Option.some.injEq] at opened
    exact absurd opened function.initial_ne.1

/-- Behind a function name a base admits a factor. -/
theorem Derives.argument {start stop : Place} {tree : Tree}
    (derived : Derives .base start tree stop) (takes : tree.TakesExponents) {function : NamedFunction}
    (named : start.run Text.isLetter = function.name.toList) :
    (start.skipRun Text.isLetter).Admits .factor := by
  cases derived with
  | number numeral => exact ((Atom.number numeral).not_named named).elim
  | group opened inside closed => exact ((Atom.group opened inside closed).not_named named).elim
  | call _ behind => exact ⟨_, _, behind, takes.1, fun _ => Place.ends_factor_iff.mpr takes.2⟩

/-- Behind a sign a factor admits a factor. -/
theorem Derives.signed {start stop : Place} {tree : Tree} {sign : Char}
    (derived : Derives .factor start tree stop) (ends : stop.Ends .factor)
    (here : start.char? = some sign) (either : sign = '+' ∨ sign = '-') :
    start.advance.Admits .factor := by
  -- A power does not start with a sign.
  cases derived with
  | positive _ behind | negative _ behind => exact behind.admits ends
  | power derived =>
    obtain ⟨d, there, noPlus, noMinus⟩ := derived.power_char?
    rw [here, Option.some.injEq] at there
    subst there
    rcases either with same | same
    · exact absurd same noPlus
    · exact absurd same noMinus

namespace Opening

variable {c : Char} {rest behind : List Char}

/-- Where a rule enters another one that is not beyond `c`, a twin that admits the first rule
has behind the same characters a twin that admits the second one. -/
theorem Enters.admits {outer inner : Opening} (enters : outer.Enters inner)
    (unread : c :: rest <:+ inner.place.rest) {place : Place}
    (twins : Place.Twins c rest behind outer.place place) (admits : place.Admits outer.rule) :
    ∃ next, Place.Twins c rest behind inner.place next ∧ next.Admits inner.rule := by
  obtain ⟨tree, stop, derived, takes, ends⟩ := admits
  -- Behind an advance less is left, so what comes before it is not beyond `c` either.
  have before {middle : Place} {d : Char} (here : middle.char? = some d)
      (unread : c :: rest <:+ middle.advance.rest) : c :: rest <:+ middle.rest := by
    rw [Place.rest_eq_cons here]
    exact unread.trans (List.suffix_cons _ _)
  cases enters with
  | first joins =>
    obtain ⟨head, middle, first, shape⟩ := derived.first joins
    have wholeEnds := ends (Rule.ne_base_of_joins joins)
    refine ⟨place, twins, first.admits ?_⟩
    rcases shape with rfl | ⟨operator, _, rfl, here, _⟩
    · exact wholeEnds.operand joins
    · exact Place.ends_of_char here (Operator.goesOn_sign joins).2
  | @next _ operator _ _ _ _ _ joins spans sign =>
    obtain ⟨left, middle, derivedLeft, twins⟩ := twins.derives spans.derived (before sign unread)
    have same := twins.char?_eq.trans sign
    obtain ⟨right, last, behind, ends⟩ := derivedLeft.operand_behind joins
      ⟨operator, rfl, same⟩ derived (ends (Rule.ne_base_of_joins joins))
    exact ⟨middle.advance, twins.advance sign unread, behind.admits ends⟩
  | signed here either =>
    exact ⟨place.advance, twins.advance here unread,
      derived.signed (ends Rule.factor_ne_base) (twins.char?_eq.trans here) either⟩
  | unsigned noPlus noMinus =>
    refine ⟨place, twins, ?_⟩
    cases derived with
    | positive here _ => exact absurd (twins.char?_eq.symm.trans here) noPlus
    | negative here _ => exact absurd (twins.char?_eq.symm.trans here) noMinus
    | power derived => exact ⟨_, _, derived, takes, fun _ => ends Rule.factor_ne_base⟩
  | base =>
    refine ⟨place, twins, ?_⟩
    cases derived with
    | base derived => exact ⟨_, _, derived, takes, absurd rfl⟩
    | raised derived _ _ => exact ⟨_, _, derived, takes.1, absurd rfl⟩
  | exponent spans sign =>
    obtain ⟨middle, atom, twins⟩ :=
      twins.atom (spans.derived.atom spans.takes sign) (before sign unread)
    obtain ⟨exponent, behind⟩ :=
      derived.exponent_behind atom (twins.char?_eq.trans sign) (ends Rule.power_ne_base)
    exact ⟨middle.advance, twins.advance sign unread, behind.admits (ends Rule.power_ne_base)⟩
  | inside opened =>
    obtain ⟨inside, last, derived, closed⟩ := derived.inside (twins.char?_eq.trans opened)
    exact ⟨place.advance, twins.advance opened unread,
      derived.admits (Place.ends_of_char closed rfl)⟩
  | argument named =>
    obtain ⟨same, twins⟩ := twins.run unread
    exact ⟨_, twins, derived.argument takes (same.trans named)⟩

/-- A twin of the start that admits the first rule has a twin for every opening on the way to `c`. -/
theorem LeadsTo.admits {outer inner : Opening} (leads : outer.LeadsTo inner)
    (unread : c :: rest <:+ inner.place.rest) {place : Place}
    (twins : Place.Twins c rest behind outer.place place) (admits : place.Admits outer.rule) :
    ∃ next, Place.Twins c rest behind inner.place next ∧ next.Admits inner.rule := by
  -- The openings on the way are not beyond `c`, because the last one is not.
  induction leads with
  | refl => exact ⟨place, twins, admits⟩
  | tail _ enters ih =>
    obtain ⟨middle, twins, admits⟩ := ih (unread.trans (Place.LeadsTo.suffix enters.leadsTo))
    exact enters.admits unread twins admits

end Opening

/-- Where a rule ends that is derived on the way to `c`, there it ends for a twin too. -/
theorem Derives.twins_stop {c : Char} {rest behind : List Char} {rule : Rule}
    {first second stop last : Place} {tree other : Tree}
    (derived : Derives rule first tree stop) (ends : stop.Ends rule)
    (twins : Place.Twins c rest behind first second) (unread : c :: rest <:+ stop.rest)
    (otherwise : Derives rule second other last) (otherEnds : last.Ends rule) :
    Place.Twins c rest behind stop last := by
  -- The twin of the derivation ends where the other one does, because both are the longest ones.
  obtain ⟨twin, twinStop, twinDerived, stops⟩ := twins.derives derived unread
  have twinEnds : twinStop.Ends rule := fun d here => ends d (stops.char?_eq.symm.trans here)
  have noShorter := twinDerived.longest twinEnds otherwise
  have noLonger := otherwise.longest otherEnds twinDerived
  obtain rfl := twinDerived.leadsTo.eq_of_length otherwise.leadsTo (by omega)
  exact stops

end DeskCalc.Expression
