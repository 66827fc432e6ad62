import DeskCalc.Proofs.Expression.Admission

/-! Misfits: where a character does not fit, or the text ends too early, what stands before it
can be completed to an expression, and together with the character it cannot. -/

namespace DeskCalc

/-- The causes which say that a character or the end of the text does not fit where it stands. -/
def Cause.isMisfit : Cause → Bool
  | unexpectedCharacter _ | unmatchedParenthesis | trailingInput _ => true
  | _ => false

namespace Expression

open DeskCalc.Number

/-- The functions that are undefined somewhere, and what is said there. -/
def partialFunctions : List (NamedFunction × Cause) :=
  [(.sqrt, .negativeRoot), (.log, .nonPositiveLog), (.ln, .nonPositiveNaturalLog)]

/-- An operator only fails as a division by zero, at the position of the divisor. -/
theorem Operator.fault_of_apply {operator : Operator} {left right : Float} {position : Nat}
    {fault : Fault} (fails : operator.apply left right position = .error (.fault fault)) :
    operator = .slash ∧ (right == 0) = true ∧
      fault = { cause := .divisionByZero, position := some (position : Int) } := by
  -- Sums, differences and products do not fail.
  cases operator with
  | plus | minus | times => cases fails
  | slash =>
    simp only [Operator.apply, divide] at fails
    split at fails
    · rename_i zero
      exact ⟨rfl, zero, (Failure.fault.inj (Except.error.inj fails)).symm⟩
    · cases fails

/-- A function only fails with its own cause, at the position of its name. -/
theorem NamedFunction.fault_of_apply {function : NamedFunction} {argument : Float}
    {position : Option Int} {fault : Fault}
    (fails : function.apply argument position = .error (.fault fault)) :
    (function, fault.cause) ∈ partialFunctions ∧ fault.position = position := by
  -- Each function asks one question of its argument; an angle is refused without a fault.
  cases function with
  | sin | cos | tan =>
    simp only [apply, ofAngle] at fails
    split at fails <;> cases fails
  | sqrt =>
    simp only [apply, squareRoot] at fails
    split at fails
    · obtain rfl := Failure.fault.inj (Except.error.inj fails)
      exact ⟨by simp [partialFunctions], rfl⟩
    · cases fails
  | log | ln =>
    simp only [apply, commonLog, naturalLog, logarithm] at fails
    split at fails
    · obtain rfl := Failure.fault.inj (Except.error.inj fails)
      exact ⟨by simp [partialFunctions], rfl⟩
    · cases fails

/-- What is said where a function is undefined is that the argument is outside its domain. -/
theorem NamedFunction.cause_of_apply {function : NamedFunction} {argument : Float}
    {position : Option Int} {fault : Fault}
    (fails : function.apply argument position = .error (.fault fault)) :
    ∃ message, fault.cause = .outsideDomain message := by
  -- Each of the causes of the functions is one of those.
  have said : ∀ partial_ ∈ partialFunctions, ∃ message, partial_.2 = .outsideDomain message := by
    simp [partialFunctions, Cause.negativeRoot, Cause.nonPositiveLog, Cause.nonPositiveNaturalLog]
  exact said _ (fault_of_apply fails).1

/-- The first misfit of a text: what stands before the position can be completed to an expression,
and together with the character at the position, if there is one, it cannot. -/
structure IsFirstMisfit (text : List Char) (position : Nat) : Prop where
  within : position ≤ text.length
  completable : Completable (text.take position)
  blocked : position < text.length → ¬ Completable (text.take (position + 1))

section Places

variable {text : List Char} {place : Place}

/-- The character at a place is the one that the text has at its position. -/
theorem Place.LeadsTo.char?_eq (leads : (Place.start text).LeadsTo place) :
    place.char? = text[place.position]? := by
  obtain ⟨whole, counted, -⟩ := leads.take_append
  have before : (text.take place.position).length = place.position := by
    rw [List.length_take]
    omega
  -- In front of the place stand as many characters as the position counts.
  have found : (text.take place.position ++ place.rest)[place.position]? = place.rest.head? := by
    rw [List.getElem?_append_right (by omega), before, Nat.sub_self, List.head?_eq_getElem?]
  rw [whole] at found
  exact found.symm

/-- A place is the first misfit of a text when what stands before it can be completed,
and no text is derivable that agrees with this one up to the character at the place. -/
theorem Place.LeadsTo.isFirstMisfit (leads : (Place.start text).LeadsTo place)
    (completable : Completable (text.take place.position))
    (blocked : ∀ {c rest behind other}, place.rest = c :: rest →
      Place.Twins c rest behind (.start text) (.start other) → ¬ Derivable other) :
    IsFirstMisfit text place.position := by
  obtain ⟨whole, counted, -⟩ := leads.take_append
  refine ⟨by omega, completable, fun less completes => ?_⟩
  obtain ⟨behind, derivable⟩ := completes
  -- The text with the character at the place and anything behind it is a twin of the text.
  obtain ⟨c, rest, here⟩ : ∃ c rest, place.rest = c :: rest :=
    List.exists_cons_of_length_pos (by omega)
  have character : text[place.position]? = some c := by
    rw [← leads.char?_eq, Place.char?, here]
    rfl
  have twins : Place.Twins c rest behind (.start text)
      (.start (text.take (place.position + 1) ++ behind)) := by
    refine ⟨text.take place.position, ?_, ?_⟩
    · rw [← here]
      exact whole.symm
    · show text.take (place.position + 1) ++ behind = _
      rw [List.take_add_one, character, Option.toList_some, List.append_assoc,
        List.singleton_append]
  exact blocked here twins derivable

end Places

section Kinds

variable {depth innerDepth : Nat} {text : List Char} {place stop : Place} {tree : Tree}

/-- Where no base starts, what stands there is the first misfit. -/
theorem isFirstMisfit_missing
    (leads : Opening.LeadsTo ⟨depth, .expression, .start text⟩ ⟨innerDepth, .base, place⟩)
    (nothing : ∀ c, place.char? = some c → startsBase c = false) :
    IsFirstMisfit text place.position := by
  refine Place.LeadsTo.isFirstMisfit leads.leadsTo ?_ ?_
  · -- A digit would have been a base.
    have completes := leads.completable [] ['1']
      (place.canStart_cons (by decide +kernel) []) fun behind closes =>
        .number (.whole (by simp) rfl) (List.all_eq_true.mp rfl) fun c here => by
          rw [closes c here]
          rfl
    simpa using completes
  · intro c rest behind other left twins derivable
    obtain ⟨next, twins, tree, stop, derived, -⟩ :=
      leads.admits (left ▸ List.suffix_rfl) twins derivable.admits
    -- The twin has the same character, with which no base starts.
    obtain ⟨d, there, starts⟩ := derived.startsBase
    rw [nothing d (twins.char?_eq.symm.trans there)] at starts
    cases starts

/-- Where the expression in a parenthesis ends and is not closed,
what stands there is the first misfit. -/
theorem isFirstMisfit_unclosed
    (leads : Opening.LeadsTo ⟨depth, .expression, .start text⟩ ⟨innerDepth, .base, place⟩)
    (opened : place.char? = some '(') (inside : Derives .expression place.advance tree stop)
    (ends : stop.Ends .expression) (unclosed : stop.char? ≠ some ')') :
    IsFirstMisfit text stop.position := by
  have here : (Place.start text).LeadsTo place := leads.leadsTo
  have onward : place.LeadsTo stop := (Place.leadsTo_advance opened).trans inside.leadsTo
  refine (here.trans onward).isFirstMisfit ?_ ?_
  · -- A closing parenthesis would have made a group of it.
    obtain ⟨word, rest, spells⟩ := inside.exists_spells
    have between : place.rest = ('(' :: word) ++ stop.rest := by
      rw [Place.rest_eq_cons opened, rest]
      rfl
    rw [here.take_eq (here.trans onward) between]
    exact leads.completable _ [')'] (place.canStart_cons (by decide +kernel) _) fun behind _ =>
      (spells (')' :: behind) (Place.canPrecede_of_ends _ (by simp [isNumeralChar]))).group
  · intro c rest behind other left twins derivable
    have unread : c :: rest <:+ stop.rest := left ▸ List.suffix_rfl
    obtain ⟨next, twins, tree, last, derived, -⟩ :=
      leads.admits (unread.trans onward.suffix) twins derivable.admits
    obtain ⟨_, last, derived, closed⟩ := derived.inside (twins.char?_eq.trans opened)
    -- The inside ends at the same character for the twin, which would have to close it.
    have ended := inside.twins_stop ends
      (twins.advance opened (unread.trans (Place.LeadsTo.suffix inside.leadsTo))) unread derived
      (Place.ends_of_char closed rfl)
    exact unclosed (ended.char?_eq.symm.trans closed)

/-- Where the whole expression ends and the text does not, what stands there is the first misfit. -/
theorem isFirstMisfit_trailing (derived : Derives .expression (.start text) tree stop)
    (ends : stop.Ends .expression) : IsFirstMisfit text stop.position := by
  refine Place.LeadsTo.isFirstMisfit derived.leadsTo ?_ ?_
  · -- What has been read is an expression already.
    obtain ⟨word, rest, spells⟩ := derived.exists_spells
    have taken := (Place.LeadsTo.refl (.start text)).take_eq derived.leadsTo rest
    obtain ⟨other, last, derived, done⟩ := spells [] (by rintro _ ⟨⟩) (.start (word ++ [])) rfl
    exact ⟨[], other, last, by simpa [taken, Place.start] using derived, done⟩
  · intro c rest behind other left twins derivable
    obtain ⟨otherTree, last, otherwise, done⟩ := derivable
    -- The twin would end at the same character, but it ends with its text.
    obtain ⟨word, -, there⟩ := derived.twins_stop ends twins (left ▸ List.suffix_rfl) otherwise
      fun d here => by simp [Place.char?, done] at here
    simp [done] at there

end Kinds

/-- A rule that fails by itself because of a misfit fails at the first one of the text. -/
theorem Opening.Fails.isFirstMisfit {depth : Nat} {text : List Char} {inner : Opening}
    {fault : Fault}
    (leads : Opening.LeadsTo ⟨depth, .expression, .start text⟩ inner)
    (fails : inner.Fails (.fault fault)) (misfit : fault.cause.isMisfit = true) :
    ∃ position : Nat, fault.position = some (position : Int) ∧ IsFirstMisfit text position ∧
      (fault.cause = .unexpectedCharacter (text[position]?.map String.singleton) ∨
        fault.cause = .unmatchedParenthesis) := by
  have here := leads.leadsTo
  cases fails with
  | operation _ _ _ _ applied =>
    obtain ⟨-, -, rfl⟩ := Operator.fault_of_apply applied
    cases misfit
  | call _ _ applied =>
    obtain ⟨message, cause⟩ := NamedFunction.cause_of_apply applied
    rw [cause] at misfit
    cases misfit
  | numeral _ _ _ | name _ _ _ => cases misfit
  | @missing _ place nothing =>
    refine ⟨place.position, rfl, isFirstMisfit_missing leads nothing, .inl ?_⟩
    -- The text is not empty, or that would have been the cause.
    have character : place.char? = text[place.position]? := Place.LeadsTo.char?_eq here
    rw [← character]
    by_cases empty : place.text.isEmpty = true
    · simp only [missingBase, empty, if_true] at misfit
      cases misfit
    · exact if_neg empty
  | @parenthesis _ place stop _ _ opened yields unclosed =>
    have ends := yields.ends (by rintro ⟨⟩)
    exact ⟨stop.position, rfl,
      isFirstMisfit_unclosed leads opened yields.derived ends unclosed, .inr rfl⟩

/-- An evaluation ends with a fault where a rule fails that the expression leads to,
or because the text goes on behind the expression. -/
theorem evaluate_fault_cases {expression : String} {fault : Fault}
    (fails : evaluate expression = .error (.fault fault)) :
    (∃ inner, Opening.LeadsTo ⟨maxDepth, .expression, .start (Text.withoutBlanks expression)⟩ inner ∧
      inner.Fails (.fault fault)) ∨
    ∃ tree stop c, Derives .expression (.start (Text.withoutBlanks expression)) tree stop ∧
      stop.Ends .expression ∧ stop.char? = some c ∧
      fault = { cause := .trailingInput (some (String.singleton c)),
                position := some (stop.position : Int) } := by
  have accounted := read_accounted maxDepth .expression (Scanner.start expression)
  rcases readAll_cases (Scanner.start expression) with
    ⟨same, -⟩ | ⟨value, after, c, reads, left, same⟩
  · rw [← same] at accounted
    exact .inl (accounted.fails _ fails)
  · -- A value is only refused because of what is left over behind it.
    rw [reads] at accounted
    obtain ⟨tree, yields⟩ := accounted.yields value rfl
    have ends := yields.ends (by rintro ⟨⟩)
    rw [evaluate, same] at fails
    obtain rfl := Failure.fault.inj (Except.error.inj fails)
    exact .inr ⟨tree, after.place, c, yields.derived, ends, left, rfl⟩

/-- A misfit is blamed on the first position that does not fit: what stands before it can be
completed to an expression, and together with the character there it cannot. An unexpected
character is the one at the position, or none at the end of the text, and trailing input never
is at the end. -/
theorem evaluate_blames_first_misfit {expression : String} {fault : Fault}
    (fails : evaluate expression = .error (.fault fault)) (misfit : fault.cause.isMisfit = true) :
    ∃ position : Nat, fault.position = some (position : Int) ∧
      IsFirstMisfit (Text.withoutBlanks expression) position ∧
      (∀ character, fault.cause = .unexpectedCharacter character →
        character = (Text.withoutBlanks expression)[position]?.map String.singleton ∧
        (character = none ↔ position = (Text.withoutBlanks expression).length)) ∧
      ∀ character, fault.cause = .trailingInput character →
        position < (Text.withoutBlanks expression).length ∧
        character = (Text.withoutBlanks expression)[position]?.map String.singleton := by
  rcases evaluate_fault_cases fails with
    ⟨inner, leads, failing⟩ | ⟨tree, stop, c, derived, ends, here, rfl⟩
  · obtain ⟨position, place, first, cause | cause⟩ := failing.isFirstMisfit leads misfit
    · refine ⟨position, place, first, fun character unexpected => ?_, fun character trailing => ?_⟩
      · -- The text has no character exactly at its end, because the position lies within it.
        obtain rfl := Cause.unexpectedCharacter.inj (unexpected.symm.trans cause)
        have within := first.within
        refine ⟨rfl, ?_⟩
        rw [Option.map_eq_none_iff, List.getElem?_eq_none_iff]
        omega
      · cases trailing.symm.trans cause
    · refine ⟨position, place, first, fun character unexpected => ?_, fun character trailing => ?_⟩
      · cases unexpected.symm.trans cause
      · cases trailing.symm.trans cause
  · -- What is left over stands where the expression has ended.
    have found : (Text.withoutBlanks expression)[stop.position]? = some c :=
      (Place.LeadsTo.char?_eq derived.leadsTo).symm.trans here
    refine ⟨stop.position, rfl, isFirstMisfit_trailing derived ends, ?_, ?_⟩
    · rintro _ ⟨⟩
    · rintro _ ⟨⟩
      exact ⟨(List.getElem?_eq_some_iff.mp found).1, by rw [found]; rfl⟩

/-- A group that is not closed before a function name is a misfit, and so is its first letter. -/
theorem evaluate_blames_first_misfit_unclosed :
    evaluate "2 * (3 sin 4)" =
        .error (.fault { cause := .unmatchedParenthesis, position := some 4 }) ∧
      IsFirstMisfit (Text.withoutBlanks "2 * (3 sin 4)") 4 := by
  -- The fault is worked out, and the theorem says that it is found at the first misfit.
  have fails : evaluate "2 * (3 sin 4)" =
      .error (.fault { cause := .unmatchedParenthesis, position := some 4 }) := rfl
  obtain ⟨position, place, first, -⟩ := evaluate_blames_first_misfit fails rfl
  obtain rfl : 4 = position := Int.ofNat.inj (Option.some.inj place)
  exact ⟨fails, first⟩

end Expression

end DeskCalc
