import DeskCalc.Calculation
import DeskCalc.Proofs.Expression.Misfit

/-! Origins: a fault of a token or of an operation points at the characters that caused it,
and every fault of a calculation carries the expression as it was given. -/

namespace DeskCalc

namespace Expression

open DeskCalc.Number

/-- A run of a class stands in a text behind so many characters,
and neither the character before it nor the one behind it is of the class. -/
structure IsMaximalRun (inClass : Char → Bool) (text : List Char) (position : Nat)
    (run : List Char) : Prop where
  occupied : run ≠ []
  members : ∀ c ∈ run, inClass c = true
  stands : ∃ front behind, text = front ++ run ++ behind ∧ front.length = position ∧
    (∀ c, front.getLast? = some c → inClass c = false) ∧
    ∀ c, behind.head? = some c → inClass c = false

/-- The place behind so many characters of a text. -/
def Place.behind (text : List Char) (position : Nat) : Place :=
  ⟨text, position, text.drop position⟩

/-- A divisor without a quotient stands in a text behind so many characters, the last of which is
the slash: a factor that goes on as far as it can and has the value zero. -/
structure IsZeroDivisor (text : List Char) (position : Nat) : Prop where
  slash : ∃ before, position = before + 1 ∧ text[before]? = some '/'
  divisor : ∃ tree stop value, Derives .factor (.behind text position) tree stop ∧
    stop.Ends .factor ∧ position < stop.position ∧ tree.value = .ok value ∧ (value == 0) = true

end Expression

open Expression Number

/-- The causes that are found in a token or in an operation. -/
def Cause.hasOrigin : Cause → Bool
  | invalidNumber _ | unknownFunction _ | divisionByZero | outsideDomain _ => true
  | _ => false

/-- What stands in a text where a cause that has an origin is found. -/
def Cause.IsFoundAt (text : List Char) (position : Nat) : Cause → Prop
  | invalidNumber run => IsMaximalRun isNumeralChar text position run.toList ∧
      ∀ whole fraction, ¬ IsNumeral run.toList whole fraction
  | unknownFunction name => IsMaximalRun Text.isLetter text position name.toList ∧
      ∀ function : NamedFunction, function.name ≠ name
  | divisionByZero => IsZeroDivisor text position
  | outsideDomain message => ∃ function : NamedFunction,
      (function, .outsideDomain message) ∈ partialFunctions ∧
      IsMaximalRun Text.isLetter text position function.name.toList
  | _ => False

namespace Expression

section Runs

variable {text : List Char} {place : Place} {inClass : Char → Bool}

/-- A place that a text leads to is the one behind as many of its characters. -/
theorem Place.LeadsTo.eq_behind (leads : (Place.start text).LeadsTo place) :
    place = .behind text place.position := by
  obtain ⟨whole, counted, same⟩ := leads.take_append
  have before : (text.take place.position).length = place.position := by
    rw [List.length_take]
    omega
  -- What is left are all characters but those before the position.
  have rest : (text.take place.position ++ place.rest).drop place.position = place.rest :=
    List.drop_left' before
  rw [whole] at rest
  rw [Place.behind, rest, ← same]

/-- No run of a class goes on across a place. -/
def Place.Parts (place : Place) (inClass : Char → Bool) : Prop :=
  ∀ front c d, place.text = front ++ c :: place.rest → place.char? = some d →
    inClass c = true → inClass d = false

/-- What stands before a place that is reached over a stretch of text ends with that stretch. -/
theorem Place.LeadsTo.front_eq (leads : (Place.start text).LeadsTo place)
    {stretch rest front : List Char} {d : Char} (split : place.rest = stretch ++ rest)
    (before : place.text = front ++ d :: rest) :
    front ++ [d] = text.take place.position ++ stretch := by
  obtain ⟨whole, -, same⟩ := leads.take_append
  -- Both are the text without what is left of it behind the stretch.
  refine (List.append_left_inj rest).mp ?_
  rw [List.append_assoc, List.append_assoc, List.singleton_append, ← split, whole, ← same]
  exact before.symm

/-- Behind a character that is not of a class no run of it goes on. -/
theorem Place.LeadsTo.parts_advance (leads : (Place.start text).LeadsTo place) {c : Char}
    (here : place.char? = some c) (other : inClass c = false) : place.advance.Parts inClass := by
  intro front d _ before _ member
  -- The character before the next place is the one at this place.
  have ends : front ++ [d] = text.take place.position ++ [c] :=
    leads.front_eq (Place.rest_eq_cons here) before
  obtain ⟨-, rfl⟩ := List.append_singleton_inj.mp ends
  rw [other] at member
  cases member

/-- Behind a run of letters that is not empty no run of letters goes on, and no other one whose
class has no letters. -/
theorem Place.LeadsTo.parts_skipRun (leads : (Place.start text).LeadsTo place)
    (occupied : place.run Text.isLetter ≠ [])
    (letters : inClass = Text.isLetter ∨ ∀ c, Text.isLetter c = true → inClass c = false) :
    (place.skipRun Text.isLetter).Parts inClass := by
  intro front d next before there member
  -- The character before the place behind the run is the last one of the run.
  have ends : front ++ [d] = text.take place.position ++ place.run Text.isLetter :=
    leads.front_eq (place.rest_eq_run _) before
  obtain ⟨init, last, split⟩ := (List.eq_nil_or_concat _).resolve_left occupied
  have all : (place.run Text.isLetter).all Text.isLetter = true := List.all_takeWhile
  rw [split, List.concat_eq_append, ← List.append_assoc] at ends
  obtain ⟨-, rfl⟩ := List.append_singleton_inj.mp ends
  have letter := List.all_eq_true.mp all d (by simp [split])
  rcases letters with rfl | apart
  · exact Place.char?_skipRun there
  · rw [apart d letter] at member
    cases member

/-- The run at a place is maximal in the text when none goes on across the place. -/
theorem Place.Parts.isMaximalRun (parts : place.Parts inClass)
    (leads : (Place.start text).LeadsTo place) {c : Char} (here : place.char? = some c)
    (member : inClass c = true) :
    IsMaximalRun inClass text place.position (place.run inClass) := by
  obtain ⟨whole, counted, same⟩ := leads.take_append
  have members : (place.run inClass).all inClass = true := List.all_takeWhile
  refine ⟨?_, List.all_eq_true.mp members, text.take place.position,
    (place.skipRun inClass).rest, ?_, ?_, fun d last => ?_, fun d => Place.char?_skipRun⟩
  · simp [Place.run, Place.rest_eq_cons here, member]
  · rw [List.append_assoc, ← place.rest_eq_run, whole]
  · rw [List.length_take]
    omega
  · -- A member before the place would go on with the character at the place.
    obtain ⟨front, split⟩ := List.getLast?_eq_some_iff.mp last
    refine Bool.eq_false_iff.mpr fun before => ?_
    have stops := parts front d c (by rw [same, ← whole, split]; simp) here before
    rw [member] at stops
    cases stops

end Runs

/-- The marks with which a rule goes on are of no class of which tokens are made. -/
structure IsTokenClass (inClass : Char → Bool) : Prop where
  mark : ∀ c ∈ ['+', '-', '*', '/', '^', '('], inClass c = false
  letters : inClass = Text.isLetter ∨ ∀ c, Text.isLetter c = true → inClass c = false

theorem isTokenClass_isLetter : IsTokenClass Text.isLetter where
  mark := by
    simp only [List.forall_mem_cons, List.not_mem_nil, false_implies, implies_true]
    decide +kernel
  letters := .inl rfl

theorem isTokenClass_isNumeralChar : IsTokenClass isNumeralChar where
  mark := by
    simp only [List.forall_mem_cons, List.not_mem_nil, false_implies, implies_true]
    decide
  letters := by
    refine .inr fun c letter => Bool.eq_false_iff.mpr fun member => ?_
    -- Numeral characters come before the letters.
    have low := toNat_lt_of_isNumeralChar member
    have high := Text.le_toNat_of_isLetter letter
    omega

section Openings

variable {text : List Char} {inClass : Char → Bool} {outer inner : Opening}

/-- A rule enters another one where no token is cut off. -/
theorem Opening.Enters.parts (enters : outer.Enters inner) (tokens : IsTokenClass inClass)
    (leads : (Place.start text).LeadsTo outer.place) (parts : outer.place.Parts inClass) :
    inner.place.Parts inClass := by
  -- Either a mark has been passed last, or a name, or nothing.
  cases enters with
  | first _ | unsigned _ _ | base => exact parts
  | @next _ operator _ _ _ _ _ _ spans sign =>
    refine (leads.trans spans.derived.leadsTo).parts_advance sign (tokens.mark _ ?_)
    cases operator <;> decide
  | signed here either =>
    refine leads.parts_advance here (tokens.mark _ ?_)
    rcases either with rfl | rfl <;> decide
  | exponent spans sign =>
    exact (leads.trans spans.derived.leadsTo).parts_advance sign (tokens.mark _ (by decide))
  | inside opened => exact leads.parts_advance opened (tokens.mark _ (by decide))
  | @argument _ place function named =>
    obtain ⟨tail, name⟩ := function.name_eq_cons
    refine Place.LeadsTo.parts_skipRun leads ?_ tokens.letters
    rw [named, name]
    exact List.cons_ne_nil _ _

/-- No token is cut off where an opening is that a whole text leads to. -/
theorem Opening.LeadsTo.parts {depth : Nat} (tokens : IsTokenClass inClass)
    (leads : Opening.LeadsTo ⟨depth, .expression, .start text⟩ inner) :
    inner.place.Parts inClass := by
  induction leads with
  | refl =>
    -- Nothing stands before the start of the text.
    intro front c d before
    have longer := congrArg List.length (show text = front ++ c :: text from before)
    rw [List.length_append, List.length_cons] at longer
    omega
  | tail way enters ih => exact enters.parts tokens (Opening.LeadsTo.leadsTo way) ih

end Openings

/-- What is derived takes characters, so its end is behind its start. -/
theorem Derives.position_lt {rule : Rule} {start stop : Place} {tree : Tree}
    (derived : Derives rule start tree stop) : start.position < stop.position := by
  obtain ⟨passed, rest, position, -⟩ := derived.leadsTo
  have taken := derived.length_lt
  rw [rest, List.length_append] at taken
  omega

/-- A fault of a rule that fails by itself has its origin where it says. -/
theorem Opening.Fails.isFoundAt {depth : Nat} {text : List Char} {inner : Opening} {fault : Fault}
    (leads : Opening.LeadsTo ⟨depth, .expression, .start text⟩ inner)
    (fails : inner.Fails (.fault fault)) (origin : fault.cause.hasOrigin = true) :
    ∃ position : Nat, fault.position = some (position : Int) ∧
      fault.cause.IsFoundAt text position := by
  have here := leads.leadsTo
  cases fails with
  -- A division fails behind its slash, where the divisor has been read.
  | operation joins spans sign yields applied =>
    obtain ⟨rfl, zero, rfl⟩ := Operator.fault_of_apply applied
    obtain rfl : _ = Rule.factor := (Option.some.inj joins).symm
    have middle := here.trans spans.derived.leadsTo
    have next := middle.trans (Place.leadsTo_advance sign)
    exact ⟨_, rfl, ⟨_, rfl, (Place.LeadsTo.char?_eq middle).symm.trans sign⟩, _, _, _,
      next.eq_behind ▸ yields.derived, yields.ends Rule.factor_ne_base, yields.derived.position_lt,
      yields.value_eq, zero⟩
  -- A base that is missing has no token for its origin.
  | missing nothing =>
    simp only [missingBase] at origin
    split at origin <;> cases origin
  -- The run of digits and points is a token, which nothing prolongs in front of it.
  | numeral there member invalid =>
    refine ⟨_, rfl, ?_, ?_⟩
    · rw [String.toList_ofList]
      exact (leads.parts isTokenClass_isNumeralChar).isMaximalRun here there member
    · rw [String.toList_ofList]
      exact invalid
  -- So is the run of letters, which is the name.
  | name there letter unknown =>
    refine ⟨_, rfl, ?_, fun function same => unknown function ?_⟩
    · rw [String.toList_ofList]
      exact (leads.parts isTokenClass_isLetter).isMaximalRun here there letter
    · rw [same, String.toList_ofList]
  -- The argument has been read behind the name of the function.
  | @call _ _ _ function _ _ _ named yields applied =>
    obtain ⟨known, position⟩ := NamedFunction.fault_of_apply applied
    obtain ⟨message, cause⟩ := NamedFunction.cause_of_apply applied
    obtain ⟨tail, name⟩ := function.name_eq_cons
    obtain ⟨first, letter⟩ := Place.char?_of_run (named.trans name)
    rw [cause] at known ⊢
    refine ⟨_, position, function, known, ?_⟩
    rw [← named]
    exact (leads.parts isTokenClass_isLetter).isMaximalRun here first letter
  | parenthesis _ _ _ => cases origin

/-- A fault of an evaluation has its origin where it says. -/
theorem isFoundAt_of_evaluate {expression : String} {fault : Fault}
    (fails : evaluate expression = .error (.fault fault)) (origin : fault.cause.hasOrigin = true) :
    ∃ position : Nat, fault.position = some (position : Int) ∧
      fault.cause.IsFoundAt (Text.withoutBlanks expression) position := by
  rcases evaluate_fault_cases fails with ⟨inner, leads, failing⟩ | ⟨_, _, _, -, -, -, rfl⟩
  · exact failing.isFoundAt leads origin
  · -- What is left over is no token that was read.
    cases origin

end Expression

/-- A fault of a calculation carries the expression as it was given. It is that the expression is
blank or nested too deeply, or else the fault of the evaluation. -/
theorem fault_of_calculate {expression : String} {fault : Fault}
    (fails : (calculate (some expression)).outcome = .ok (.fault fault)) :
    fault.equation = some expression ∧ (fault.cause = .empty ∨ fault.cause = .nestedTooDeeply ∨
      ∃ found : Fault, evaluate expression = .error (.fault found) ∧
        fault.cause = found.cause ∧ fault.position = found.position) := by
  unfold calculate at fails
  simp only at fails
  split at fails
  · cases fails
    exact ⟨rfl, .inl rfl⟩
  · -- The fault is the one that was found, with the expression put to it.
    unfold Calculation.ofText evaluate at *
    cases outcome : (readAll (Scanner.start expression)).outcome with
    | ok value => simp [outcome] at fails
    | error failure =>
      cases failure with
      | fault found =>
        simp only [outcome] at fails
        cases fails
        exact ⟨rfl, .inr (.inr ⟨found, rfl, rfl, rfl⟩)⟩
      | nestedTooDeeply =>
        simp only [outcome] at fails
        cases fails
        exact ⟨rfl, .inr (.inl rfl)⟩
      | angleWithoutValue => simp [outcome] at fails

/-- Faults point at what caused them. Every fault of a calculation carries the expression as it was
given, blanks included. An invalid number is the maximal run of digits and points at its position,
and no numeral; an unknown name is the maximal run of letters there, and not that of a function;
a division by zero has its slash before the position and there a divisor that is zero; and an
argument is outside the domain of the function whose name is the maximal run of letters there. -/
theorem calculate_points_at_origin {expression : String} {fault : Fault}
    (fails : (calculate (some expression)).outcome = .ok (.fault fault)) :
    fault.equation = some expression ∧ (fault.cause.hasOrigin = true →
      ∃ position : Nat, fault.position = some (position : Int) ∧
        fault.cause.IsFoundAt (Text.withoutBlanks expression) position) := by
  obtain ⟨equation, cause⟩ := fault_of_calculate fails
  refine ⟨equation, fun origin => ?_⟩
  rcases cause with same | same | ⟨found, evaluates, same, position⟩
  · -- Neither a blank expression nor one that is nested too deeply has an origin in it.
    rw [same] at origin
    cases origin
  · rw [same] at origin
    cases origin
  · rw [same] at origin ⊢
    rw [position]
    exact isFoundAt_of_evaluate evaluates origin

/-- A division by a difference that is zero, behind the blank that is not counted. -/
theorem calculate_points_at_origin_difference :
    (calculate (some "5/ (2-2)")).outcome = .ok (.fault {
      cause := .divisionByZero, position := some 2, equation := some "5/ (2-2)" }) ∧
    IsZeroDivisor (Text.withoutBlanks "5/ (2-2)") 2 := by
  have fails : (calculate (some "5/ (2-2)")).outcome = .ok (.fault {
      cause := .divisionByZero, position := some 2, equation := some "5/ (2-2)" }) := rfl
  obtain ⟨position, same, divisor⟩ := (calculate_points_at_origin fails).2 rfl
  obtain rfl : 2 = position := Int.ofNat.inj (Option.some.inj same)
  exact ⟨fails, divisor⟩

end DeskCalc
