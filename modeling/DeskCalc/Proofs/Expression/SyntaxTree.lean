import DeskCalc.Proofs.Expression.Soundness

/-! Syntax trees of whole texts: an expression is evaluated to the value of its syntax tree,
and a text without a syntax tree has no value. -/

namespace DeskCalc.Expression

open DeskCalc.Number

/-- The syntax trees of a text are those whose calls take exponents in. -/
theorem isSyntaxTree_iff {text : List Char} {tree : Tree} :
    IsSyntaxTree text tree ↔ tree.TakesExponents ∧
      ∃ stop, Derives .expression (.start text) tree stop ∧ stop.rest = [] := by
  constructor
  · intro parses
    obtain ⟨longest, stop, derived, done⟩ := parses
    -- No power follows where the text ends.
    refine ⟨derived.takesExponents longest fun power => ?_, stop, derived, done⟩
    simp [Place.char?, done] at power
  · intro parses
    obtain ⟨takes, stop, derived, done⟩ := parses
    exact ⟨derived.hasLongestArguments takes, stop, derived, done⟩

/-- An expression comes to the value of its syntax tree when that is not nested too deeply. -/
theorem IsSyntaxTree.evaluate_eq {expression : String} {tree : Tree}
    (parses : IsSyntaxTree (Text.withoutBlanks expression) tree)
    (room : tree.nesting .expression ≤ maxDepth) : evaluate expression = tree.value := by
  obtain ⟨takes, stop, derived, done⟩ := isSyntaxTree_iff.mp parses
  -- Where the text ends there is no character to go on with.
  have ends : stop.Ends .expression := by
    intro c here
    simp [Place.char?, done] at here
  have gives := derived.read_gives takes (fun _ => ends) room
    (show (Scanner.start expression).place = .start (Text.withoutBlanks expression) from rfl)
  -- The reading stops where the text ends, so nothing is left over.
  have all : (readAll (Scanner.start expression)).Gives tree.value stop := by
    refine gives.andThen_ok fun value after reached => ?_
    have finished : after.char? = none := by
      rw [← Scanner.place_char?, reached]
      simp [Place.char?, done]
    rw [← reached, finished]
    exact Reading.value_gives value after
  exact all.outcome_eq

/-- An expression that comes to a value has a syntax tree with that value. -/
theorem exists_isSyntaxTree_of_evaluate_eq_ok {expression : String} {found : Float}
    (evaluates : evaluate expression = .ok found) :
    ∃ tree, IsSyntaxTree (Text.withoutBlanks expression) tree ∧ tree.value = .ok found ∧
      tree.nesting .expression ≤ maxDepth := by
  have accounted := read_accounted maxDepth .expression (Scanner.start expression)
  rcases readAll_cases (Scanner.start expression) with ⟨same, ends⟩ | ⟨_, _, _, -, -, same⟩
  · -- What is read is accounted for, and it ends where the text does.
    rw [← same] at accounted
    obtain ⟨tree, ⟨derived, takes, value_eq, room⟩, -⟩ := accounted.yields found evaluates
    have done : (readAll (Scanner.start expression)).scanner.place.rest = [] := by
      simpa [Scanner.char?, Scanner.place] using ends found evaluates
    exact ⟨tree, isSyntaxTree_iff.mpr ⟨takes, _, derived, done⟩, value_eq, room⟩
  · rw [evaluate, same] at evaluates
    cases evaluates

end DeskCalc.Expression
