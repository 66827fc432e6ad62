import DeskCalc.Expression.Call
import DeskCalc.Proofs.Expression.Termination

/-! Calls: whatever is asked of a scanner, it shows the character at its position and only moves
forward. Every rule that is asked for finishes, and with a value it has moved on. -/

namespace DeskCalc.Expression

namespace Scanner

/-- A scanner stands in a text: what is left is the text from its position on. -/
structure StandsIn (scanner : Scanner) (text : List Char) : Prop where
  text_eq : scanner.text = text
  rest_eq : scanner.rest = text.drop scanner.position

/-- A scanner starts in the expression without its blanks. -/
theorem start_standsIn (expression : String) :
    (start expression).StandsIn (Text.withoutBlanks expression) :=
  ⟨rfl, rfl⟩

variable {scanner after : Scanner} {text : List Char}

/-- Under a scanner is the character at its position, and none behind the end of the text. -/
theorem StandsIn.char?_eq (stands : scanner.StandsIn text) :
    scanner.char? = text[scanner.position]? := by
  rw [char?, stands.rest_eq, List.head?_drop]

theorem StandsIn.length_rest (stands : scanner.StandsIn text) :
    scanner.rest.length = text.length - scanner.position := by
  rw [stands.rest_eq, List.length_drop]

/-- Moving on by one character, also past the end, a scanner stays in its text. -/
theorem StandsIn.advance (stands : scanner.StandsIn text) : scanner.advance.StandsIn text where
  text_eq := stands.text_eq
  rest_eq := by
    simp only [Scanner.advance, stands.rest_eq, List.tail_drop]

/-- Where a scanner is led over characters it stays in its text. -/
theorem StandsIn.of_leadsTo (stands : scanner.StandsIn text)
    (leads : scanner.place.LeadsTo after.place) : after.StandsIn text := by
  obtain ⟨passed, rest, position, same⟩ := leads
  simp only [place] at rest position same
  refine ⟨same.trans stands.text_eq, ?_⟩
  -- The characters that are passed are dropped from the text as well.
  rw [position, ← List.drop_drop, ← stands.rest_eq, rest, List.drop_left]

/-- A scanner that is led over characters has not gone back, nor past the end of its text. -/
theorem StandsIn.position_bounds (stands : scanner.StandsIn text)
    (leads : scanner.place.LeadsTo after.place) :
    scanner.position ≤ after.position ∧ after.position ≤ max scanner.position text.length := by
  -- What is passed is as many characters as the position has gone on.
  have left := stands.length_rest
  obtain ⟨passed, rest, position, -⟩ := leads
  simp only [place] at rest position
  rw [rest, List.length_append] at left
  omega

/-- A scanner with less left has moved on, and stands no further than at the end of its text. -/
theorem StandsIn.position_lt (stands : scanner.StandsIn text)
    (leads : scanner.place.LeadsTo after.place) (less : after.rest.length < scanner.rest.length) :
    scanner.position < after.position ∧ after.position ≤ text.length := by
  -- Less is left, and in the text the position and what is left add up to its length.
  have left := stands.length_rest
  have leftBehind := (stands.of_leadsTo leads).length_rest
  have bounds := stands.position_bounds leads
  omega

end Scanner

/-- A rule that comes to a value has taken characters. -/
theorem read_length_lt {depth : Nat} {rule : Rule} {scanner : Scanner} {value : Float}
    (reads : (read depth rule scanner).outcome = .ok value) :
    (read depth rule scanner).scanner.rest.length < scanner.rest.length := by
  -- A value has a tree, and no tree is derived from nothing.
  obtain ⟨tree, yields⟩ := (read_accounted depth rule scanner).yields value reads
  exact yields.derived.length_lt

/-- Reading all of a text moves over characters. -/
theorem readAll_leadsTo (scanner : Scanner) :
    scanner.place.LeadsTo (readAll scanner).scanner.place := by
  -- Behind the expression nothing may follow, which is only looked at.
  have leads := read_leadsTo maxDepth .expression scanner
  rcases readAll_cases scanner with ⟨same, -⟩ | ⟨_, _, _, reads, -, same⟩
  · rw [same]
    exact leads
  · -- What is left over behind the expression is looked at and not passed.
    rw [reads] at leads
    rw [same]
    exact leads

/-- A text that comes to a value has taken characters. -/
theorem readAll_length_lt {scanner : Scanner} {value : Float}
    (reads : (readAll scanner).outcome = .ok value) :
    (readAll scanner).scanner.rest.length < scanner.rest.length := by
  -- Only a text without anything behind its expression comes to a value.
  rcases readAll_cases scanner with ⟨same, -⟩ | ⟨_, _, _, -, -, same⟩
  · rw [same] at reads ⊢
    exact read_length_lt reads
  · rw [same] at reads
    cases reads

namespace Call

variable {scanner after : Scanner} {text : List Char}

/-- A call that is answered by an outcome moves over characters, and over some if that is a value. -/
theorem ask_outcome {call : Call} {outcome : Except Failure Float}
    (asked : ask scanner call = (.outcome outcome, after)) :
    scanner.place.LeadsTo after.place ∧
      ∀ value, outcome = .ok value → after.rest.length < scanner.rest.length := by
  -- Eating and moving on come to no outcome.
  cases call with
  | advance => cases asked
  | eat expected =>
    simp only [ask] at asked
    split at asked <;> cases asked
  | rule name =>
    cases asked
    exact ⟨read_leadsTo _ _ _, fun value reads => read_length_lt reads⟩
  | all =>
    cases asked
    exact ⟨readAll_leadsTo scanner, fun value reads => readAll_length_lt reads⟩

/-- Any call leaves a scanner in its text, and not before where it was. -/
theorem ask_standsIn (stands : scanner.StandsIn text) (call : Call) :
    (ask scanner call).2.StandsIn text ∧ scanner.position ≤ (ask scanner call).2.position := by
  -- A rule leads the scanner over characters, and that way it stays in the text.
  have onward {after : Scanner} (leads : scanner.place.LeadsTo after.place) :
      after.StandsIn text ∧ scanner.position ≤ after.position :=
    ⟨stands.of_leadsTo leads, (stands.position_bounds leads).1⟩
  cases call with
  | advance => exact ⟨stands.advance, Nat.le_succ _⟩
  | eat expected =>
    -- The scanner moves on where it finds the text that is expected, and stays otherwise.
    simp only [ask, Scanner.eatText?]
    split
    · rename_i eaten
      split at eaten
      · cases eaten
        exact ⟨stands.advance, Nat.le_succ _⟩
      · cases eaten
    · exact ⟨stands, Nat.le_refl _⟩
  | rule name => exact onward (read_leadsTo _ _ _)
  | all => exact onward (readAll_leadsTo scanner)

/-- The scanners that calls pass through: the first one, and the one that each call leaves. -/
def scanners (scanner : Scanner) (calls : List Call) : List Scanner :=
  scanner :: (askAll scanner calls).map Prod.snd

/-- Calls one after the other leave a scanner in its text, and not before where it was. -/
theorem scanners_standIn (calls : List Call) : ∀ {scanner : Scanner}, scanner.StandsIn text →
    ∀ passed ∈ scanners scanner calls, passed.StandsIn text ∧ scanner.position ≤ passed.position := by
  -- The calls behind the first one start from where that leaves the scanner.
  induction calls with
  | nil =>
    intro scanner stands passed member
    obtain rfl := List.mem_singleton.mp member
    exact ⟨stands, Nat.le_refl _⟩
  | cons call rest ih =>
    intro scanner stands passed member
    -- The scanner is the first one, or one that the other calls pass through.
    rcases List.mem_cons.mp member with rfl | later
    · exact ⟨stands, Nat.le_refl _⟩
    · obtain ⟨standsBehind, onward⟩ := ask_standsIn stands call
      obtain ⟨standsThere, further⟩ := ih standsBehind passed later
      exact ⟨standsThere, Nat.le_trans onward further⟩

/-- Of the scanners that calls pass through none stands before an earlier one. -/
theorem scanners_pairwise (calls : List Call) : ∀ {scanner : Scanner}, scanner.StandsIn text →
    (scanners scanner calls).Pairwise (·.position ≤ ·.position) := by
  -- Each scanner stands before all that come behind it, so the first one does.
  induction calls with
  | nil => exact fun _ => List.pairwise_singleton _ _
  | cons call rest ih =>
    intro scanner stands
    obtain ⟨standsBehind, onward⟩ := ask_standsIn stands call
    refine List.pairwise_cons.mpr ⟨fun passed later => ?_, ih standsBehind⟩
    exact Nat.le_trans onward (scanners_standIn rest standsBehind passed later).2

/-- Whatever is asked of a scanner, and also behind calls that failed, it shows the character at
its position, or none behind the end of the expression, and it never goes back. From where it
stands every rule finishes with one reading, which is what is read unless a limit on open rules
cuts it off. No outcome leaves it past the end if it was not there already; with a value it has
moved on, and stands no further than at the end. -/
theorem askAll_moves_forward (expression : String) (calls : List Call) :
    let text := Text.withoutBlanks expression
    let passed := scanners (Scanner.start expression) calls
    (∀ scanner ∈ passed, scanner.text = text ∧ scanner.char? = text[scanner.position]?) ∧
      passed.Pairwise (·.position ≤ ·.position) ∧
      ∀ scanner ∈ passed,
        (∀ rule, ∃ reading, (∀ other, Finishes (.all rule) scanner other ↔ other = reading) ∧
          ∀ depth, read depth rule scanner = reading ∨
            (read depth rule scanner).outcome = .error .nestedTooDeeply ∧
              depth < rule.nestingBound (text.length - scanner.position)) ∧
        ∀ call outcome after, ask scanner call = (.outcome outcome, after) →
          after.position ≤ max scanner.position text.length ∧
          ∀ value, outcome = .ok value →
            scanner.position < after.position ∧ after.position ≤ text.length := by
  intro text passed
  have starts := Scanner.start_standsIn expression
  have stands {scanner : Scanner} (member : scanner ∈ passed) : scanner.StandsIn text :=
    (scanners_standIn calls starts scanner member).1
  refine ⟨fun scanner member => ⟨(stands member).text_eq, (stands member).char?_eq⟩,
    scanners_pairwise calls starts, fun scanner member => ⟨fun rule => ?_, ?_⟩⟩
  · -- Every rule has one reading, which a limit on open rules can only cut off.
    obtain ⟨reading, only⟩ := exists_finishes rule scanner
    refine ⟨reading, only, fun depth => ?_⟩
    rw [← (stands member).length_rest]
    exact ((only reading).mpr rfl).read_cases depth
  · -- An outcome comes from a rule, and with a value the rule has taken characters.
    intro call outcome after asked
    obtain ⟨leads, progress⟩ := ask_outcome asked
    refine ⟨((stands member).position_bounds leads).2, fun value found => ?_⟩
    exact (stands member).position_lt leads (progress value found)

-- A group that is not closed fails at the end, and only what is no rule moves the scanner past it.
example : (scanners (Scanner.start "( 1") [.rule .base, .eat none, .rule .term, .advance]).map
    (fun scanner => (scanner.position, scanner.char?)) =
      [(0, some '('), (2, none), (3, none), (3, none), (4, none)] := by
  decide

end Call

end DeskCalc.Expression
