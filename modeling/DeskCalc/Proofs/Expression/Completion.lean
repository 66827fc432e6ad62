import DeskCalc.Proofs.Expression.Opening
import DeskCalc.Proofs.Expression.Spelling

/-! Completion: what has been read on the way to an opening can be completed to an expression,
by a word of the rule that is open and the parentheses that have to be closed. -/

namespace DeskCalc.Expression

open DeskCalc.Number

/-- A word can stand at a place: it is not empty,
and it starts with no letter unless that letter stands there anyway. -/
def Place.CanStart (place : Place) (word : List Char) : Prop :=
  ∃ c tail, word = c :: tail ∧ (Text.isLetter c = true → place.char? = some c)

/-- A word that starts with no letter can stand anywhere. -/
theorem Place.canStart_cons (place : Place) {c : Char} (noLetter : Text.isLetter c = false)
    (tail : List Char) : place.CanStart (c :: tail) :=
  ⟨c, tail, rfl, fun letter => by simp [noLetter] at letter⟩

/-- A word that can stand at a place can stand at an earlier one, behind the characters between. -/
theorem Place.CanStart.append {start middle : Place} {word : List Char}
    (starts : middle.CanStart word) {passed : List Char} (here : start.rest = passed ++ middle.rest) (closing : List Char) :
    start.CanStart (passed ++ word ++ closing) := by
  -- Either characters are passed, the first of which stands there, or both places are the same.
  cases passed with
  | cons c tail => exact ⟨c, tail ++ word ++ closing, rfl, fun _ => by simp [Place.char?, here]⟩
  | nil =>
    obtain ⟨c, tail, rfl, letter⟩ := starts
    refine ⟨c, tail ++ closing, rfl, fun member => ?_⟩
    rw [Place.char?, here]
    exact letter member

/-- A text can be completed: an expression starts with it. -/
def Completable (text : List Char) : Prop :=
  ∃ behind, Derivable (text ++ behind)

namespace Opening

/-- An opening awaits another one: a word that the other one spells completes what has been passed
on the way to it, once some parentheses are closed. -/
def Awaits (outer inner : Opening) : Prop :=
  ∃ passed closing, outer.place.rest = passed ++ inner.place.rest ∧ (∀ c ∈ closing, c = ')') ∧
    ∀ word behind, inner.place.CanStart word → inner.rule.Spells word (closing ++ behind) →
      outer.rule.Spells (passed ++ word ++ closing) behind

/-- An opening awaits itself. -/
theorem Awaits.refl (opening : Opening) : opening.Awaits opening :=
  ⟨[], [], rfl, by simp, fun word behind _ spells => by simpa using spells⟩

/-- What is awaited by something awaited is awaited. -/
theorem Awaits.trans {outer middle inner : Opening} (first : outer.Awaits middle)
    (second : middle.Awaits inner) : outer.Awaits inner := by
  -- The inner parentheses are closed before the outer ones.
  obtain ⟨front, outerClosing, frontRest, outerCloses, outerSpells⟩ := first
  obtain ⟨back, innerClosing, backRest, innerCloses, innerSpells⟩ := second
  refine ⟨front ++ back, innerClosing ++ outerClosing, by simp [frontRest, backRest], ?_, ?_⟩
  · intro c member
    rcases List.mem_append.mp member with inside | outside
    · exact innerCloses c inside
    · exact outerCloses c outside
  · intro word behind starts spells
    rw [List.append_assoc] at spells
    have completed := outerSpells _ behind (starts.append backRest innerClosing)
      (innerSpells word (outerClosing ++ behind) starts spells)
    simpa [List.append_assoc] using completed

/-- A rule awaits the rule that it enters. -/
theorem Enters.awaits {outer inner : Opening} (enters : outer.Enters inner) :
    outer.Awaits inner := by
  -- Only behind an opening parenthesis another one has to be closed.
  have plain {outer inner : Opening} (passed : List Char)
      (rest : outer.place.rest = passed ++ inner.place.rest)
      (spells : ∀ word behind, inner.place.CanStart word → inner.rule.Spells word behind →
        outer.rule.Spells (passed ++ word) behind) : outer.Awaits inner :=
    ⟨passed, [], rest, by simp, fun word behind starts inside => by
      simpa using spells word behind starts inside⟩
  cases enters with
  | first joins => exact plain [] rfl fun _ _ _ spells => .single joins spells
  | @next depth operator operand place middle left value joins spans sign =>
    obtain ⟨before, rest, spelled⟩ := spans.derived.exists_spells
    refine plain (before ++ [operator.sign]) ?_ fun word behind _ spells => ?_
    · exact rest.trans (by simp [Place.rest_eq_cons sign])
    · rw [List.append_assoc]
      exact .join joins (spelled _ (Place.canPrecede_of_char? sign.symm)) spells
  | @signed depth place sign here either =>
    exact plain [sign] (Place.rest_eq_cons here) fun _ _ _ spells =>
      .signed either spells
  | unsigned _ _ => exact plain [] rfl fun _ _ _ spells => spells.power
  | base => exact plain [] rfl fun _ _ _ spells => spells.base
  | exponent spans sign =>
    obtain ⟨before, rest, spelled⟩ := spans.derived.exists_spells
    refine plain (before ++ ['^']) ?_ fun word behind _ spells => ?_
    · exact rest.trans (by simp [Place.rest_eq_cons sign])
    · rw [List.append_assoc]
      exact .raised (spelled _ (Place.canPrecede_of_char? sign.symm)) spells
  | inside opened =>
    refine ⟨['('], [')'], Place.rest_eq_cons opened, by simp, fun word behind _ spells => ?_⟩
    exact spells.group
  | @argument depth place function named =>
    refine plain function.name.toList ?_ fun word behind starts spells => ?_
    · rw [← named]
      exact place.rest_eq_run Text.isLetter
    · -- A letter at the start of the word would be the one behind the name, where none stands.
      obtain ⟨c, tail, rfl, letter⟩ := starts
      refine .call function spells fun d here => ?_
      obtain rfl : c = d := Option.some.inj here
      refine Bool.eq_false_iff.mpr fun member => ?_
      simp [Place.char?_skipRun (letter member)] at member

/-- An opening awaits every opening that it leads to. -/
theorem LeadsTo.awaits {outer inner : Opening} (leads : outer.LeadsTo inner) :
    outer.Awaits inner := by
  induction leads with
  | refl => exact .refl outer
  | tail _ enters ih => exact ih.trans enters.awaits

/-- A rule that enters another one has passed the characters up to it. -/
theorem Enters.leadsTo {outer inner : Opening} (enters : outer.Enters inner) :
    outer.place.LeadsTo inner.place := by
  -- The characters of the parts that have been read lie one behind the other.
  cases enters with
  | first _ | unsigned _ _ | base => exact .refl _
  | next _ spans sign | exponent spans sign =>
    exact spans.derived.leadsTo.trans (Place.leadsTo_advance sign)
  | signed here _ | inside here => exact Place.leadsTo_advance here
  | argument _ => exact Place.leadsTo_skipRun _ _

/-- Up to every opening that a rule leads to characters have been passed. -/
theorem LeadsTo.leadsTo {outer inner : Opening} (leads : outer.LeadsTo inner) :
    outer.place.LeadsTo inner.place := by
  induction leads with
  | refl => exact .refl _
  | tail _ enters ih => exact ih.trans enters.leadsTo

end Opening

/-- A place in a text divides it into the characters before it and those that are left. -/
theorem Place.LeadsTo.take_append {text : List Char} {place : Place}
    (leads : (Place.start text).LeadsTo place) :
    text.take place.position ++ place.rest = text ∧
      place.position + place.rest.length = text.length ∧ place.text = text := by
  obtain ⟨passed, rest, position, same⟩ := leads
  -- The position counts the characters that have been passed.
  have whole : text = passed ++ place.rest := rest
  have counted : place.position = passed.length := by simpa [Place.start] using position
  refine ⟨?_, ?_, same⟩
  · rw [counted, whole, List.take_left]
  · rw [counted, whole, List.length_append]

/-- Before a later place stand the characters before an earlier one and those between. -/
theorem Place.LeadsTo.take_eq {text : List Char} {place stop : Place}
    (leads : (Place.start text).LeadsTo place) (onward : (Place.start text).LeadsTo stop)
    {passed : List Char} (between : place.rest = passed ++ stop.rest) :
    text.take stop.position = text.take place.position ++ passed := by
  have whole : text.take stop.position ++ stop.rest =
      text.take place.position ++ passed ++ stop.rest := by
    rw [onward.take_append.1, List.append_assoc, ← between, leads.take_append.1]
  exact List.append_cancel_right whole

/-- What has been passed on the way to an opening can be completed from there on. -/
theorem Opening.LeadsTo.completable {depth : Nat} {text : List Char} {inner : Opening}
    (leads : Opening.LeadsTo ⟨depth, .expression, .start text⟩ inner) (front back : List Char)
    (starts : inner.place.CanStart (front ++ back))
    (spells : ∀ behind, (∀ c, behind.head? = some c → c = ')') →
      inner.rule.Spells (front ++ back) behind) :
    Completable (text.take inner.place.position ++ front) := by
  obtain ⟨passed, closing, rest, closes, completes⟩ := leads.awaits
  -- The characters passed are those before the position.
  have taken : text.take inner.place.position = passed := by
    simpa [Place.start] using (Place.LeadsTo.refl (.start text)).take_eq leads.leadsTo rest
  have whole := completes (front ++ back) [] starts
    (spells _ fun c here => closes c (List.mem_of_mem_head? (by simpa using here)))
  obtain ⟨tree, stop, derived, done⟩ := whole (.start (passed ++ (front ++ back) ++ closing))
    (by simp [Place.start])
  refine ⟨back ++ closing, tree, stop, ?_, done⟩
  rw [taken]
  simpa [List.append_assoc] using derived

end DeskCalc.Expression
