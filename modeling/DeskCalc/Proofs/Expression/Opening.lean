import DeskCalc.Proofs.Expression.Reading
import Mathlib.Logic.Relation

/-! Openings: which rules are opened inside which while an expression is read,
and where one of them fails by itself. -/

namespace DeskCalc.Expression

open DeskCalc.Number

/-- A rule that is open at a place, while no more than `depth` rules may be open from it on. -/
structure Opening where
  depth : Nat
  rule : Rule
  place : Place

namespace Opening

/-- A tree with a value is derived from an opening up to a stop, and there is room for it. -/
structure Spans (opening : Opening) (tree : Tree) (value : Float) (stop : Place) : Prop where
  derived : Derives opening.rule opening.place tree stop
  takes : tree.TakesExponents
  value_eq : tree.value = .ok value
  room : tree.nesting opening.rule ≤ opening.depth

/-- The rule of an opening is done with a tree: it cannot go on behind it. -/
structure Yields (opening : Opening) (tree : Tree) (value : Float) (stop : Place) : Prop
    extends opening.Spans tree value stop where
  ends : opening.rule ≠ .base → stop.Ends opening.rule

/-- A rule enters another one: its first operand, or one behind what it has read so far. -/
inductive Enters : Opening → Opening → Prop
  | first {depth : Nat} {whole operand : Rule} {place : Place} :
      whole.operand? = some operand → Enters ⟨depth + 1, whole, place⟩ ⟨depth, operand, place⟩
  | next {depth : Nat} {operator : Operator} {operand : Rule} {place middle : Place} {left : Tree}
      {value : Float} : operator.rule.operand? = some operand →
      Spans ⟨depth + 1, operator.rule, place⟩ left value middle →
      middle.char? = some operator.sign →
      Enters ⟨depth + 1, operator.rule, place⟩ ⟨depth, operand, middle.advance⟩
  | signed {depth : Nat} {place : Place} {sign : Char} : place.char? = some sign →
      sign = '+' ∨ sign = '-' → Enters ⟨depth + 1, .factor, place⟩ ⟨depth, .factor, place.advance⟩
  | unsigned {depth : Nat} {place : Place} : place.char? ≠ some '+' → place.char? ≠ some '-' →
      Enters ⟨depth + 1, .factor, place⟩ ⟨depth, .power, place⟩
  | base {depth : Nat} {place : Place} : Enters ⟨depth + 1, .power, place⟩ ⟨depth, .base, place⟩
  | exponent {depth : Nat} {place middle : Place} {base : Tree} {value : Float} :
      Spans ⟨depth, .base, place⟩ base value middle → middle.char? = some '^' →
      Enters ⟨depth + 1, .power, place⟩ ⟨depth, .factor, middle.advance⟩
  | inside {depth : Nat} {place : Place} : place.char? = some '(' →
      Enters ⟨depth + 1, .base, place⟩ ⟨depth, .expression, place.advance⟩
  | argument {depth : Nat} {place : Place} {function : NamedFunction} :
      place.run Text.isLetter = function.name.toList →
      Enters ⟨depth + 1, .base, place⟩ ⟨depth, .factor, place.skipRun Text.isLetter⟩

/-- An opening leads to another one through any number of rules in between. -/
abbrev LeadsTo : Opening → Opening → Prop :=
  Relation.ReflTransGen Enters

/-- What is wrong where no base starts: all of the text is missing, or this character is. -/
def missingBase (place : Place) : Cause :=
  if place.text.isEmpty then .empty else .unexpectedCharacter (place.char?.map String.singleton)

/-- A rule fails by itself, and not because a rule that it enters fails. -/
inductive Fails : Opening → Failure → Prop
  | depth {rule : Rule} {place : Place} : Fails ⟨0, rule, place⟩ .nestedTooDeeply
  | operation {depth : Nat} {operator : Operator} {operand : Rule} {place middle stop : Place}
      {left right : Tree} {first second : Float} {failure : Failure} :
      operator.rule.operand? = some operand →
      Spans ⟨depth + 1, operator.rule, place⟩ left first middle →
      middle.char? = some operator.sign →
      Yields ⟨depth, operand, middle.advance⟩ right second stop →
      operator.apply first second middle.advance.position = .error failure →
      Fails ⟨depth + 1, operator.rule, place⟩ failure
  | missing {depth : Nat} {place : Place} : (∀ c, place.char? = some c → startsBase c = false) →
      Fails ⟨depth + 1, .base, place⟩
        (.fault { cause := missingBase place, position := some place.position })
  | numeral {depth : Nat} {place : Place} {c : Char} : place.char? = some c →
      isNumeralChar c = true →
      (∀ whole fraction, ¬ IsNumeral (place.run isNumeralChar) whole fraction) →
      Fails ⟨depth + 1, .base, place⟩
        (.fault { cause := .invalidNumber (String.ofList (place.run isNumeralChar)),
                  position := some place.position })
  | name {depth : Nat} {place : Place} {c : Char} : place.char? = some c →
      Text.isLetter c = true →
      (∀ function : NamedFunction, place.run Text.isLetter ≠ function.name.toList) →
      Fails ⟨depth + 1, .base, place⟩
        (.fault { cause := .unknownFunction (String.ofList (place.run Text.isLetter)),
                  position := some place.position })
  | call {depth : Nat} {place stop : Place} {function : NamedFunction} {argument : Tree}
      {value : Float} {failure : Failure} :
      place.run Text.isLetter = function.name.toList →
      Yields ⟨depth, .factor, place.skipRun Text.isLetter⟩ argument value stop →
      function.apply value (some place.position) = .error failure →
      Fails ⟨depth + 1, .base, place⟩ failure
  | parenthesis {depth : Nat} {place stop : Place} {inside : Tree} {value : Float} :
      place.char? = some '(' → Yields ⟨depth, .expression, place.advance⟩ inside value stop →
      stop.char? ≠ some ')' →
      Fails ⟨depth + 1, .base, place⟩
        (.fault { cause := .unmatchedParenthesis, position := some stop.position })

end Opening

end DeskCalc.Expression
