import DeskCalc.Expression.Evaluation

/-! The grammar of expressions: which characters a rule derives, and the syntax tree it gives them. -/

namespace DeskCalc.Expression

open DeskCalc.Number

-- Powers of natural numbers are the plain ones, also beside those of a monoid.
attribute [local instance (high)] instPowNat

/-- A place in a text: how many characters lie before it, and which ones are left. -/
structure Place where
  text : List Char
  position : Nat
  rest : List Char

namespace Place

/-- The place in front of a text. -/
def start (text : List Char) : Place :=
  ⟨text, 0, text⟩

/-- The character at a place, if it is not the end. -/
def char? (place : Place) : Option Char :=
  place.rest.head?

/-- The place behind the next character. -/
def advance (place : Place) : Place :=
  ⟨place.text, place.position + 1, place.rest.tail⟩

/-- The maximal run of characters of a class that starts at a place. -/
def run (place : Place) (inClass : Char → Bool) : List Char :=
  place.rest.takeWhile inClass

/-- The place behind that run. -/
def skipRun (place : Place) (inClass : Char → Bool) : Place :=
  ⟨place.text, place.position + (place.run inClass).length, place.rest.dropWhile inClass⟩

end Place

namespace Scanner

/-- The place at which a scanner stands. -/
def place (scanner : Scanner) : Place :=
  ⟨scanner.text, scanner.position, scanner.rest⟩

@[simp] theorem place_position (scanner : Scanner) : scanner.place.position = scanner.position := rfl

@[simp] theorem place_char? (scanner : Scanner) : scanner.place.char? = scanner.char? := rfl

@[simp] theorem place_advance (scanner : Scanner) :
    scanner.advance.place = scanner.place.advance := rfl

@[simp] theorem place_skipRun (scanner : Scanner) (inClass : Char → Bool) :
    (scanner.skipRun inClass).place = scanner.place.skipRun inClass := rfl

end Scanner

/-- The operators that join operands from left to right. -/
inductive Operator
  | plus
  | minus
  | times
  | slash
deriving DecidableEq

namespace Operator

/-- How an operator is written. -/
def sign : Operator → Char
  | plus => '+'
  | minus => '-'
  | times => '*'
  | slash => '/'

/-- The rule whose operands an operator joins. -/
def rule : Operator → Rule
  | plus | minus => .expression
  | times | slash => .term

/-- The value of two operands; the position is that of the right one. -/
def apply : Operator → Operation
  | plus => fun left right _ => .ok (left + right)
  | minus => fun left right _ => .ok (left - right)
  | times => fun left right _ => .ok (left * right)
  | slash => divide

end Operator

/-- A numeral is `digit+ ('.' digit*)? | '.' digit+`, taken apart at its point. -/
inductive IsNumeral : (text whole fraction : List Char) → Prop
  | whole {whole : List Char} : whole ≠ [] → whole.all Char.isDigit → IsNumeral whole whole []
  | point {whole fraction : List Char} : whole ≠ [] → whole.all Char.isDigit →
      fraction.all Char.isDigit → IsNumeral (whole ++ '.' :: fraction) whole fraction
  | fraction {fraction : List Char} : fraction ≠ [] → fraction.all Char.isDigit →
      IsNumeral ('.' :: fraction) [] fraction

/-- A syntax tree; a call keeps where its name starts and where its argument ends,
and an operator between two operands where the right one starts. -/
inductive Tree
  | number (whole fraction : List Char)
  | group (inside : Tree)
  | call (function : NamedFunction) (name : Place) (argument : Tree) (stop : Place)
  | raised (base exponent : Tree)
  | positive (operand : Tree)
  | negative (operand : Tree)
  | binary (operator : Operator) (left right : Tree) (position : Nat)

/-- `Derives rule start tree stop`: between two places stands what a rule of the grammar derives.

The rules are `expression := term (('+' | '-') term)*`, `term := factor (('*' | '/') factor)*`,
`factor := ('+' | '-') factor | power`, `power := base ('^' factor)?` and
`base := number | '(' expression ')' | functionName factor`,
where numbers and names are maximal runs. -/
inductive Derives : Rule → Place → Tree → Place → Prop
  | term {start stop : Place} {tree : Tree} :
      Derives .term start tree stop → Derives .expression start tree stop
  | sum {operator : Operator} {start middle stop : Place} {left right : Tree} :
      operator.rule = .expression → Derives .expression start left middle →
      middle.char? = some operator.sign → Derives .term middle.advance right stop →
      Derives .expression start (.binary operator left right middle.advance.position) stop
  | factor {start stop : Place} {tree : Tree} :
      Derives .factor start tree stop → Derives .term start tree stop
  | product {operator : Operator} {start middle stop : Place} {left right : Tree} :
      operator.rule = .term → Derives .term start left middle →
      middle.char? = some operator.sign → Derives .factor middle.advance right stop →
      Derives .term start (.binary operator left right middle.advance.position) stop
  | positive {start stop : Place} {tree : Tree} :
      start.char? = some '+' → Derives .factor start.advance tree stop →
      Derives .factor start (.positive tree) stop
  | negative {start stop : Place} {tree : Tree} :
      start.char? = some '-' → Derives .factor start.advance tree stop →
      Derives .factor start (.negative tree) stop
  | power {start stop : Place} {tree : Tree} :
      Derives .power start tree stop → Derives .factor start tree stop
  | base {start stop : Place} {tree : Tree} :
      Derives .base start tree stop → Derives .power start tree stop
  | raised {start middle stop : Place} {base exponent : Tree} :
      Derives .base start base middle → middle.char? = some '^' →
      Derives .factor middle.advance exponent stop →
      Derives .power start (.raised base exponent) stop
  | number {start : Place} {whole fraction : List Char} :
      IsNumeral (start.run isNumeralChar) whole fraction →
      Derives .base start (.number whole fraction) (start.skipRun isNumeralChar)
  | group {start last : Place} {tree : Tree} :
      start.char? = some '(' → Derives .expression start.advance tree last →
      last.char? = some ')' → Derives .base start (.group tree) last.advance
  | call {function : NamedFunction} {start stop : Place} {argument : Tree} :
      start.run Text.isLetter = function.name.toList →
      Derives .factor (start.skipRun Text.isLetter) argument stop →
      Derives .base start (.call function start argument stop) stop

namespace Tree

/-- The argument of each call is the longest factor behind the name. -/
def HasLongestArguments : Tree → Prop
  | number _ _ => True
  | group inside => inside.HasLongestArguments
  | call _ name argument stop => argument.HasLongestArguments ∧
      ∀ other last, Derives .factor (name.skipRun Text.isLetter) other last →
        stop.rest.length ≤ last.rest.length
  | raised base exponent => base.HasLongestArguments ∧ exponent.HasLongestArguments
  | positive operand | negative operand => operand.HasLongestArguments
  | binary _ left right _ => left.HasLongestArguments ∧ right.HasLongestArguments

/-- The value of a tree, worked out from left to right up to the first operation that fails. -/
def value : Tree → Except Failure Float
  | number whole fraction =>
    .ok (nearest false (ofDigits (whole ++ fraction)) (10 ^ fraction.length))
  | group inside => inside.value
  | call function name argument _ => do function.apply (← argument.value) (some name.position)
  | raised base exponent => do return power (← base.value) (← exponent.value)
  | positive operand => operand.value
  | negative operand => do return -(← operand.value)
  | binary operator left right position => do
    operator.apply (← left.value) (← right.value) position

end Tree

/-- How many rules lie below a rule, with itself. -/
def Rule.rank : Rule → Nat
  | expression => 5
  | term => 4
  | factor => 3
  | power => 2
  | base => 1

/-- The rule for the right operand of an operator. -/
def Operator.operand : Operator → Rule
  | plus | minus => .term
  | times | slash => .factor

/-- How many rules are open inside each other at most while a rule derives a tree. -/
def Tree.nesting (rule : Rule) : Tree → Nat
  | number _ _ => rule.rank
  | group inside => rule.rank + inside.nesting .expression
  | call _ _ argument _ => rule.rank + argument.nesting .factor
  | raised base exponent => rule.rank - 1 + max (base.nesting .base) (exponent.nesting .factor)
  | positive operand | negative operand => rule.rank - 2 + operand.nesting .factor
  | binary operator left right _ => rule.rank - operator.rule.rank +
      max (left.nesting operator.rule) (1 + right.nesting operator.operand)

/-- A text is derivable when the grammar derives an expression from all of it. -/
def Derivable (text : List Char) : Prop :=
  ∃ tree stop, Derives .expression (.start text) tree stop ∧ stop.rest = []

/-- The syntax tree of a text, in which each function takes the longest factor behind its name. -/
def IsSyntaxTree (text : List Char) (tree : Tree) : Prop :=
  tree.HasLongestArguments ∧ ∃ stop, Derives .expression (.start text) tree stop ∧ stop.rest = []

end DeskCalc.Expression
