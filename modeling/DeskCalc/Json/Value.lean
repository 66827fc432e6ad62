import DeskCalc.Number.Shortest
import DeskCalc.Text.CodePoint
import DeskCalc.Text.Quoted

/-! JSON values: integers of any size beside doubles, and objects whose members keep their order.
Texts and keys are strings, unless the values are of another type of texts. -/

namespace DeskCalc

/-- A JSON value with texts of a type. -/
inductive Json (τ : Type := String)
  | null
  | bool (value : Bool)
  | int (value : Int)
  | float (value : Float)
  | text (value : τ)
  | list (items : List (Json τ))
  | object (members : List (τ × Json τ))

namespace Json

variable {τ : Type}

instance : Inhabited (Json τ) := ⟨null⟩

/-- The members of an object in their order, each key once. -/
abbrev Members (τ : Type := String) := List (τ × Json τ)

namespace Members

variable [DecidableEq τ]

/-- The value of a key. -/
def get? (members : Members τ) (key : τ) : Option (Json τ) :=
  List.lookup key members

/-- Give a key a value: a known key keeps its place, a new one comes last. -/
def put (key : τ) (value : Json τ) : Members τ → Members τ
  | [] => [(key, value)]
  | (known, old) :: rest =>
    if known == key then (known, value) :: rest else (known, old) :: put key value rest

/-- Giving a key a value changes what that key has, and no other key. -/
theorem get?_put (members : Members τ) (key other : τ) (value : Json τ) :
    (members.put key value).get? other =
      if other == key then some value else members.get? other := by
  -- The key is either met on the way or added behind the last member.
  induction members with
  | nil => grind [put, get?]
  | cons member rest ih => grind [put, get?]

/-- The members with others put on top of them, in order. -/
def override (members others : Members τ) : Members τ :=
  others.foldl (fun known (key, value) => known.put key value) members

end Members

/-- What kind of value it is. -/
def kindName : Json τ → String
  | null => "NoneType"
  | bool _ => "bool"
  | int _ => "int"
  | float _ => "float"
  | text _ => "str"
  | list _ => "list"
  | object _ => "dict"

/-- Whether a value counts as yes: everything does but nothing, zero and what is empty. -/
def isTruthy : Json → Bool
  | null => false
  | bool value => value
  | int value => value != 0
  | float value => value != 0
  | text value => value != ""
  | list items => !items.isEmpty
  | object members => !members.isEmpty

mutual

/-- A value on one line, as journal entries carry it. -/
def inline : Json → String
  | null => "None"
  | bool value => if value then "True" else "False"
  | int value => toString value
  | float value => Number.render .journal value
  | text value => Text.quoted value
  | list items => "[" ++ ", ".intercalate (inlineItems items) ++ "]"
  | object members => "\x7b" ++ ", ".intercalate (inlineMembers members) ++ "\x7d"

/-- The items of a list, each on one line. -/
def inlineItems : List Json → List String
  | [] => []
  | item :: rest => inline item :: inlineItems rest

/-- The members of an object, each on one line. -/
def inlineMembers : List (String × Json) → List String
  | [] => []
  | (key, value) :: rest => (Text.quoted key ++ ": " ++ inline value) :: inlineMembers rest

end

/-- A value as running text: a text stands for itself. -/
def words : Json → String
  | text value => value
  | value => inline value

end Json

end DeskCalc
