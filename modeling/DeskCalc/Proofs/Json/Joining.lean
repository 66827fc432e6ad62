import DeskCalc.Proofs.Json.Members
import DeskCalc.Proofs.Json.Strings

/-! What a text says about a value: every high half in it and the low half behind it are one
character, and of keys that are the same by then the later value counts. A value whose texts have
nothing to join and whose keys are distinct is what its text says. -/

namespace DeskCalc.Json

section Joined

variable {τ : Type} [Text.Coded τ]

mutual

/-- A value with every text and every key joined. -/
def joined : Json τ → Json τ
  | null => null
  | bool value => bool value
  | int value => int value
  | float value => float value
  | text value => text (Text.joined value)
  | list items => list (joinedItems items)
  | object members => object (joinedMembers members)

/-- The items of a list, each joined. -/
def joinedItems : List (Json τ) → List (Json τ)
  | [] => []
  | item :: rest => joined item :: joinedItems rest

/-- The members of an object, each joined. -/
def joinedMembers : List (τ × Json τ) → Members τ
  | [] => []
  | (key, value) :: rest => (Text.joined key, joined value) :: joinedMembers rest

end

/-- Items that have nothing to join stay as they are. -/
theorem joinedItems_eq_self {items : List (Json τ)} (each : ∀ item ∈ items, item.joined = item) :
    joinedItems items = items := by
  -- Induction on the items, of which none has anything to join.
  induction items with
  | nil => rfl
  | cons item rest ih =>
    obtain ⟨same, others⟩ := List.forall_mem_cons.mp each
    rw [joinedItems, same, ih others]

/-- Members have nothing to join just when none of them has. -/
theorem joinedMembers_eq_self_iff {members : Members τ} : joinedMembers members = members ↔
    ∀ member ∈ members, Text.joined member.1 = member.1 ∧ member.2.joined = member.2 := by
  -- The first member stays as it is just when its key and its value do.
  induction members with
  | nil => simp [joinedMembers]
  | cons member rest ih =>
    rw [joinedMembers, List.cons.injEq, Prod.ext_iff, ih, List.forall_mem_cons]

/-- A known key that is given a value is given the joined one among the joined members. -/
theorem joinedMembers_put_of_mem [DecidableEq τ] {members : Members τ}
    (joined : joinedMembers members = members) {key : τ} (known : key ∈ members.keys)
    (value : Json τ) : Text.joined key = key ∧
      joinedMembers (members.put key value) = members.put key value.joined := by
  -- Induction on the members, up to the one with the key.
  induction members with
  | nil => cases known
  | cons member rest ih =>
    obtain ⟨first, old⟩ := member
    simp only [joinedMembers, List.cons.injEq, Prod.mk.injEq] at joined
    obtain ⟨⟨same, stays⟩, others⟩ := joined
    by_cases here : first = key
    · subst here
      simp [Members.put, joinedMembers, same, others]
    · obtain ⟨fixed, later⟩ := ih others (List.mem_of_ne_of_mem (Ne.symm here) known)
      simp [Members.put, joinedMembers, here, same, stays, fixed, later]

/-- A new key that is given a value comes last among the joined members, and joined itself. -/
theorem joinedMembers_put_of_not_mem [DecidableEq τ] {members : Members τ}
    (joined : joinedMembers members = members) {key : τ} (new : key ∉ members.keys)
    (value : Json τ) :
    joinedMembers (members.put key value) = members ++ [(Text.joined key, value.joined)] := by
  have append (front back : Members τ) :
      joinedMembers (front ++ back) = joinedMembers front ++ joinedMembers back := by
    induction front with
    | nil => rfl
    | cons member rest ih => simp [joinedMembers, ih]
  -- The new member is the last one, and is joined by itself.
  rw [Members.put_of_not_mem new, append, joined]
  rfl

mutual

/-- With strings for texts there is nothing to join. -/
@[simp] theorem joined_string : ∀ value : Json, value.joined = value
  | null | bool _ | int _ | float _ => rfl
  | text value => by rw [joined, Text.joined_string]
  | list items => by rw [joined, joinedItems_string items]
  | object members => by rw [joined, joinedMembers_string members]

theorem joinedItems_string : ∀ items : List Json, joinedItems items = items
  | [] => rfl
  | item :: rest => by rw [joinedItems, joined_string item, joinedItems_string rest]

theorem joinedMembers_string : ∀ members : List (String × Json), joinedMembers members = members
  | [] => rfl
  | (key, value) :: rest => by
    rw [joinedMembers, Text.joined_string, joined_string value, joinedMembers_string rest]

end

end Joined

section Written

/-- A character beyond 16 bits is escaped in two parts. -/
theorem quotedChar_of_large {c : Char} (large : 0x10000 ≤ c.toNat) :
    quotedChar c = unitEscape (0xd800 + (c.toNat - 0x10000) / 0x400) ++
      unitEscape (0xdc00 + (c.toNat - 0x10000) % 0x400) := by
  unfold quotedChar
  split
  case h_8 =>
    -- It stands behind the tilde, and has more than four digits.
    have outside : ¬ (' ' ≤ c && c ≤ '~') = true := by
      simp only [Bool.and_eq_true, decide_eq_true_eq, not_and]
      intro _ below
      have : c.toNat ≤ '~'.toNat := below
      exact absurd (Nat.le_trans large this) (by decide)
    rw [if_neg outside, if_neg (Nat.not_lt.mpr large)]
  -- The characters with a letter of their own have seven bits.
  all_goals exact absurd large (by decide)

/-- A high half and a low half are escaped like the character that they are together. -/
theorem quotedPoint_pair {first second : Text.CodePoint} {c : Char}
    (together : first.pair? second = some c) :
    quotedPoint (.char c) = quotedPoint first ++ quotedPoint second := by
  obtain ⟨high, low, rfl, rfl, below, above, number⟩ := Text.CodePoint.halves_of_pair? together
  -- The halves have the ten upper and the ten lower bits behind the first 16 bits of numbers.
  have bound := low.isLt
  have upper : 0xd800 + (c.toNat - 0x10000) / 0x400 = 0xd800 + high.val := by omega
  have lower : 0xdc00 + (c.toNat - 0x10000) % 0x400 = 0xd800 + low.val := by omega
  rw [quotedPoint, quotedChar_of_large (by omega), upper, lower]
  rfl

variable {τ : Type} [Text.Coded τ]

/-- A text is written like the joined one. -/
theorem quote_joined (text : τ) : quote (Text.joined text) = quote text := by
  have points (text : Text.CodePoints) :
      (Text.CodePoint.join text).flatMap quotedPoint = text.flatMap quotedPoint := by
    -- The two halves that are joined have been written as the character is.
    fun_induction Text.CodePoint.join text with
    | case1 first second rest c together ih =>
      simp only [List.flatMap_cons, ih, quotedPoint_pair together, List.append_assoc]
    | case2 first second rest apart ih => rw [List.flatMap_cons, List.flatMap_cons, ih]
    | case3 => rfl
  rw [quote, Text.joined, Text.Coded.points_ofPoints_join, points, quote]

mutual

/-- A value is written like the joined one. -/
theorem print_joined (level : Nat) :
    ∀ value : Json τ, print level value.joined = print level value
  | null | bool _ | int _ | float _ => rfl
  | text value => by rw [joined, print, print, quote_joined]
  | list [] => rfl
  | list (item :: rest) => by
    -- An item is written like the joined one, and so are the others behind it.
    rw [joined, joinedItems, print, print, print_joined (level + 1) item,
      printItems_joined (level + 1) rest]
  | object [] => rfl
  | object ((key, value) :: rest) => by
    rw [joined, joinedMembers, print, print, quote_joined, print_joined (level + 1) value,
      printMembers_joined (level + 1) rest]

theorem printItems_joined (level : Nat) : ∀ items : List (Json τ),
    printItems level (joinedItems items) = printItems level items
  | [] => rfl
  | item :: rest => by
    rw [joinedItems, printItems, printItems, print_joined level item, printItems_joined level rest]

theorem printMembers_joined (level : Nat) : ∀ members : Members τ,
    printMembers level (joinedMembers members) = printMembers level members
  | [] => rfl
  | (key, value) :: rest => by
    rw [joinedMembers, printMembers, printMembers, quote_joined, print_joined level value,
      printMembers_joined level rest]

end

end Written

section Merged

variable {τ : Type} [DecidableEq τ]

mutual

/-- A value with one member for each key of an object: the later value in the earlier place. -/
def merged : Json τ → Json τ
  | null => null
  | bool value => bool value
  | int value => int value
  | float value => float value
  | text value => text value
  | list items => list (mergedItems items)
  | object members => object (Members.override [] (mergedMembers members))

/-- The items of a list, each merged. -/
def mergedItems : List (Json τ) → List (Json τ)
  | [] => []
  | item :: rest => merged item :: mergedItems rest

/-- The members of an object with their values merged. -/
def mergedMembers : List (τ × Json τ) → Members τ
  | [] => []
  | (key, value) :: rest => (key, merged value) :: mergedMembers rest

end

/-- Items that have nothing to merge stay as they are. -/
theorem mergedItems_eq_self {items : List (Json τ)} (each : ∀ item ∈ items, item.merged = item) :
    mergedItems items = items := by
  induction items with
  | nil => rfl
  | cons item rest ih =>
    obtain ⟨same, others⟩ := List.forall_mem_cons.mp each
    rw [mergedItems, same, ih others]

/-- Members stay as they are when their values have nothing to merge. -/
theorem mergedMembers_eq_self {members : Members τ}
    (each : ∀ member ∈ members, member.2.merged = member.2) : mergedMembers members = members := by
  induction members with
  | nil => rfl
  | cons member rest ih =>
    obtain ⟨same, others⟩ := List.forall_mem_cons.mp each
    rw [mergedMembers, same, ih others]

/-- A key that is given a value is given the merged one among the merged members. -/
theorem mergedMembers_put (members : Members τ) (key : τ) (value : Json τ) :
    mergedMembers (members.put key value) = (mergedMembers members).put key value.merged := by
  -- The member with the key is the same one in both lists.
  induction members with
  | nil => rfl
  | cons member rest ih =>
    by_cases here : member.1 = key
    · simp [Members.put, mergedMembers, here]
    · simp [Members.put, mergedMembers, here, ih]

/-- Members with another one behind them are merged one by one. -/
theorem mergedMembers_concat (members : Members τ) (key : τ) (value : Json τ) :
    mergedMembers (members ++ [(key, value)]) = mergedMembers members ++ [(key, value.merged)] := by
  induction members with
  | nil => rfl
  | cons member rest ih => simp [mergedMembers, ih]

end Merged

end DeskCalc.Json
