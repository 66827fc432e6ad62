import DeskCalc.Json.Value
import Mathlib.Data.List.Basic

/-! Members on top of others: what each key has afterwards, and in which order the keys stand. -/

namespace DeskCalc.Json.Members

variable {τ : Type}

/-- The keys in their order. -/
def keys (members : Members τ) : List τ :=
  members.map Prod.fst

/-- Each key stands once. -/
def HasDistinctKeys (members : Members τ) : Prop :=
  members.keys.Nodup

@[simp] theorem keys_nil : keys ([] : Members τ) = [] := rfl

@[simp] theorem keys_cons (key : τ) (value : Json τ) (rest : Members τ) :
    keys ((key, value) :: rest) = key :: rest.keys := rfl

@[simp] theorem keys_append (front back : Members τ) :
    keys (front ++ back) = front.keys ++ back.keys :=
  List.map_append

theorem hasDistinctKeys_nil : HasDistinctKeys ([] : Members τ) :=
  List.nodup_nil

/-- A key behind others is none of them. -/
theorem HasDistinctKeys.new {front back : Members τ} {key : τ} {value : Json τ}
    (distinct : HasDistinctKeys (front ++ (key, value) :: back)) : key ∉ front.keys := by
  -- It would stand among the keys a second time.
  rw [HasDistinctKeys, keys_append] at distinct
  exact fun known => (List.nodup_append.mp distinct).2.2 key known key List.mem_cons_self rfl

/-- The keys of members that have been filtered by their keys. -/
theorem keys_filter (members : Members τ) (keep : τ → Bool) :
    keys (members.filter fun member => keep member.1) = members.keys.filter keep := by
  -- It is all the same whether the members are filtered or their keys.
  rw [keys, keys, List.filter_map]
  rfl

variable [DecidableEq τ]

/-- A key without a value is none of the keys. -/
theorem get?_eq_none_iff {members : Members τ} {key : τ} :
    members.get? key = none ↔ key ∉ members.keys := by
  -- The key is compared with every other one, and with the two in the other order.
  simp only [get?, List.lookup_eq_none_iff, keys, List.mem_map, not_exists, not_and, bne_iff_ne]
  exact ⟨fun other member inside same => other member inside same.symm,
    fun other member inside same => other member inside same.symm⟩

@[simp] theorem get?_nil (key : τ) : get? ([] : Members τ) key = none := rfl

theorem get?_cons (known key : τ) (value : Json τ) (rest : Members τ) :
    get? ((known, value) :: rest) key = if key == known then some value else rest.get? key := by
  -- The first member answers for its own key, and the rest for the others.
  rw [get?, List.lookup_cons]
  cases key == known <;> rfl

/-- A new key comes last. -/
theorem put_of_not_mem {members : Members τ} {key : τ} (new : key ∉ members.keys)
    (value : Json τ) : members.put key value = members ++ [(key, value)] := by
  -- None of the keys on the way is the new one.
  induction members with
  | nil => rfl
  | cons member rest ih =>
    obtain ⟨known, old⟩ := member
    simp only [keys_cons, List.mem_cons, not_or] at new
    simp [put, Ne.symm new.1, ih new.2]

/-- A known key keeps its place among the others. -/
theorem keys_put_of_mem {members : Members τ} {key : τ} (known : key ∈ members.keys)
    (value : Json τ) : (members.put key value).keys = members.keys := by
  -- The value is given where the key is met.
  induction members with
  | nil => simp at known
  | cons member rest ih =>
    simp only [put]
    split
    · rfl
    · rename_i other
      have later : key ∈ keys rest := by
        rcases List.mem_cons.mp known with rfl | later
        · simp at other
        · exact later
      rw [keys_cons, ih later]
      rfl

/-- The keys after one of them has been given a value. -/
theorem keys_put (members : Members τ) (key : τ) (value : Json τ) :
    (members.put key value).keys =
      members.keys ++ if key ∈ members.keys then [] else [key] := by
  -- The value goes to the key where it is known, and behind all the others where it is not.
  split
  · rename_i known
    simp [keys_put_of_mem known]
  · rename_i new
    simp [put_of_not_mem new]

/-- A member after a key has been given a value is one from before, or the key with that value. -/
theorem mem_put {members : Members τ} {key : τ} {value : Json τ} {member : τ × Json τ}
    (inside : member ∈ members.put key value) : member ∈ members ∨ member = (key, value) := by
  -- Only the member with the key is another one than before.
  induction members with
  | nil => exact .inr (List.mem_singleton.mp inside)
  | cons first rest ih =>
    simp only [put] at inside
    split at inside
    · rename_i here
      rcases List.mem_cons.mp inside with rfl | later
      · exact .inr (congrArg (·, value) (eq_of_beq here))
      · exact .inl (List.mem_cons_of_mem _ later)
    · rcases List.mem_cons.mp inside with rfl | later
      · exact .inl List.mem_cons_self
      · exact (ih later).imp_left (List.mem_cons_of_mem _)

/-- A member of members on top of others is one of either. -/
theorem mem_override {members others : Members τ} {member : τ × Json τ}
    (inside : member ∈ members.override others) : member ∈ members ∨ member ∈ others := by
  -- Induction on the members on top, each of which is put in its turn.
  induction others generalizing members with
  | nil => exact .inl inside
  | cons other rest ih =>
    rcases ih inside with before | later
    · rcases mem_put before with first | rfl
      · exact .inl first
      · exact .inr List.mem_cons_self
    · exact .inr (List.mem_cons_of_mem _ later)

/-- Keys stay distinct when one of them is given a value. -/
theorem HasDistinctKeys.put {members : Members τ} (distinct : members.HasDistinctKeys)
    (key : τ) (value : Json τ) : HasDistinctKeys (members.put key value) := by
  unfold HasDistinctKeys at *
  rw [keys_put]
  -- The key is added only where it is not among the others.
  split
  · simpa using distinct
  · rename_i new
    exact List.nodup_append.mpr ⟨distinct, by simp, by grind⟩

/-- The keys of some members are those of the first and then the new ones of the others. -/
theorem keys_override (members : Members τ) {others : Members τ}
    (distinct : others.HasDistinctKeys) :
    (members.override others).keys =
      members.keys ++ others.keys.filter (· ∉ members.keys) := by
  -- Each of the others adds its key, unless the key is known.
  induction others generalizing members with
  | nil => simp [override]
  | cons other rest ih =>
    obtain ⟨key, value⟩ := other
    obtain ⟨new, distinct⟩ := List.nodup_cons.mp distinct
    have step := ih (members.put key value) distinct
    rw [override] at step ⊢
    rw [List.foldl_cons, step, keys_put, keys_cons, List.filter_cons]
    -- The rest does not hold the key, so only the keys before count for it.
    split
    · rename_i known
      simp [known]
    · rename_i unknown
      simp only [unknown, not_false_eq_true, decide_true, if_true, List.append_assoc,
        List.singleton_append]
      congr 2
      refine List.filter_congr fun later member => ?_
      have different : later ≠ key := fun same => new (same ▸ member)
      simp [different]

/-- What the others say about a key counts, and otherwise what the members say. -/
theorem get?_override (members : Members τ) {others : Members τ}
    (distinct : others.HasDistinctKeys) (key : τ) :
    (members.override others).get? key = (others.get? key).or (members.get? key) := by
  -- A later value of the same key would win over an earlier one, but there is none.
  induction others generalizing members with
  | nil => rfl
  | cons other rest ih =>
    obtain ⟨known, value⟩ := other
    obtain ⟨new, distinct⟩ := List.nodup_cons.mp distinct
    have step := ih (members.put known value) distinct
    rw [override] at step ⊢
    rw [List.foldl_cons, step, get?_put, get?_cons]
    by_cases same : key = known
    · subst same
      simp [get?_eq_none_iff.mpr new]
    · simp [same]

/-- Keys stay distinct below any others. -/
theorem HasDistinctKeys.override {members others : Members τ}
    (distinct : members.HasDistinctKeys) : HasDistinctKeys (members.override others) := by
  -- Every step gives one key a value.
  induction others generalizing members with
  | nil => exact distinct
  | cons other rest ih => exact ih (distinct.put other.1 other.2)

/-- The value of a key is that of a member. -/
theorem mem_of_get? {members : Members τ} {key : τ} {value : Json τ}
    (found : members.get? key = some value) : (key, value) ∈ members := by
  obtain ⟨front, back, rfl, -⟩ := List.lookup_eq_some_iff.mp found
  exact List.mem_append_right _ List.mem_cons_self

/-- Where keys are distinct, each member has the value of its key. -/
theorem get?_of_mem {members : Members τ} (distinct : members.HasDistinctKeys)
    {member : τ × Json τ} (inside : member ∈ members) :
    members.get? member.1 = some member.2 := by
  -- No member in front of it has the same key.
  obtain ⟨front, back, rfl⟩ := List.append_of_mem inside
  have new : member.1 ∉ keys front := fun before => by
    rw [HasDistinctKeys, keys_append] at distinct
    exact (List.nodup_append.mp distinct).2.2 _ before _ List.mem_cons_self rfl
  refine List.lookup_eq_some_iff.mpr ⟨front, back, rfl, fun other before => ?_⟩
  exact bne_iff_ne.mpr fun same => new (same ▸ List.mem_map_of_mem before)

/-- Distinct keys in one order and the values that they have make out the members. -/
theorem eq_of_keys_of_get? {members others : Members τ} (distinct : members.HasDistinctKeys)
    (same : members.keys = others.keys) (agree : ∀ key, members.get? key = others.get? key) :
    members = others := by
  -- The first key has the first value in both, and is not asked for in the rest.
  induction members generalizing others with
  | nil => simpa [keys] using same.symm
  | cons member rest ih =>
    obtain ⟨key, value⟩ := member
    cases others with
    | nil => simp [keys] at same
    | cons other others =>
      obtain ⟨known, found⟩ := other
      simp only [keys_cons, List.cons.injEq] at same
      obtain ⟨rfl, same⟩ := same
      obtain ⟨new, distinct⟩ := List.nodup_cons.mp distinct
      have first := agree key
      simp only [get?_cons, beq_self_eq_true, if_true, Option.some.injEq] at first
      refine congrArg₂ _ (congrArg _ first) (ih distinct same fun asked => ?_)
      have later := agree asked
      simp only [get?_cons] at later
      by_cases here : asked = key
      · subst here
        rw [get?_eq_none_iff.mpr new, get?_eq_none_iff.mpr (same ▸ new)]
      · simpa [here] using later

/-- The value of a key among members that have been filtered by their keys. -/
theorem get?_filter (members : Members τ) (keep : τ → Bool) (key : τ) :
    get? (members.filter fun member => keep member.1) key =
      if keep key then members.get? key else none := by
  -- A member with the key is kept or dropped like the key.
  induction members with
  | nil => simp
  | cons member rest ih =>
    obtain ⟨known, value⟩ := member
    by_cases same : key = known
    · subst same
      by_cases kept : keep key = true
      · simp [kept, get?_cons]
      · simpa [kept] using ih
    · by_cases kept : keep known = true
      · simpa [kept, get?_cons, same] using ih
      · simpa [kept, get?_cons, same] using ih

/-- The value of a key among members that have been given other values. -/
theorem get?_map (members : Members τ) (change : τ → Json τ → Json τ) (key : τ) :
    get? (members.map fun member => (member.1, change member.1 member.2)) key =
      (members.get? key).map (change key) := by
  -- The keys stay where they are.
  induction members with
  | nil => rfl
  | cons member rest ih =>
    obtain ⟨known, value⟩ := member
    by_cases same : key = known
    · subst same
      simp [get?_cons]
    · simpa [get?_cons, same] using ih

/-- The value of a key is the first one that it has. -/
theorem get?_append (front back : Members τ) (key : τ) :
    get? (front ++ back) key = (front.get? key).or (back.get? key) := by
  -- The key is looked for in the front first.
  induction front with
  | nil => rfl
  | cons member rest ih =>
    obtain ⟨known, value⟩ := member
    by_cases same : key = known
    · subst same
      simp [get?_cons]
    · simpa [get?_cons, same] using ih

/-- Members on top of others, written out: the known keys with their new values,
and then what is new. -/
theorem override_eq {members others : Members τ} (known : members.HasDistinctKeys)
    (distinct : others.HasDistinctKeys) :
    members.override others =
      (members.map fun member => (member.1, (others.get? member.1).getD member.2)) ++
        others.filter fun member => (members.get? member.1).isNone := by
  -- Both sides have the same keys in the same order, and the same value for each of them.
  refine eq_of_keys_of_get? known.override ?_ fun key => ?_
  · -- The keys are those of the first and then the new ones of the others.
    rw [keys_override _ distinct, keys_append]
    congr 1
    · simp [keys, Function.comp_def]
    · rw [keys_filter others fun key => (members.get? key).isNone]
      refine List.filter_congr fun key _ => ?_
      rw [Bool.eq_iff_iff, decide_eq_true_iff, Option.isNone_iff_eq_none, get?_eq_none_iff]
  · -- A key has its new value, where it has one.
    rw [get?_override _ distinct, get?_append,
      get?_map members fun key old => (others.get? key).getD old,
      get?_filter others fun key => (members.get? key).isNone]
    cases members.get? key <;> cases others.get? key <;> rfl

/-- Members on top of others that have all their keys: each key stays in its place. -/
theorem override_of_subset {members others : Members τ} (known : members.HasDistinctKeys)
    (distinct : others.HasDistinctKeys) (subset : others.keys ⊆ members.keys) :
    members.override others =
      members.map fun member => (member.1, (others.get? member.1).getD member.2) := by
  -- None of the others is new.
  have old (other : τ × Json τ) (inside : other ∈ others) :
      ¬ (members.get? other.1).isNone = true := by
    rw [Option.isNone_iff_eq_none, get?_eq_none_iff, not_not]
    exact subset (List.mem_map_of_mem inside)
  rw [override_eq known distinct, List.filter_eq_nil_iff.mpr old, List.append_nil]

/-- Members that start with all the keys of others do not change when they are put on top
of these. -/
theorem override_of_prefix {members others : Members τ} (distinct : others.HasDistinctKeys)
    (front : members.keys <+: others.keys) : members.override others = others := by
  -- There are no new keys, and each known key has the later value.
  obtain ⟨more, split⟩ := front
  have parts : (members.keys ++ more).Nodup := split ▸ distinct
  obtain ⟨known, fresh, apart⟩ := List.nodup_append.mp parts
  refine eq_of_keys_of_get? (HasDistinctKeys.override known) ?_ fun key => ?_
  · rw [keys_override _ distinct, ← split, List.filter_append,
      List.filter_eq_nil_iff.mpr (by simp),
      List.filter_eq_self.mpr fun key member => by
        simpa using fun other => apart key other key member rfl]
    rfl
  · rw [get?_override _ distinct]
    cases found : others.get? key with
    | some value => rfl
    | none =>
      have missing := get?_eq_none_iff.mp found
      rw [← split, List.mem_append, not_or] at missing
      simp [get?_eq_none_iff.mpr missing.1]

/-- Members with distinct keys are what they make out of nothing. -/
theorem nil_override {members : Members τ} (distinct : members.HasDistinctKeys) :
    override [] members = members := by
  have front : keys ([] : Members τ) <+: members.keys := List.nil_prefix
  exact override_of_prefix distinct front

end DeskCalc.Json.Members
