import RecordQuery.Condition.Basic

/-!
# Written conditions

A condition tree is read back from what is written of it. No JSON value can be read both as
a leaf and as a group: the members of a group have other names than those of a leaf, and an
array of a group is shorter than that of a leaf. So it does not matter which is tried first.
-/

namespace RecordQuery

theorem Operator.ofJson?_toJson (op : Operator) : ofJson? op.toJson = some op :=
  ofWord?_word op

namespace Condition

-- ---------------------------------------------------------------------------
-- A leaf or a group
-- ---------------------------------------------------------------------------

section
variable {members : List (String × Json)} {all any : Option (List Condition)} {c : Condition}

theorem names_of_groupOfMembers? (h : groupOfMembers? members all any = some c) :
    ∀ m ∈ members, m.1 = "and_" ∨ m.1 = "or_" := by
  induction members generalizing all any with
  | nil => exact List.forall_mem_nil _
  | cons m rest ih =>
    obtain ⟨name, j⟩ := m
    rw [groupOfMembers?] at h
    split at h
    · cases h
    · split at h
      · next hname => exact List.forall_mem_cons.mpr ⟨.inl hname, ih h⟩
      · split at h
        · next hname => exact List.forall_mem_cons.mpr ⟨.inr hname, ih h⟩
        · cases h

theorem leafOfMembers?_of_group (h : ∀ m ∈ members, m.1 = "and_" ∨ m.1 = "or_") :
    leafOfMembers? members = none := by
  have hfield : KeyMap.get? members "field" = none := by
    induction members with
    | nil => rfl
    | cons m rest ih =>
      obtain ⟨hm, hrest⟩ := List.forall_mem_cons.mp h
      rw [KeyMap.get?, if_neg (by grind), ih hrest]
  unfold leafOfMembers?
  split
  · rfl
  · rw [hfield]
    rfl

end

theorem leafOfItems?_of_group {items : List Json} {c : Condition}
    (h : groupOfItems? items = some c) : leafOfItems? items = none := by
  match items with
  | [] => rfl
  | [_] => simp [leafOfItems?]
  | [_, _] => simp [leafOfItems?]
  | _ :: _ :: _ :: _ => simp [groupOfItems?] at h

/-- What can be read as a group cannot be read as a leaf. -/
theorem leafOfJson?_of_group {j : Json} {c : Condition} (h : groupOfJson? j = some c) :
    leafOfJson? j = none := by
  cases j with
  | object members => exact leafOfMembers?_of_group (names_of_groupOfMembers? h)
  | array items => exact leafOfItems?_of_group h
  | _ => rfl

theorem leaf_or_group (j : Json) : leafOfJson? j = none ∨ groupOfJson? j = none := by
  cases h : groupOfJson? j with
  | none => exact .inr rfl
  | some c => exact .inl (leafOfJson?_of_group h)

theorem ofJson?_eq (j : Json) :
    ofJson? j = ((leafOfJson? j).map Condition.leaf).or (groupOfJson? j) := by
  cases j with
  | object members =>
    simp only [ofJson?, leafOfJson?, groupOfJson?]
    cases leafOfMembers? members <;> rfl
  | array items =>
    simp only [ofJson?, leafOfJson?, groupOfJson?]
    cases leafOfItems? items <;> rfl
  | _ => rfl

/-- The order in which leaf and group are tried does not matter. -/
theorem ofJson?_eq_group_first (j : Json) :
    ofJson? j = (groupOfJson? j).or ((leafOfJson? j).map Condition.leaf) := by
  rw [ofJson?_eq]
  rcases leaf_or_group j with h | h
  · rw [h, Option.map_none, Option.none_or, Option.or_none]
  · rw [h, Option.none_or, Option.or_none]

-- ---------------------------------------------------------------------------
-- Reading what is written
-- ---------------------------------------------------------------------------

theorem leafOfJson?_toJson (l : Leaf) : leafOfJson? (toJson (.leaf l)) = some l := by
  simp [toJson, leafOfJson?, leafOfMembers?, KeyMap.get?, Operator.ofJson?_toJson]

section
variable (nodes : List Condition) (ih : ∀ n ∈ nodes, ofJson? n.toJson = some n)
include ih

theorem nodesOfJson?_toJson : nodesOfJson? (nodesToJson nodes) = some nodes := by
  induction nodes with
  | nil => rfl
  | cons n rest ihrest =>
    obtain ⟨hn, hrest⟩ := List.forall_mem_cons.mp ih
    rw [nodesToJson, nodesOfJson?, hn, ihrest hrest]

theorem branchOfJson?_toJson :
    branchOfJson? (.array (nodesToJson nodes)) = some (some nodes) := by
  rw [branchOfJson?, nodesOfJson?_toJson nodes ih, Option.map_some]

end

theorem groupOfMembers?_all {all any : Option (List Condition)} (rest : List (String × Json))
    (ih : ∀ n ∈ all.getD [], ofJson? n.toJson = some n) :
    groupOfMembers? (branchToJson "and_" all ++ rest) none any = groupOfMembers? rest all any := by
  cases all with
  | none => rfl
  | some nodes =>
    rw [branchToJson, List.singleton_append, groupOfMembers?, branchOfJson?_toJson nodes ih]
    rfl

theorem groupOfMembers?_any {all any : Option (List Condition)}
    (ih : ∀ n ∈ any.getD [], ofJson? n.toJson = some n) :
    groupOfMembers? (branchToJson "or_" any) all none = some (.group all any) := by
  cases any with
  | none => rfl
  | some nodes =>
    rw [branchToJson, groupOfMembers?, branchOfJson?_toJson nodes ih]
    rfl

theorem groupOfJson?_toJson {all any : Option (List Condition)}
    (ihall : ∀ n ∈ all.getD [], ofJson? n.toJson = some n)
    (ihany : ∀ n ∈ any.getD [], ofJson? n.toJson = some n) :
    groupOfJson? (toJson (.group all any)) = some (.group all any) := by
  rw [toJson, groupOfJson?, groupOfMembers?_all _ ihall, groupOfMembers?_any ihany]

/-- What is written of a tree is read back as that tree. -/
theorem ofJson?_toJson (c : Condition) : ofJson? c.toJson = some c := by
  induction c with
  | leaf l =>
    rw [ofJson?_eq, leafOfJson?_toJson]
    rfl
  | group all any ihall ihany =>
    have hgroup := groupOfJson?_toJson ihall ihany
    rw [ofJson?_eq, leafOfJson?_of_group hgroup, hgroup]
    rfl

end Condition

end RecordQuery
