import RecordQuery.Proofs.Condition.Compile
import RecordQuery.Proofs.Condition.Meaning

/-!
# Pruned condition trees

Pruning takes away what a tree says nothing with: groups without leaves, at any depth, and groups
around a single node. A tree and what is left of it compile to the same predicate, part by part,
or fail with the same error.
-/

namespace RecordQuery.Condition

-- ---------------------------------------------------------------------------
-- Pruning
-- ---------------------------------------------------------------------------

/-- The branch of these nodes; without nodes it is left out. -/
def branchOf : List Condition → Option (List Condition)
  | [] => none
  | nodes => some nodes

/-- The group of two branches. Without nodes there is none, and a single node needs none. -/
def regroup : List Condition → List Condition → Option Condition
  | [], [] => none
  | [n], [] => some n
  | [], [n] => some n
  | all, any => some (.group (branchOf all) (branchOf any))

mutual

/-- The tree from the leaves upwards, without needless groups; nothing if it has no leaf. -/
def prune : Condition → Option Condition
  | .leaf l => some (.leaf l)
  | .group all any => regroup (pruneBranch all) (pruneBranch any)

def pruneBranch : Option (List Condition) → List Condition
  | none => []
  | some nodes => pruneNodes nodes

def pruneNodes : List Condition → List Condition
  | [] => []
  | n :: rest => (prune n).toList ++ pruneNodes rest

end

theorem pruneBranch_eq (branch : Option (List Condition)) :
    pruneBranch branch = pruneNodes (branch.getD []) := by
  cases branch <;> rfl

/-- No branch is empty, and every group has two nodes at least. -/
inductive Pruned : Condition → Prop
  | leaf (l : Leaf) : Pruned (.leaf l)
  | group {all any : Option (List Condition)} : all ≠ some [] → any ≠ some [] →
      2 ≤ (all.getD []).length + (any.getD []).length →
      (∀ n ∈ all.getD [], Pruned n) → (∀ n ∈ any.getD [], Pruned n) → Pruned (.group all any)

theorem getD_branchOf (nodes : List Condition) : (branchOf nodes).getD [] = nodes := by
  cases nodes <;> rfl

theorem branchOf_ne (nodes : List Condition) : branchOf nodes ≠ some [] := by
  cases nodes <;> simp [branchOf]

/-- Two branches make nothing, their only node, or a group of two nodes at least. -/
theorem regroup_cases (all any : List Condition) :
    (all = [] ∧ any = [] ∧ regroup all any = none) ∨
    (∃ n, all = [n] ∧ any = [] ∧ regroup all any = some n) ∨
    (∃ n, all = [] ∧ any = [n] ∧ regroup all any = some n) ∨
    (2 ≤ all.length + any.length ∧
      regroup all any = some (.group (branchOf all) (branchOf any))) := by
  match all, any with
  | [], [] => exact .inl ⟨rfl, rfl, rfl⟩
  | [n], [] => exact .inr (.inl ⟨n, rfl, rfl, rfl⟩)
  | [], [n] => exact .inr (.inr (.inl ⟨n, rfl, rfl, rfl⟩))
  | _ :: _ :: _, _ => exact .inr (.inr (.inr ⟨by simp; omega, rfl⟩))
  | _ :: _, _ :: _ => exact .inr (.inr (.inr ⟨by simp; omega, by simp [regroup]⟩))
  | [], _ :: _ :: _ => exact .inr (.inr (.inr ⟨by simp, rfl⟩))

-- ---------------------------------------------------------------------------
-- What is left
-- ---------------------------------------------------------------------------

theorem pruned_of_mem_pruneNodes {nodes : List Condition} {d : Condition}
    (ih : ∀ n ∈ nodes, ∀ d, n.prune = some d → d.Pruned) (h : d ∈ pruneNodes nodes) :
    d.Pruned := by
  induction nodes with
  | nil => simp [pruneNodes] at h
  | cons n rest ihrest =>
    obtain ⟨hn, hrest⟩ := List.forall_mem_cons.mp ih
    simp only [pruneNodes, List.mem_append, Option.mem_toList] at h
    rcases h with h | h
    · exact hn d h
    · exact ihrest hrest h

theorem pruned_prune {c d : Condition} (h : c.prune = some d) : d.Pruned := by
  induction c generalizing d with
  | leaf l =>
    rw [prune, Option.some.injEq] at h
    exact h ▸ .leaf l
  | group all any ihall ihany =>
    rw [prune, pruneBranch_eq, pruneBranch_eq] at h
    have hall (n : Condition) := pruned_of_mem_pruneNodes (d := n) fun m hm _ => ihall m hm
    have hany (n : Condition) := pruned_of_mem_pruneNodes (d := n) fun m hm _ => ihany m hm
    rcases regroup_cases (pruneNodes (all.getD [])) (pruneNodes (any.getD [])) with
      ⟨-, -, hnone⟩ | ⟨n, hn, -, hsome⟩ | ⟨n, -, hn, hsome⟩ | ⟨htwo, hsome⟩
    · simp [hnone] at h
    · obtain rfl : n = d := by simpa [hsome] using h
      exact hall n (by simp [hn])
    · obtain rfl : n = d := by simpa [hsome] using h
      exact hany n (by simp [hn])
    · obtain rfl : group _ _ = d := by simpa [hsome] using h
      refine .group (branchOf_ne _) (branchOf_ne _) ?_ ?_ ?_
      · simpa [getD_branchOf] using htwo
      · simpa [getD_branchOf] using hall
      · simpa [getD_branchOf] using hany

theorem Pruned.leaves_ne_nil {c : Condition} (h : c.Pruned) : c.leaves ≠ [] := by
  induction h with
  | leaf l => simp [leaves]
  | @group all any _ _ htwo _ _ ihall ihany =>
    simp only [leaves, branchLeaves_eq, ne_eq, List.append_eq_nil_iff, List.flatMap_eq_nil_iff]
    rintro ⟨hall, hany⟩
    -- a node of either branch would have a leaf
    have hall : all.getD [] = [] := List.eq_nil_iff_forall_not_mem.mpr fun n hn =>
      ihall n hn (hall n hn)
    have hany : any.getD [] = [] := List.eq_nil_iff_forall_not_mem.mpr fun n hn =>
      ihany n hn (hany n hn)
    simp [hall, hany] at htwo

theorem leaves_regroup (all any : List Condition) :
    ((regroup all any).map leaves).getD [] = all.flatMap leaves ++ any.flatMap leaves := by
  rcases regroup_cases all any with
    ⟨rfl, rfl, h⟩ | ⟨n, rfl, rfl, h⟩ | ⟨n, rfl, rfl, h⟩ | ⟨-, h⟩
  all_goals simp [h, leaves, branchLeaves_eq, getD_branchOf]

theorem leaves_pruneNodes {nodes : List Condition}
    (ih : ∀ n ∈ nodes, (n.prune.map leaves).getD [] = n.leaves) :
    (pruneNodes nodes).flatMap leaves = nodes.flatMap leaves := by
  induction nodes with
  | nil => rfl
  | cons n rest ihrest =>
    obtain ⟨hn, hrest⟩ := List.forall_mem_cons.mp ih
    rw [pruneNodes, List.flatMap_append, ihrest hrest, List.flatMap_cons, ← hn]
    cases n.prune <;> simp

/-- The leaves stay, in their order. -/
theorem leaves_prune (c : Condition) : (c.prune.map leaves).getD [] = c.leaves := by
  induction c with
  | leaf l => rfl
  | group all any ihall ihany =>
    rw [prune, leaves_regroup, pruneBranch_eq, pruneBranch_eq, leaves_pruneNodes ihall,
      leaves_pruneNodes ihany, leaves, branchLeaves_eq, branchLeaves_eq]

theorem prune_eq_none {c : Condition} : c.prune = none ↔ c.Vacuous := by
  have hleaves := leaves_prune c
  rw [Vacuous, ← hleaves]
  cases h : c.prune with
  | none => simp
  | some d => simpa using (pruned_prune h).leaves_ne_nil

-- ---------------------------------------------------------------------------
-- Compiling what is left
-- ---------------------------------------------------------------------------

section
variable (schema : Schema) (single : Bool)

theorem compileNodes_singleton (n : Condition) :
    compileNodes schema single [n] = (do
      let p ← compile schema single n
      return p.toList) :=
  compileNodes_toList schema single (some n)

/-- A group around one node, in either branch, compiles as the node does. -/
theorem compile_allOf_singleton (n : Condition) :
    compile schema single (allOf [n]) = compile schema single n := by
  rw [compile_allOf, compileNodes_singleton]
  cases compile schema single n with
  | error e => rfl
  | ok p => cases p <;> rfl

theorem compile_anyOf_singleton (n : Condition) :
    compile schema single (anyOf [n]) = compile schema single n := by
  rw [compile_anyOf, compileNodes_singleton]
  cases compile schema single n with
  | error e => rfl
  | ok p => cases p <;> rfl

theorem compile?_regroup (all any : List Condition) :
    compile? schema single (regroup all any) =
      compile schema single (.group (some all) (some any)) := by
  rcases regroup_cases all any with
    ⟨rfl, rfl, h⟩ | ⟨n, rfl, rfl, h⟩ | ⟨n, rfl, rfl, h⟩ | ⟨-, h⟩
  · rw [h]
    rfl
  · rw [h, compile?_some, ← compile_allOf_singleton, allOf, compile_group, compile_group]
    rfl
  · rw [h, compile?_some, ← compile_anyOf_singleton, anyOf, compile_group, compile_group]
    rfl
  · rw [h, compile?_some, compile_group, compile_group, getD_branchOf, getD_branchOf]
    rfl

theorem compileNodes_pruneNodes {nodes : List Condition}
    (ih : ∀ n ∈ nodes, compile? schema single n.prune = compile schema single n) :
    compileNodes schema single (pruneNodes nodes) = compileNodes schema single nodes := by
  induction nodes with
  | nil => rfl
  | cons n rest ihrest =>
    obtain ⟨hn, hrest⟩ := List.forall_mem_cons.mp ih
    rw [pruneNodes, compileNodes_append, compileNodes_toList, hn, ihrest hrest, compileNodes]
    cases compile schema single n <;> rfl

theorem compile?_prune (c : Condition) :
    compile? schema single c.prune = compile schema single c := by
  induction c with
  | leaf l => rfl
  | group all any ihall ihany =>
    rw [prune, compile?_regroup, pruneBranch_eq, pruneBranch_eq]
    simp only [compile, compileBranch_eq, Option.getD_some,
      compileNodes_pruneNodes schema single ihall, compileNodes_pruneNodes schema single ihany]

end

-- ---------------------------------------------------------------------------
-- Two branches
-- ---------------------------------------------------------------------------

section
variable {schema : Schema} {single : Bool}

/-- A tree with a leaf compiles to a predicate if it compiles. -/
theorem exists_of_compile {c : Condition} (hleaf : ¬ c.Vacuous) {p : Option Predicate}
    (h : compile schema single c = .ok p) : ∃ q, p = some q := by
  cases p with
  | none => exact absurd ((compile_represents h).none_iff.mp rfl) hleaf
  | some q => exact ⟨q, rfl⟩

/-- The branches of a group stay apart: the group fails as the first of them that fails, or it is
the conjunction of two operands, however many nodes they come from. -/
theorem compile_two_branches {all any : List Condition} (hall : ¬ (allOf all).Vacuous)
    (hany : ¬ (anyOf any).Vacuous) :
    (∃ e, compile schema single (allOf all) = .error e ∧
      compile schema single (.group (some all) (some any)) = .error e) ∨
    (∃ p e, compile schema single (allOf all) = .ok (some p) ∧
      compile schema single (anyOf any) = .error e ∧
      compile schema single (.group (some all) (some any)) = .error e) ∨
    ∃ p q, compile schema single (allOf all) = .ok (some p) ∧
      compile schema single (anyOf any) = .ok (some q) ∧
      compile schema single (.group (some all) (some any)) = .ok (some (.and [p, q])) := by
  rw [compile_group, Option.getD_some, Option.getD_some]
  cases hp : compile schema single (allOf all) with
  | error e => exact .inl ⟨e, rfl, rfl⟩
  | ok p =>
    obtain ⟨p, rfl⟩ := exists_of_compile hall hp
    cases hq : compile schema single (anyOf any) with
    | error e => exact .inr (.inl ⟨p, e, rfl, rfl, rfl⟩)
    | ok q =>
      obtain ⟨q, rfl⟩ := exists_of_compile hany hq
      exact .inr (.inr ⟨p, q, rfl, rfl, rfl⟩)

end

/-- A tree and what pruning leaves of it compile alike, to equal predicates or equal errors. What
is left has all the leaves in their order and no needless group, and it is nothing for a tree
without leaves. The setting for flat memberships makes no difference to a tree, and a group
with leaves in both branches is the conjunction of what its branches compile to alone. -/
theorem pruned_compiles_alike (schema : Schema) (single : Bool) (c : Condition) :
    compile? schema single c.prune = compile? schema single (some c) ∧
    (c.prune = none ↔ c.Vacuous) ∧
    (∀ d, c.prune = some d → d.Pruned ∧ d.leaves = c.leaves) ∧
    (∀ other, compile? schema other (some c) = compile? schema single (some c)) ∧
    ∀ all any, c = .group (some all) (some any) → ¬ (allOf all).Vacuous → ¬ (anyOf any).Vacuous →
      (∃ e, compile? schema single (some (allOf all)) = .error e ∧
        compile? schema single (some c) = .error e) ∨
      (∃ p e, compile? schema single (some (allOf all)) = .ok (some p) ∧
        compile? schema single (some (anyOf any)) = .error e ∧
        compile? schema single (some c) = .error e) ∨
      ∃ p q, compile? schema single (some (allOf all)) = .ok (some p) ∧
        compile? schema single (some (anyOf any)) = .ok (some q) ∧
        compile? schema single (some c) = .ok (some (.and [p, q])) := by
  refine ⟨compile?_prune schema single c, prune_eq_none, fun d hd => ⟨pruned_prune hd, ?_⟩,
    fun other => compile_switch other single c, ?_⟩
  · simpa [hd] using leaves_prune c
  · rintro all any rfl hall hany
    exact compile_two_branches hall hany

/-- Two names or an age, behind empty groups and groups of one: the conjunction of the first
branch is not merged with that of the branches. -/
theorem pruned_compiles_alike_heroes :
    let age := Condition.leaf ⟨"age", .ge, .word 18⟩
    let name := Condition.leaf ⟨"name", .eq, .string "n1"⟩
    let team := Condition.leaf ⟨"team_id", .oneOf, .array [.word 1]⟩
    let nothing := Condition.group (some [anyOf []]) none
    let all := [allOf [anyOf [age], nothing], name]
    let any := [nothing, anyOf [allOf [team]]]
    let c := Condition.group (some all) (some any)
    ¬ (allOf all).Vacuous ∧ ¬ (anyOf any).Vacuous ∧
      c.prune = some (.group (some [age, name]) (some [team])) ∧
      compile? Sample.heroSchema true c.prune = .ok (some (.and
        [.and [.compare "age" .ge (.word 18), .compare "name" .eq (.string "n1")],
          .oneOf "team_id" [.word 1]])) := by
  intro age name team nothing all any c
  have hall : ¬ (allOf all).Vacuous := by simp [Vacuous, leaves, branchLeaves, nodesLeaves,
    allOf, anyOf, all, age]
  have hany : ¬ (anyOf any).Vacuous := by simp [Vacuous, leaves, branchLeaves, nodesLeaves,
    allOf, anyOf, any, team, nothing]
  obtain ⟨hprune, -, -, -, hbranches⟩ := pruned_compiles_alike Sample.heroSchema true c
  refine ⟨hall, hany, rfl, hprune.trans ?_⟩
  rcases hbranches all any rfl hall hany with ⟨e, he, -⟩ | ⟨p, e, -, he, -⟩ | ⟨p, q, hp, hq, h⟩
  · cases he
  · cases he
  · cases hp
    cases hq
    exact h

end RecordQuery.Condition
