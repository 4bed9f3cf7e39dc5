import RecordQuery.Condition.Compilation
import RecordQuery.Predicate.Evaluation
import RecordQuery.Proofs.Outcome
import RecordQuery.Proofs.Text.Pattern
import RecordQuery.Sample.Heroes

/-!
# What a condition tree means

`Condition.Holds` reads a tree as it stands, with no predicate between: nodes that hold no
leaf do not count, at any depth. A tree that compiles to a predicate is read by that
predicate the same way, and the trees that compile to none are those without leaves.
-/

namespace RecordQuery

-- ---------------------------------------------------------------------------
-- Leaves
-- ---------------------------------------------------------------------------

/-- The column's value is the text, or a list that holds it. -/
def Json.HoldsText (actual : Json) (text : String) : Prop :=
  actual = .string text ∨ ∃ items, actual = .array items ∧ .string text ∈ items

/-- What an operator with its value asks of the value in a column of the field. -/
def Operator.Accepts (op : Operator) (f : Field) (value actual : Json) : Prop :=
  match op with
  | .eq => Comparison.eq.holds actual value = true
  | .ne => Comparison.ne.holds actual value = true
  | .lt => Comparison.lt.holds actual value = true
  | .gt => Comparison.gt.holds actual value = true
  | .le => Comparison.le.holds actual value = true
  | .ge => Comparison.ge.holds actual value = true
  | .oneOf =>
    ∃ values, f.values value = .ok values ∧ actual.isNull = false ∧
      ∃ v ∈ values, actual.filterEq v = true
  | .noneOf =>
    ∃ values, f.values value = .ok values ∧ actual.isNull = false ∧
      ∀ v ∈ values, actual.filterEq v = false
  | .jsonContains => ∃ text, f.scalarText value = .ok text ∧ actual.HoldsText text
  | .like =>
    ∃ needle, f.scalarText value = .ok needle ∧
      ∃ text, actual.patternText = some text ∧ needle.toList <:+: text.toList

/-- The leaf's operator accepts the column of the leaf's field. -/
def Leaf.Holds (schema : Schema) (r : Record) (l : Leaf) : Prop :=
  ∃ f, schema.scalarField l.field = .ok f ∧
    l.operator.Accepts f l.value (column r.columns f.name)

theorem Json.same_string {j : Json} {s : String} : j.same (.string s) = true ↔ j = .string s := by
  cases j <;> simp [Json.same]

theorem holds_holdsText {row : KeyMap Json} {field text : String} :
    (Predicate.holdsText field text).holds row = true ↔ (column row field).HoldsText text := by
  simp only [Predicate.holds, Json.HoldsText]
  cases column row field <;> simp [Json.same_string]

theorem holds_contains {row : KeyMap Json} {field needle : String} :
    (Predicate.contains field needle).holds row = true ↔
      ∃ text, (column row field).patternText = some text ∧
        needle.toList <:+: text.toList := by
  simp only [Predicate.contains, Predicate.holds]
  cases (column row field).patternText <;> simp [Pattern.accepts_containing]

theorem compile_accepts {op : Operator} {f : Field} {value : Json} {single : Bool}
    {p : Predicate} (h : op.compile f value .tree single = .ok p) (row : KeyMap Json) :
    p.holds row = true ↔ op.Accepts f value (column row f.name) := by
  cases op with
  | oneOf =>
    simp only [Operator.compile, bind_ok, pure_ok] at h
    obtain ⟨values, hv, rfl⟩ := h
    simp [Operator.Accepts, Predicate.holds, hv]
  | noneOf =>
    simp only [Operator.compile, bind_ok, pure_ok] at h
    obtain ⟨values, hv, rfl⟩ := h
    simp [Operator.Accepts, Predicate.holds, hv]
  | jsonContains =>
    simp only [Operator.compile, bind_ok, pure_ok] at h
    obtain ⟨text, ht, rfl⟩ := h
    simp [Operator.Accepts, holds_holdsText, ht]
  | like =>
    simp only [Operator.compile, bind_ok, pure_ok] at h
    obtain ⟨needle, hn, rfl⟩ := h
    simp [Operator.Accepts, holds_contains, hn]
  | _ =>
    simp only [Operator.compile, Except.ok.injEq] at h
    subst h
    exact Iff.rfl

theorem compileLeaf_holds {schema : Schema} {single : Bool} {l : Leaf} {p : Predicate}
    (h : Condition.compileLeaf schema single l = .ok p) (r : Record) :
    p.holds r.columns = true ↔ l.Holds schema r := by
  simp only [Condition.compileLeaf, bind_ok] at h
  obtain ⟨f, hf, hp⟩ := h
  simp [Leaf.Holds, hf, compile_accepts hp]

-- ---------------------------------------------------------------------------
-- Trees
-- ---------------------------------------------------------------------------

namespace Condition

mutual

def leaves : Condition → List Leaf
  | .leaf l => [l]
  | .group all any => branchLeaves all ++ branchLeaves any

def branchLeaves : Option (List Condition) → List Leaf
  | none => []
  | some nodes => nodesLeaves nodes

def nodesLeaves : List Condition → List Leaf
  | [] => []
  | n :: rest => leaves n ++ nodesLeaves rest

end

theorem branchLeaves_eq (branch : Option (List Condition)) :
    branchLeaves branch = (branch.getD []).flatMap leaves := by
  have hnodes (nodes : List Condition) : nodesLeaves nodes = nodes.flatMap leaves := by
    induction nodes with
    | nil => rfl
    | cons n rest ih => simp [nodesLeaves, ih]
  cases branch with
  | none => rfl
  | some nodes => exact hnodes nodes

/-- There is no leaf in the tree. -/
def Vacuous (c : Condition) : Prop := c.leaves = []

@[simp] theorem not_vacuous_leaf (l : Leaf) : ¬ (Condition.leaf l).Vacuous := by
  simp [Vacuous, leaves]

theorem vacuous_group {all any : Option (List Condition)} :
    (group all any).Vacuous ↔
      (∀ n ∈ all.getD [], n.Vacuous) ∧ ∀ n ∈ any.getD [], n.Vacuous := by
  simp [Vacuous, leaves, branchLeaves_eq]

/-- A tree read directly on a record. -/
inductive Holds (schema : Schema) (r : Record) : Condition → Prop
  | leaf {l} : l.Holds schema r → Holds schema r (.leaf l)
  /-- No node of the second branch counts. -/
  | all {all any} : (∀ n ∈ all.getD [], ¬ n.Vacuous → Holds schema r n) →
      (∀ n ∈ any.getD [], n.Vacuous) → Holds schema r (.group all any)
  | any {all any n} : (∀ n ∈ all.getD [], ¬ n.Vacuous → Holds schema r n) →
      n ∈ any.getD [] → ¬ n.Vacuous → Holds schema r n → Holds schema r (.group all any)

theorem holds_leaf {schema : Schema} {r : Record} {l : Leaf} :
    (Condition.leaf l).Holds schema r ↔ l.Holds schema r :=
  ⟨fun | .leaf h => h, .leaf⟩

theorem holds_group {schema : Schema} {r : Record} {all any : Option (List Condition)} :
    (group all any).Holds schema r ↔
      (∀ n ∈ all.getD [], ¬ n.Vacuous → n.Holds schema r) ∧
        ((∀ n ∈ any.getD [], n.Vacuous) ∨
          ∃ n ∈ any.getD [], ¬ n.Vacuous ∧ n.Holds schema r) := by
  constructor
  · intro h
    cases h with
    | all hall hvac => exact ⟨hall, .inl hvac⟩
    | any hall hn hv hh => exact ⟨hall, .inr ⟨_, hn, hv, hh⟩⟩
  · rintro ⟨hall, hvac | ⟨n, hn, hv, hh⟩⟩
    · exact .all hall hvac
    · exact .any hall hn hv hh

-- ---------------------------------------------------------------------------
-- Compiled nodes
-- ---------------------------------------------------------------------------

section
variable {schema : Schema} {single : Bool} {nodes : List Condition} {ps : List Predicate}

/-- The predicates of compiled nodes are those of the single nodes. -/
theorem compileNodes_ok (h : compileNodes schema single nodes = .ok ps) :
    (∀ n ∈ nodes, ∃ p, compile schema single n = .ok p) ∧
      ∀ p, p ∈ ps ↔ ∃ n ∈ nodes, compile schema single n = .ok (some p) := by
  induction nodes generalizing ps with
  | nil =>
    simp only [compileNodes, Except.ok.injEq] at h
    subst h
    simp
  | cons n rest ih =>
    simp only [compileNodes, bind_ok, pure_ok] at h
    obtain ⟨p, hp, qs, hqs, rfl⟩ := h
    obtain ⟨htotal, hmem⟩ := ih hqs
    constructor
    · intro m hm
      rcases List.mem_cons.mp hm with rfl | hm
      · exact ⟨p, hp⟩
      · exact htotal m hm
    · intro q
      simp [hmem, hp, eq_comm]

theorem compileNodes_none (h : ∀ n ∈ nodes, compile schema single n = .ok none) :
    compileNodes schema single nodes = .ok [] := by
  induction nodes with
  | nil => rfl
  | cons n rest ih =>
    obtain ⟨hn, hrest⟩ := List.forall_mem_cons.mp h
    simp [compileNodes, hn, ih hrest, bind, Except.bind, pure, Except.pure]

end

theorem combine_eq_none {join : List Predicate → Predicate} {ps : List Predicate} :
    combine join ps = none ↔ ps = [] := by
  cases ps <;> simp [combine]

-- ---------------------------------------------------------------------------
-- Compiled trees
-- ---------------------------------------------------------------------------

/-- A compiled tree, an absent predicate accepting every record, against the tree itself. -/
structure Represents (schema : Schema) (p : Option Predicate) (c : Condition) : Prop where
  none_iff : p = none ↔ c.Vacuous
  holds_iff (r : Record) : p.all (·.holds r.columns) = true ↔ c.Holds schema r

section
variable {schema : Schema} {single : Bool} {nodes : List Condition} {ps : List Predicate}
  (ih : ∀ n ∈ nodes, ∀ {p}, compile schema single n = .ok p → Represents schema p n)
  (h : compileNodes schema single nodes = .ok ps)
include ih h

theorem compileNodes_eq_nil : ps = [] ↔ ∀ n ∈ nodes, n.Vacuous := by
  obtain ⟨htotal, hmem⟩ := compileNodes_ok h
  constructor
  · rintro rfl n hn
    obtain ⟨p, hp⟩ := htotal n hn
    refine (ih n hn hp).none_iff.mp ?_
    cases p with
    | none => rfl
    | some q => exact absurd ((hmem q).mpr ⟨n, hn, hp⟩) List.not_mem_nil
  · intro hv
    refine List.eq_nil_iff_forall_not_mem.mpr fun p hp => ?_
    obtain ⟨n, hn, hc⟩ := (hmem p).mp hp
    exact nomatch (ih n hn hc).none_iff.mpr (hv n hn)

theorem all_compileNodes (r : Record) :
    ps.all (·.holds r.columns) = true ↔ ∀ n ∈ nodes, ¬ n.Vacuous → n.Holds schema r := by
  obtain ⟨htotal, hmem⟩ := compileNodes_ok h
  rw [List.all_eq_true]
  constructor
  · intro hall n hn hv
    obtain ⟨p, hp⟩ := htotal n hn
    refine ((ih n hn hp).holds_iff r).mp ?_
    cases p with
    | none => rfl
    | some q => exact hall q ((hmem q).mpr ⟨n, hn, hp⟩)
  · intro hall p hp
    obtain ⟨n, hn, hc⟩ := (hmem p).mp hp
    have hv : ¬ n.Vacuous := fun hv => nomatch (ih n hn hc).none_iff.mpr hv
    exact ((ih n hn hc).holds_iff r).mpr (hall n hn hv)

theorem any_compileNodes (r : Record) :
    ps.any (·.holds r.columns) = true ↔ ∃ n ∈ nodes, ¬ n.Vacuous ∧ n.Holds schema r := by
  obtain ⟨htotal, hmem⟩ := compileNodes_ok h
  rw [List.any_eq_true]
  constructor
  · rintro ⟨p, hp, hh⟩
    obtain ⟨n, hn, hc⟩ := (hmem p).mp hp
    have hv : ¬ n.Vacuous := fun hv => nomatch (ih n hn hc).none_iff.mpr hv
    exact ⟨n, hn, hv, ((ih n hn hc).holds_iff r).mp hh⟩
  · rintro ⟨n, hn, hv, hh⟩
    obtain ⟨p, hp⟩ := htotal n hn
    cases p with
    | none => exact absurd ((ih n hn hp).none_iff.mp rfl) hv
    | some q => exact ⟨q, (hmem q).mpr ⟨n, hn, hp⟩, ((ih n hn hp).holds_iff r).mpr hh⟩

end

/-- Of the two branches of a group, one without operands leaves the other alone. -/
theorem all_combine_branches (row : KeyMap Json) (all any : List Predicate) :
    (combine Predicate.conjunction ((combine Predicate.conjunction all).toList ++
      (combine Predicate.disjunction any).toList)).all (·.holds row) =
      (all.all (·.holds row) && (any.isEmpty || any.any (·.holds row))) := by
  have hcombine (ps : List Predicate) :
      (combine Predicate.conjunction ps).all (·.holds row) = ps.all (·.holds row) := by
    cases ps <;> simp [combine, Predicate.holds_conjunction]
  rw [hcombine, List.all_append]
  congr 1
  · cases all <;> simp [combine, Predicate.holds_conjunction]
  · cases any <;> simp [combine, Predicate.holds_disjunction]

theorem compile_represents {schema : Schema} {single : Bool} {c : Condition}
    {p : Option Predicate} (h : compile schema single c = .ok p) : Represents schema p c := by
  induction c generalizing p with
  | leaf l =>
    simp only [compile, bind_ok, pure_ok] at h
    obtain ⟨q, hq, rfl⟩ := h
    refine ⟨by simp, fun r => ?_⟩
    rw [Option.all_some, holds_leaf, compileLeaf_holds hq]
  | group all any ihall ihany =>
    simp only [compile, compileBranch_eq, bind_ok, pure_ok] at h
    obtain ⟨ps, hps, qs, hqs, rfl⟩ := h
    have hp := compileNodes_eq_nil (fun n hn _ => ihall n hn) hps
    have hq := compileNodes_eq_nil (fun n hn _ => ihany n hn) hqs
    refine ⟨?_, fun r => ?_⟩
    · rw [combine_eq_none, vacuous_group, ← hp, ← hq]
      cases ps <;> cases qs <;> simp [combine]
    · rw [all_combine_branches, Bool.and_eq_true, Bool.or_eq_true, List.isEmpty_iff, hq,
        all_compileNodes (fun n hn _ => ihall n hn) hps,
        any_compileNodes (fun n hn _ => ihany n hn) hqs, holds_group]

theorem compile_vacuous {schema : Schema} {single : Bool} {c : Condition} (h : c.Vacuous) :
    compile schema single c = .ok none := by
  induction c with
  | leaf l => exact absurd h (not_vacuous_leaf l)
  | group all any ihall ihany =>
    obtain ⟨hall, hany⟩ := vacuous_group.mp h
    simp only [compile, compileBranch_eq,
      compileNodes_none fun n hn => ihall n hn (hall n hn),
      compileNodes_none fun n hn => ihany n hn (hany n hn)]
    rfl

/-- A compiled tree accepts the records on which the tree itself holds, and it is the trees
without leaves that compile to no predicate; none of those fails. -/
theorem compile?_holds_iff (schema : Schema) (single : Bool) (c : Condition) :
    (∀ p, compile? schema single (some c) = .ok p →
      ∀ r : Record, p.all (·.holds r.columns) = true ↔ c.Holds schema r) ∧
    (compile? schema single (some c) = .ok none ↔ c.Vacuous) := by
  constructor
  · intro p h r
    exact (compile_represents h).holds_iff r
  · constructor
    · intro h
      exact (compile_represents h).none_iff.mp rfl
    · intro h
      exact compile_vacuous h

/-- An empty group beside a leaf makes the alternative neither true nor false. -/
theorem compile?_holds_iff_beside_empty_group :
    let c := anyOf [.group none none, allOf [.leaf ⟨"age", .ge, .word 18⟩, .group (some []) none]]
    let p := Predicate.compare "age" .ge (.word 18)
    compile? Sample.heroSchema true (some c) = .ok (some p) ∧
      ∀ r : Record, (some p).all (·.holds r.columns) = true ↔ c.Holds Sample.heroSchema r :=
  ⟨rfl, (compile?_holds_iff _ true _).1 _ rfl⟩

end Condition

end RecordQuery
