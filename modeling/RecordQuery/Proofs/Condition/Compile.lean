import RecordQuery.Condition.Compilation

/-!
# Compiling nodes

Nodes compile one after the other, so a list of them compiles as its parts do; a tree does not
depend on the setting for flat memberships.
-/

namespace RecordQuery

namespace Condition

theorem compileNodes_append (schema : Schema) (single : Bool) (xs ys : List Condition) :
    compileNodes schema single (xs ++ ys) = (do
      let ps ← compileNodes schema single xs
      let qs ← compileNodes schema single ys
      return ps ++ qs) := by
  induction xs with
  | nil =>
    simp only [List.nil_append, compileNodes]
    cases compileNodes schema single ys <;> rfl
  | cons n rest ih =>
    simp only [List.cons_append, compileNodes, ih]
    cases compile schema single n with
    | error e => rfl
    | ok p =>
      cases compileNodes schema single rest with
      | error e => rfl
      | ok ps =>
        cases compileNodes schema single ys with
        | error e => rfl
        | ok qs => exact congrArg Except.ok (List.append_assoc ..).symm

theorem compile_allOf (schema : Schema) (single : Bool) (nodes : List Condition) :
    compile schema single (allOf nodes) = (do
      let ps ← compileNodes schema single nodes
      return combine Predicate.conjunction ps) := by
  simp only [allOf, compile, compileBranch]
  cases compileNodes schema single nodes with
  | error e => rfl
  | ok ps => cases ps <;> rfl

theorem compile_anyOf (schema : Schema) (single : Bool) (nodes : List Condition) :
    compile schema single (anyOf nodes) = (do
      let ps ← compileNodes schema single nodes
      return combine Predicate.disjunction ps) := by
  simp only [anyOf, compile, compileBranch]
  cases compileNodes schema single nodes with
  | error e => rfl
  | ok ps => cases ps <;> rfl

/-- A group compiles as the groups of its branches, one branch each, taken together. -/
theorem compile_group (schema : Schema) (single : Bool) (all any : Option (List Condition)) :
    compile schema single (.group all any) = (do
      let p ← compile schema single (allOf (all.getD []))
      let q ← compile schema single (anyOf (any.getD []))
      return combine Predicate.conjunction (p.toList ++ q.toList)) := by
  simp only [compile_allOf, compile_anyOf, compile, compileBranch_eq]
  cases compileNodes schema single (all.getD []) with
  | error e => rfl
  | ok ps => cases compileNodes schema single (any.getD []) <;> rfl

theorem compileNodes_toList (schema : Schema) (single : Bool) (condition : Option Condition) :
    compileNodes schema single condition.toList = (do
      let p ← compile? schema single condition
      return p.toList) := by
  cases condition with
  | none => rfl
  | some c =>
    simp only [Option.toList_some, compileNodes, compile?]
    cases compile schema single c with
    | error e => rfl
    | ok p => exact congrArg Except.ok (List.append_nil _)

/-- The setting for memberships in one value concerns flat parameters alone. -/
theorem compile_switch {schema : Schema} (a b : Bool) (c : Condition) :
    compile schema a c = compile schema b c := by
  have hnodes (nodes : List Condition)
      (ih : ∀ n ∈ nodes, compile schema a n = compile schema b n) :
      compileNodes schema a nodes = compileNodes schema b nodes := by
    induction nodes with
    | nil => rfl
    | cons n rest ihrest =>
      obtain ⟨hn, hrest⟩ := List.forall_mem_cons.mp ih
      simp only [compileNodes, hn, ihrest hrest]
  induction c with
  | leaf l =>
    have hleaf : compileLeaf schema a l = compileLeaf schema b l := by
      unfold compileLeaf
      cases schema.scalarField l.field with
      | error e => rfl
      | ok f => cases l.operator <;> rfl
    simp only [compile, hleaf]
  | group all any ihall ihany =>
    simp only [compile, compileBranch_eq, hnodes _ ihall, hnodes _ ihany]

end Condition

end RecordQuery
