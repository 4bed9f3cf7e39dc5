import RecordQuery.Proofs.Collection.Compile
import RecordQuery.Proofs.Condition.Compile
import RecordQuery.Sample.Heroes

/-!
# Flat parameters as a condition tree

Every flat parameter with a value stands for one leaf. A flat query with a condition and
the complex query whose tree is the conjunction of those leaves and the condition ask the
same question: the predicates are nested differently and combine to the same one.
-/

namespace RecordQuery

/-- The leaves that the parameters stand for, in order; a null value stands for none. -/
def Parameters.leaves (schema : Schema) (params : List (String × Json)) : List Leaf :=
  params.filterMap fun e =>
    if e.2.isNull then none
    else (FlatKey.parse schema e.1).toOption.map fun k => ⟨k.field, k.operator, e.2⟩

/-- The two grammars differ only in the rewriting of a membership in one value. -/
theorem Operator.compile_flat (op : Operator) (f : Field) (value : Json) :
    op.compile f value .flat false = op.compile f value .tree false := by
  cases op <;> rfl

namespace Parameters

theorem toOption_compileOne {schema : Schema} {key : String} {k : FlatKey} (value : Json)
    (h : FlatKey.parse schema key = .ok k) :
    (compileOne schema false key value).toOption =
      (Condition.compileLeaf schema false ⟨k.field, k.operator, value⟩).toOption := by
  simp only [compileOne, Condition.compileLeaf, Schema.scalarField, h, toOption_bind, toOption_ok,
    Option.bind_some]
  cases schema.field? k.field with
  | none => rfl
  | some f => cases hf : f.isRelation <;> simp [hf, Operator.compile_flat]

theorem toOption_compile {schema : Schema} {params : List (String × Json)}
    (h : ∀ e ∈ params, e.2.isNull = false → ∃ k, FlatKey.parse schema e.1 = .ok k) :
    (compile schema false params).toOption =
      (Condition.compileNodes schema false ((leaves schema params).map .leaf)).toOption := by
  induction params with
  | nil => rfl
  | cons e rest ih =>
    obtain ⟨key, value⟩ := e
    obtain ⟨hkey, hrest⟩ := List.forall_mem_cons.mp h
    cases hnull : value.isNull with
    | true =>
      have hleaves : leaves schema ((key, value) :: rest) = leaves schema rest := by
        simp [leaves, hnull]
      rw [hleaves, ← ih hrest]
      simp [compile, hnull]
    | false =>
      obtain ⟨k, hk⟩ := hkey hnull
      have hleaves : leaves schema ((key, value) :: rest) =
          ⟨k.field, k.operator, value⟩ :: leaves schema rest := by
        simp [leaves, hnull, hk]
      simp only [compile, hnull, Bool.false_eq_true, if_false, hleaves, List.map_cons,
        Condition.compileNodes, Condition.compile, toOption_bind, toOption_pure,
        toOption_compileOne value hk, ih hrest]
      cases (Condition.compileLeaf schema false ⟨k.field, k.operator, value⟩).toOption <;> rfl

end Parameters

/-- The condition tree of a flat request: its leaves and its condition must all hold. -/
def Parameters.tree (schema : Schema) (params : List (String × Json))
    (condition : Option Condition) : Condition :=
  .allOf ((leaves schema params).map .leaf ++ condition.toList)

/-- The two queries agree in everything but the filter. -/
structure FlatQuery.SameSettings (q : FlatQuery) (t : ComplexQuery) : Prop where
  page : q.page = t.page
  pageSize : q.pageSize = t.pageSize
  sortBy : q.sortBy = t.sortBy
  sortOrder : q.sortOrder = t.sortOrder
  count : q.count = t.count
  fields : q.selection.names = t.selection.names

namespace Collection

section
variable {c : Collection} {params : List (String × Json)}
  (hsingle : c.config.singleValueInAsEq = false)
  (hkeys : ∀ e ∈ params, e.2.isNull = false → ∃ k, FlatKey.parse c.schema e.1 = .ok k)
include hsingle hkeys

theorem toOption_compilePredicates_tree (condition : Option Condition) :
    (c.compilePredicates [] (some (Parameters.tree c.schema params condition))).toOption =
      (c.compilePredicates params condition).toOption.map fun ps =>
        (Condition.combine Predicate.conjunction ps).toList := by
  have hflat := Parameters.toOption_compile hkeys
  simp only [compilePredicates, hsingle, Parameters.tree, Parameters.compile,
    Condition.compile?_some, Condition.compile_allOf, Condition.compileNodes_append,
    Condition.compileNodes_toList, toOption_bind, toOption_pure, toOption_ok, ← hflat]
  cases (Parameters.compile c.schema false params).toOption with
  | none => rfl
  | some ps => cases (Condition.compile? c.schema false condition).toOption <;> rfl

/-- The filters of the two forms are both refused, or both accepted. -/
theorem compilePredicates_tree (condition : Option Condition) :
    (∃ e e', c.compilePredicates params condition = .error e ∧
      c.compilePredicates [] (some (Parameters.tree c.schema params condition)) = .error e') ∨
    ∃ ps, c.compilePredicates params condition = .ok ps ∧
      c.compilePredicates [] (some (Parameters.tree c.schema params condition)) =
        .ok (Condition.combine Predicate.conjunction ps).toList := by
  have h := toOption_compilePredicates_tree hsingle hkeys condition
  cases hp : c.compilePredicates params condition with
  | error e =>
    simp only [hp, toOption_error, Option.map_none] at h
    obtain ⟨e', he⟩ := toOption_eq_none.mp h
    exact .inl ⟨e, e', rfl, he⟩
  | ok ps =>
    simp only [hp, toOption_ok, Option.map_some] at h
    exact .inr ⟨ps, rfl, toOption_eq_some.mp h⟩

end

/-- With memberships left as they are, a flat query with a condition and the complex query
over its tree are both refused, or ask the same question of every store. -/
theorem list_eq_search (c : Collection) (q : FlatQuery) (condition : Option Condition)
    (t : ComplexQuery) (hsingle : c.config.singleValueInAsEq = false)
    (hkeys : ∀ e ∈ q.filterParams, e.2.isNull = false →
      ∃ k, FlatKey.parse c.schema e.1 = .ok k)
    (hsame : q.SameSettings t)
    (htree : t.condition = some (Parameters.tree c.schema q.filterParams condition)) :
    (∃ e e', c.compileFlat q condition = .error e ∧ c.compileComplex t = .error e') ∨
    ∃ a b, c.compileFlat q condition = .ok a ∧ c.compileComplex t = .ok b ∧
      a.statement.predicate = b.statement.predicate ∧
      a.statement.sql = b.statement.sql ∧
      a.statement.rowQuery c.schema = b.statement.rowQuery c.schema ∧
      a.statement.countQuery c.schema = b.statement.countQuery c.schema ∧
      a.fields = b.fields ∧
      c.list q condition = c.search t := by
  have hcombine (ps : List Predicate) :
      Condition.combine Predicate.conjunction ps = Condition.combine Predicate.conjunction
        (Condition.combine Predicate.conjunction ps).toList := by
    cases ps <;> rfl
  have hfields : OutputFields.ofSelection c.schema q.selection =
      OutputFields.ofSelection c.schema t.selection := by
    simp [OutputFields.ofSelection, hsame.fields]
  have hfilter := compilePredicates_tree hsingle hkeys condition
  rw [← htree] at hfilter
  have hcompile := compile_same (c.ofFlat q condition) (c.ofComplex t)
    (hfilter.imp id fun ⟨ps, hflat, hcomplex⟩ => ⟨ps, _, hflat, hcomplex, hcombine ps⟩) hfields
    (by simp [ofFlat, ofComplex, hsame.sortBy, hsame.sortOrder])
    (by simp [ofFlat, ofComplex, hsame.page, hsame.pageSize])
  refine hcompile.imp id fun ⟨a, b, ha, hb, hstmt, hab⟩ => ?_
  have hflat : c.compileFlat q condition = .ok a := ha
  have hcomplex : c.compileComplex t = .ok b := hb
  refine ⟨a, b, ha, hb, hstmt.predicate, hstmt.sql, hstmt.rowQuery c.schema,
    hstmt.countQuery c.schema, hab, ?_⟩
  simp only [list, search, hflat, hcomplex, ← hsame.count]
  exact execute_same hstmt q.count

/-- A bare key, a key with an operator and a null value, together with a condition. -/
theorem list_eq_search_heroes :
    let c : Collection := ⟨"Hero", Sample.heroSchema, { singleValueInAsEq := false }⟩
    let q : FlatQuery :=
      { params := [("age__in", .string "18"), ("intro__lt", .null), ("is_deprecated", .bool false)]
        count := true }
    let condition := Condition.leaf ⟨"team_id", .eq, .word 1⟩
    let t : ComplexQuery :=
      { count := true
        condition := some (Parameters.tree c.schema q.filterParams (some condition)) }
    (∃ a, c.compileFlat q (some condition) = .ok a) ∧
      c.list q (some condition) = c.search t := by
  intro c q condition t
  have hok : ∃ a, c.compileFlat q (some condition) = .ok a := ⟨_, rfl⟩
  refine ⟨hok, ?_⟩
  have hkeys : ∀ e ∈ q.filterParams, e.2.isNull = false →
      ∃ k, FlatKey.parse c.schema e.1 = .ok k := by
    intro e he hnull
    have he : e = ("age__in", .string "18") ∨ e = ("intro__lt", .null) ∨
        e = ("is_deprecated", .bool false) := by
      simpa [q, FlatQuery.filterParams] using he
    rcases he with rfl | rfl | rfl
    · exact ⟨⟨"age", .oneOf⟩, by rfl⟩
    · exact nomatch hnull
    · exact ⟨⟨"is_deprecated", .eq⟩, by rfl⟩
  rcases list_eq_search c q (some condition) t rfl hkeys ⟨rfl, rfl, rfl, rfl, rfl, rfl⟩ rfl with
    ⟨e, _, he, _⟩ | ⟨_, _, _, _, _, _, _, _, _, h⟩
  · obtain ⟨a, ha⟩ := hok
    exact nomatch ha.symm.trans he
  · exact h

end Collection

end RecordQuery
