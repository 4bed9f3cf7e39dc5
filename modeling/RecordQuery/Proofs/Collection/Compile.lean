import RecordQuery.Collection
import RecordQuery.Proofs.Outcome

/-!
# Compiled requests

What a request that compiles is made of, and when two statements ask the same question:
they may list their predicates differently as long as these combine to the same one.
-/

namespace RecordQuery

/-- The statements differ at most in how their filter is divided into predicates. -/
structure Statement.Same (a b : Statement) : Prop where
  table : a.table = b.table
  columns : a.columns = b.columns
  predicate : a.predicate = b.predicate
  orderBy : a.orderBy = b.orderBy
  window : a.window = b.window
  relations : a.relations = b.relations

namespace Statement.Same

variable {a b : Statement} (h : a.Same b)
include h

theorem sql : a.sql = b.sql := by
  simp [Statement.sql, Statement.selectList, Statement.orderSql, h.table, h.columns,
    h.predicate, h.orderBy, h.window]

theorem bindFilter (schema : Schema) : a.bindFilter schema = b.bindFilter schema := by
  funext q
  simp [Statement.bindFilter, h.predicate]

theorem rowQuery (schema : Schema) : a.rowQuery schema = b.rowQuery schema := by
  simp [Statement.rowQuery, Statement.recordSql, Statement.orderSql, Statement.bindWindow,
    h.bindFilter, h.table, h.columns, h.orderBy, h.window]

theorem countQuery (schema : Schema) : a.countQuery schema = b.countQuery schema := by
  simp [Statement.countQuery, h.bindFilter, h.table]

theorem matching (s : Store) : s.matching a = s.matching b := by
  simp [Store.matching, h.table, h.predicate]

theorem fetch (schema : Schema) : Store.fetch schema a = Store.fetch schema b := by
  have hanswer (s : Store) : s.answer schema a = s.answer schema b := by
    simp [Store.answer, h.matching, h.columns, h.orderBy, h.window, h.relations]
  simp [Store.fetch, hanswer]

theorem count : Store.count a = Store.count b := by
  simp [Store.count, h.matching]

end Statement.Same

theorem Statement.predicate_eq (s : Statement) :
    s.predicate = Condition.combine Predicate.conjunction s.predicates := by
  unfold Statement.predicate Condition.combine
  cases s.predicates <;> rfl

namespace Collection

/-- A request compiles when its filters, its sort and its window do. -/
theorem compile_ok {c : Collection} {r : ListRequest} {q : CompiledQuery} :
    c.compile r = .ok q ↔
      ∃ ps, c.compilePredicates r.params r.condition = .ok ps ∧
        ∃ keys, SortKey.parse c.schema r.sortBy r.sortOrder = .ok keys ∧
          ∃ w, c.window r.page r.pageSize = .ok w ∧
            ⟨{ table := c.schema.table
               columns := c.projection (.ofSelection c.schema r.selection)
               predicates := ps
               orderBy := keys
               window := some w
               relations := (OutputFields.ofSelection c.schema r.selection).relations },
              .ofSelection c.schema r.selection⟩ = q := by
  simp only [compile, bind_ok, pure_ok]

/-- A request is refused for its filters, else for its sort, else for its window. -/
theorem compile_error {c : Collection} {r : ListRequest} {e : QueryError} :
    c.compile r = .error e ↔
      c.compilePredicates r.params r.condition = .error e ∨
        ∃ ps, c.compilePredicates r.params r.condition = .ok ps ∧
          (SortKey.parse c.schema r.sortBy r.sortOrder = .error e ∨
            ∃ keys, SortKey.parse c.schema r.sortBy r.sortOrder = .ok keys ∧
              c.window r.page r.pageSize = .error e) := by
  simp only [compile, bind_error, pure, Except.pure, reduceCtorEq, and_false, exists_false,
    or_false]

/-- Requests with the same settings, whose filters are both refused or combine to the same
predicate, are both refused or ask the same question. -/
theorem compile_same {c : Collection} (r r' : ListRequest)
    (hfilter : (∃ e e', c.compilePredicates r.params r.condition = .error e ∧
        c.compilePredicates r'.params r'.condition = .error e') ∨
      ∃ ps ps', c.compilePredicates r.params r.condition = .ok ps ∧
        c.compilePredicates r'.params r'.condition = .ok ps' ∧
        Condition.combine Predicate.conjunction ps = Condition.combine Predicate.conjunction ps')
    (hfields : OutputFields.ofSelection c.schema r.selection =
      OutputFields.ofSelection c.schema r'.selection)
    (hsort : SortKey.parse c.schema r.sortBy r.sortOrder =
      SortKey.parse c.schema r'.sortBy r'.sortOrder)
    (hwindow : c.window r.page r.pageSize = c.window r'.page r'.pageSize) :
    (∃ e e', c.compile r = .error e ∧ c.compile r' = .error e') ∨
    ∃ a b, c.compile r = .ok a ∧ c.compile r' = .ok b ∧
      a.statement.Same b.statement ∧ a.fields = b.fields := by
  rcases hfilter with ⟨e, e', he, he'⟩ | ⟨ps, ps', hps, hps', hcombine⟩
  · exact .inl ⟨e, e', compile_error.mpr (.inl he), compile_error.mpr (.inl he')⟩
  cases hk : SortKey.parse c.schema r.sortBy r.sortOrder with
  | error e =>
    exact .inl ⟨e, e, compile_error.mpr (.inr ⟨ps, hps, .inl hk⟩),
      compile_error.mpr (.inr ⟨ps', hps', .inl (hsort ▸ hk)⟩)⟩
  | ok keys =>
    cases hw : c.window r.page r.pageSize with
    | error e =>
      exact .inl ⟨e, e, compile_error.mpr (.inr ⟨ps, hps, .inr ⟨keys, hk, hw⟩⟩),
        compile_error.mpr (.inr ⟨ps', hps', .inr ⟨keys, hsort ▸ hk, hwindow ▸ hw⟩⟩)⟩
    | ok w =>
      refine .inr ⟨_, _, compile_ok.mpr ⟨ps, hps, keys, hk, w, hw, rfl⟩,
        compile_ok.mpr ⟨ps', hps', keys, hsort ▸ hk, w, hwindow ▸ hw, rfl⟩, ?_, hfields⟩
      refine ⟨rfl, ?_, ?_, rfl, rfl, ?_⟩
      · exact congrArg c.projection hfields
      · simpa only [Statement.predicate_eq] using hcombine
      · exact congrArg OutputFields.relations hfields

theorem execute_same {c : Collection} {a b : CompiledQuery} (h : a.statement.Same b.statement)
    (count : Bool) : c.execute a count = c.execute b count := by
  simp [execute, h.count, h.fetch]

end Collection

end RecordQuery
