import RecordQuery.Proofs.Store.Answer

/-!
# Queries

A query in either form is checked as one request and then executed. What its execution
answers, and the calls that it costs, depend on the store only through the tables and
whether the store is offline.
-/

namespace RecordQuery

/-- A query for a page of rows, in either form. -/
inductive Query
  | flat (q : FlatQuery) (condition : Option Condition)
  | complex (q : ComplexQuery)

namespace Query

def counted : Query → Bool
  | flat q _ => q.count
  | complex q => q.count

def request (c : Collection) : Query → ListRequest
  | flat q condition => c.ofFlat q condition
  | complex q => c.ofComplex q

def run (c : Collection) : Query → StoreM QueryError (Paged Record)
  | flat q condition => c.list q condition
  | complex q => c.search q

/-- Either form is compiled from its request. -/
theorem run_eq (c : Collection) (q : Query) :
    q.run c =
      liftM (c.compile (q.request c)) >>= fun compiled => c.execute compiled q.counted := by
  cases q <;> rfl

/-- A query whose request compiles is executed. -/
theorem runOn_run {c : Collection} {q : Query} (h : c.compile (q.request c) = .ok compiled)
    (s : Store) : (q.run c).runOn s = (c.execute compiled q.counted).runOn s := by
  rw [run_eq, h]
  exact StoreM.runOn_bind_ok (StoreM.runOn_lift _)

end Query

namespace Collection

-- ---------------------------------------------------------------------------
-- Reading
-- ---------------------------------------------------------------------------

theorem runOn_reading (act : StoreM StoreError α) (s : Store) :
    (reading act).runOn s = ((act.runOn s).1.mapError QueryError.store, (act.runOn s).2) :=
  StoreM.runOn_adapt act QueryError.store

theorem runOn_reading_fetch (s : Store) (schema : Schema) (stmt : Statement) :
    (reading (Store.fetch schema stmt)).runOn s =
      (if s.offline then .error (.store Store.offlineError) else .ok (s.answer schema stmt),
        s.charged 1 0) := by
  rw [runOn_reading, Store.runOn_fetch]
  cases s.offline <;> rfl

theorem runOn_reading_count (s : Store) (stmt : Statement) :
    (reading (Store.count stmt)).runOn s =
      (if s.offline then .error (.store Store.offlineError)
        else .ok (s.matching stmt).length, s.charged 0 1) := by
  rw [runOn_reading, Store.runOn_count]
  cases s.offline <;> rfl

/-- What a checked query answers: the rows, and their number where it is asked for. -/
def page (c : Collection) (q : CompiledQuery) (count : Bool) (s : Store) : Paged Record :=
  ⟨if count then (s.matching q.statement).length else Paged.notCounted,
    s.answer c.schema q.statement⟩

theorem execute_uncounted (c : Collection) (q : CompiledQuery) :
    c.execute q false =
      reading (Store.fetch c.schema q.statement) >>= fun items =>
        pure ⟨Paged.notCounted, items⟩ := rfl

theorem execute_counted (c : Collection) (q : CompiledQuery) :
    c.execute q true =
      reading (Store.count q.statement) >>= fun n =>
        reading (Store.fetch c.schema q.statement) >>= fun items => pure ⟨n, items⟩ := rfl

/-- A count that fails is the last call. -/
theorem runOn_execute (s : Store) (c : Collection) (q : CompiledQuery) (count : Bool) :
    (c.execute q count).runOn s =
      (if s.offline then .error (.store Store.offlineError) else .ok (c.page q count s),
        s.charged (if count && s.offline then 0 else 1) (if count then 1 else 0)) := by
  cases count with
  | false =>
    rw [execute_uncounted, StoreM.runOn_bind, runOn_reading_fetch]
    cases s.offline <;> rfl
  | true =>
    rw [execute_counted, StoreM.runOn_bind, runOn_reading_count]
    cases hoffline : s.offline with
    | true => rfl
    | false =>
      show StoreM.runOn (_ >>= _) (s.charged 0 1) = _
      rw [StoreM.runOn_bind, runOn_reading_fetch, Store.charged_charged, Store.charged_offline,
        hoffline, Store.answer_congr (Store.charged_tables s 0 1)]
      rfl

-- ---------------------------------------------------------------------------
-- Reads without pages
-- ---------------------------------------------------------------------------

theorem any_eq (c : Collection) (params : KeyMap Json) (condition : Option Condition) :
    c.any params condition = (fun n => decide (0 < n)) <$> c.count params condition := by
  rw [map_eq_pure_bind]
  rfl

theorem getFirst_eq (c : Collection) (r : ListRequest) :
    c.getFirst r = List.head? <$>
      c.getList { r with page := some Window.first.page, pageSize := some Window.first.size } := by
  rw [map_eq_pure_bind]
  rfl

/-- Filters that compile are counted by one call. -/
theorem runOn_count {c : Collection} {params : KeyMap Json} {condition : Option Condition}
    {ps : List Predicate} (h : c.compilePredicates params condition = .ok ps) (s : Store) :
    (c.count params condition).runOn s =
      (if s.offline then .error (.store Store.offlineError)
        else .ok (s.selected c.schema.table ps).length, s.charged 0 1) := by
  rw [count, h, StoreM.runOn_bind_ok (StoreM.runOn_lift _), runOn_reading_count,
    Store.matching_eq]

/-- A request that compiles is answered by one call. -/
theorem runOn_getList {c : Collection} {r : ListRequest} {compiled : CompiledQuery}
    (h : c.compile r = .ok compiled) (s : Store) :
    (c.getList r).runOn s =
      (if s.offline then .error (.store Store.offlineError)
        else .ok (s.answer c.schema compiled.statement), s.charged 1 0) := by
  rw [getList, h, StoreM.runOn_bind_ok (StoreM.runOn_lift _), runOn_reading_fetch]

end Collection

end RecordQuery
