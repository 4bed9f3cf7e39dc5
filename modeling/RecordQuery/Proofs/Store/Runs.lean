import RecordQuery.Store

/-!
# Running computations on a store

A computation, run on a store, ends in an outcome and a store. Where every step of a run
succeeds and keeps an invariant, so does the run.
-/

namespace RecordQuery

/-- Runs the computation on a store. -/
def StoreM.runOn (x : StoreM ε α) (s : Store) : Except ε α × Store := x.run.run s

namespace StoreM

variable {s s' : Store}

@[simp] theorem runOn_pure (a : α) : (pure a : StoreM ε α).runOn s = (.ok a, s) := rfl

@[simp] theorem runOn_lift (x : Except ε α) : StoreM.runOn (liftM x) s = (x, s) := by
  cases x <;> rfl

theorem runOn_adapt (x : StoreM ε α) (f : ε → ε') :
    StoreM.runOn (ExceptT.adapt f x) s = ((x.runOn s).1.mapError f, (x.runOn s).2) := rfl

/-- The rest runs on the store that was left; a failure ends the computation. -/
theorem runOn_bind (x : StoreM ε α) (f : α → StoreM ε β) (s : Store) :
    (x >>= f).runOn s =
      match x.runOn s with
      | (.ok a, s') => (f a).runOn s'
      | (.error e, s') => (.error e, s') := by
  unfold runOn
  rw [ExceptT.run_bind, StateT.run_bind]
  rcases x.run.run s with ⟨_ | a, s'⟩ <;> rfl

theorem runOn_bind_ok {x : StoreM ε α} {f : α → StoreM ε β} (h : x.runOn s = (.ok a, s')) :
    (x >>= f).runOn s = (f a).runOn s' := by
  rw [runOn_bind, h]

theorem runOn_map (f : α → β) (x : StoreM ε α) (s : Store) :
    (f <$> x).runOn s = ((x.runOn s).1.map f, (x.runOn s).2) := by
  rw [map_eq_pure_bind, runOn_bind]
  rcases x.runOn s with ⟨_ | a, s'⟩ <;> rfl

/-- Steps that succeed and keep an invariant make a run that does. -/
theorem runOn_mapM {inv : Store → Prop} {f : α → StoreM ε β} {answer : α → β} {xs : List α}
    (hstep : ∀ x ∈ xs, ∀ s, inv s → ∃ s', inv s' ∧ (f x).runOn s = (.ok (answer x), s'))
    (hs : inv s) : ∃ s', inv s' ∧ (xs.mapM f).runOn s = (.ok (xs.map answer), s') := by
  induction xs generalizing s with
  | nil => exact ⟨s, hs, runOn_pure []⟩
  | cons x xs ih =>
    obtain ⟨hx, hxs⟩ := List.forall_mem_cons.mp hstep
    obtain ⟨s₁, hs₁, hrun⟩ := hx s hs
    obtain ⟨s₂, hs₂, hrest⟩ := ih hxs hs₁
    refine ⟨s₂, hs₂, ?_⟩
    rw [List.mapM_cons, runOn_bind_ok hrun, runOn_bind_ok hrest, runOn_pure, List.map_cons]

end StoreM

namespace Store

-- ---------------------------------------------------------------------------
-- Reads
-- ---------------------------------------------------------------------------

/-- The store after so many more calls to fetch and to count. -/
def charged (s : Store) (fetches counts : Nat) : Store :=
  { s with fetchCalls := s.fetchCalls + fetches, countCalls := s.countCalls + counts }

@[simp] theorem charged_tables (s : Store) (fetches counts : Nat) :
    (s.charged fetches counts).tables = s.tables := rfl

@[simp] theorem charged_offline (s : Store) (fetches counts : Nat) :
    (s.charged fetches counts).offline = s.offline := rfl

@[simp] theorem charged_charged (s : Store) (f g m n : Nat) :
    (s.charged f m).charged g n = s.charged (f + g) (m + n) := by
  simp [charged, Nat.add_assoc]

theorem runOn_fetch (s : Store) (schema : Schema) (stmt : Statement) :
    (fetch schema stmt).runOn s =
      (if s.offline then .error offlineError else .ok (s.answer schema stmt), s.charged 1 0) := by
  obtain ⟨tables, fetchCalls, countCalls, offline⟩ := s
  cases offline <;> rfl

theorem runOn_count (s : Store) (stmt : Statement) :
    (count stmt).runOn s =
      (if s.offline then .error offlineError else .ok (s.matching stmt).length,
        s.charged 0 1) := by
  obtain ⟨tables, fetchCalls, countCalls, offline⟩ := s
  cases offline <;> rfl

/-- What is read depends on the tables alone. -/
theorem rows_congr {s t : Store} (h : s.tables = t.tables) (table : String) :
    s.rows table = t.rows table := by
  rw [rows, rows, h]

theorem matching_congr {s t : Store} (h : s.tables = t.tables) (stmt : Statement) :
    s.matching stmt = t.matching stmt := by
  rw [matching, matching, rows_congr h]

theorem answer_congr {s t : Store} (h : s.tables = t.tables) (schema : Schema)
    (stmt : Statement) : s.answer schema stmt = t.answer schema stmt := by
  unfold answer attachAll
  simp only [matching_congr h, rows_congr h]

end Store

end RecordQuery
