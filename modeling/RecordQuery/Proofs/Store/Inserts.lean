import RecordQuery.Proofs.Store.Runs

/-!
# Insertions

Rows are appended to a table one after another. The first value that is no object ends an
insertion; the rows before it stay in the table, and nothing else of the store changes.
-/

namespace RecordQuery.Store

-- ---------------------------------------------------------------------------
-- Appended records
-- ---------------------------------------------------------------------------

/-- The records are at the end of the table, and nothing else is different. -/
structure Appended (s : Store) (table : String) (records : List Record) (s' : Store) :
    Prop where
  rows : ∀ t, s'.rows t = s.rows t ++ (if t = table then records else [])
  fetchCalls : s'.fetchCalls = s.fetchCalls
  countCalls : s'.countCalls = s.countCalls
  offline : s'.offline = s.offline
  same : records = [] → s' = s

theorem rows_insertRecord (s : Store) (table : String) (r : Record) (t : String) :
    (s.insertRecord table r).rows t = s.rows t ++ (if t = table then [r] else []) := by
  unfold insertRecord
  rw [rows, KeyMap.get?_put]
  split
  · next h => rw [h, Option.getD_some]
  · rw [List.append_nil, rows]

theorem appended_nil (s : Store) (table : String) : Appended s table [] s where
  rows t := by simp
  fetchCalls := rfl
  countCalls := rfl
  offline := rfl
  same _ := rfl

theorem Appended.cons {s s' : Store} {table : String} {r : Record} {records : List Record}
    (h : Appended (s.insertRecord table r) table records s') :
    Appended s table (r :: records) s' where
  rows t := by
    rw [h.rows, rows_insertRecord, List.append_assoc]
    split <;> rfl
  fetchCalls := h.fetchCalls
  countCalls := h.countCalls
  offline := h.offline
  same := nofun

theorem appended_insertRecord (s : Store) (table : String) (r : Record) :
    Appended s table [r] (s.insertRecord table r) :=
  .cons (appended_nil _ _)

-- ---------------------------------------------------------------------------
-- Insertions of JSON rows
-- ---------------------------------------------------------------------------

/-- How an insertion of rows ends: all of them are objects and are appended, or those
before the first that is none are. -/
inductive Inserted (s : Store) (table : String) :
    List Json → Except StoreError Unit → Store → Prop
  | all (objects : List (KeyMap Json)) :
    Appended s table (objects.map Record.ofColumns) s' →
    Inserted s table (objects.map Json.object) (.ok ()) s'
  | upTo (objects : List (KeyMap Json)) (row : Json) (rest : List Json) :
    row.isObject = false → Appended s table (objects.map Record.ofColumns) s' →
    Inserted s table (objects.map Json.object ++ row :: rest) (.error (.notRow row)) s'

theorem Inserted.cons {s : Store} {members : KeyMap Json}
    (h : Inserted (s.insertRecord table (Record.ofColumns members)) table rest outcome s') :
    Inserted s table (.object members :: rest) outcome s' := by
  cases h with
  | all objects h => exact .all (members :: objects) h.cons
  | upTo objects row rest hrow h => exact .upTo (members :: objects) row rest hrow h.cons

theorem runOn_insert_object (s : Store) (table : String) (members : KeyMap Json) :
    (insert table (.object members)).runOn s =
      (.ok (), s.insertRecord table (Record.ofColumns members)) := rfl

theorem runOn_insert_other (s : Store) (table : String) {row : Json} (h : row.isObject = false) :
    (insert table row).runOn s = (.error (.notRow row), s) := by
  cases row with
  | object members => cases h
  | _ => rfl

theorem runOn_insertMany_object (s : Store) (table : String) (members : KeyMap Json)
    (rest : List Json) :
    (insertMany table (.object members :: rest)).runOn s =
      (insertMany table rest).runOn (s.insertRecord table (Record.ofColumns members)) :=
  StoreM.runOn_bind_ok (runOn_insert_object s table members)

theorem runOn_insertMany_other (s : Store) (table : String) {row : Json} (rest : List Json)
    (h : row.isObject = false) :
    (insertMany table (row :: rest)).runOn s = (.error (.notRow row), s) := by
  rw [insertMany, StoreM.runOn_bind, runOn_insert_other s table h]

theorem object_or_other (row : Json) :
    (∃ members, row = .object members) ∨ row.isObject = false := by
  cases row with
  | object members => exact .inl ⟨members, rfl⟩
  | _ => exact .inr rfl

theorem insertMany_inserted (s : Store) (table : String) (rows : List Json) :
    Inserted s table rows ((insertMany table rows).runOn s).1
      ((insertMany table rows).runOn s).2 := by
  induction rows generalizing s with
  | nil => exact .all [] (appended_nil s table)
  | cons row rest ih =>
    rcases object_or_other row with ⟨members, rfl⟩ | hrow
    · rw [runOn_insertMany_object]
      exact (ih _).cons
    · rw [runOn_insertMany_other s table rest hrow]
      exact .upTo [] row rest hrow (appended_nil s table)

theorem insert_inserted (s : Store) (table : String) (row : Json) :
    Inserted s table [row] ((insert table row).runOn s).1 ((insert table row).runOn s).2 := by
  rcases object_or_other row with ⟨members, rfl⟩ | hrow
  · exact .all [members] (appended_insertRecord s table _)
  · rw [runOn_insert_other s table hrow]
    exact .upTo [] row [] hrow (appended_nil s table)

theorem insert_error {s : Store} {table : String} {row : Json}
    (h : ((insert table row).runOn s).1 = .error e) : ((insert table row).runOn s).2 = s := by
  rcases object_or_other row with ⟨members, rfl⟩ | hrow
  · cases h
  · rw [runOn_insert_other s table hrow]

theorem Inserted.calls {s s' : Store} {rows : List Json} (h : Inserted s table rows outcome s') :
    s'.fetchCalls = s.fetchCalls ∧ s'.countCalls = s.countCalls := by
  cases h with
  | all objects h => exact ⟨h.fetchCalls, h.countCalls⟩
  | upTo objects row rest hrow h => exact ⟨h.fetchCalls, h.countCalls⟩

-- ---------------------------------------------------------------------------
-- Rows that were read from objects
-- ---------------------------------------------------------------------------

/-- Every row is as it is read from an object: it has no relations. -/
def Bare (s : Store) : Prop :=
  ∀ table, ∀ r ∈ s.rows table, ∃ members, r = Record.ofColumns members

theorem bare_empty : empty.Bare := fun _ _ hr => absurd hr List.not_mem_nil

theorem Bare.appended {s s' : Store} (hs : s.Bare) {objects : List (KeyMap Json)}
    (h : Appended s table (objects.map Record.ofColumns) s') : s'.Bare := by
  intro t r hr
  rw [h.rows, List.mem_append] at hr
  rcases hr with hr | hr
  · exact hs t r hr
  · split at hr
    · obtain ⟨members, _, rfl⟩ := List.mem_map.mp hr
      exact ⟨members, rfl⟩
    · exact absurd hr List.not_mem_nil

/-- An insertion of JSON rows keeps the rows bare, also one that fails on its way. -/
theorem Bare.inserted {s s' : Store} {rows : List Json} (hs : s.Bare)
    (h : Inserted s table rows outcome s') : s'.Bare := by
  cases h with
  | all objects h => exact hs.appended h
  | upTo objects row rest hrow h => exact hs.appended h

-- ---------------------------------------------------------------------------
-- The tables alone count
-- ---------------------------------------------------------------------------

section
variable {s t : Store} (h : s.tables = t.tables)
include h

theorem Bare.congr (hs : s.Bare) : t.Bare := fun table r hr =>
  hs table r (rows_congr h table ▸ hr)

theorem insertRecord_congr (table : String) (r : Record) :
    (s.insertRecord table r).tables = (t.insertRecord table r).tables := by
  unfold insertRecord
  rw [rows_congr h, h]

theorem insert_congr (table : String) (row : Json) :
    ((insert table row).runOn s).2.tables = ((insert table row).runOn t).2.tables := by
  rcases object_or_other row with ⟨members, rfl⟩ | hrow
  · exact insertRecord_congr h table _
  · rw [runOn_insert_other s table hrow, runOn_insert_other t table hrow]
    exact h

theorem insertMany_congr (table : String) (rows : List Json) :
    ((insertMany table rows).runOn s).2.tables = ((insertMany table rows).runOn t).2.tables := by
  induction rows generalizing s t with
  | nil => exact h
  | cons row rest ih =>
    rcases object_or_other row with ⟨members, rfl⟩ | hrow
    · rw [runOn_insertMany_object, runOn_insertMany_object]
      exact ih (insertRecord_congr h table _)
    · rw [runOn_insertMany_other s table rest hrow, runOn_insertMany_other t table rest hrow]
      exact h

end

end RecordQuery.Store
