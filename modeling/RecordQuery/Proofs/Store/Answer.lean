import RecordQuery.Proofs.Collection.Compile
import RecordQuery.Proofs.Store.Runs

/-!
# Answers of the store

The rows of an answer are the window's part of one sequence, the matching rows in sorted
order, each of them presented by itself: projected, and then joined to its related rows.
-/

namespace RecordQuery

-- ---------------------------------------------------------------------------
-- Pages of a sequence
-- ---------------------------------------------------------------------------

namespace Window

/-- The first pages of one size are the first rows. -/
theorem flatMap_pages (rows : List α) (size K : Nat) :
    (List.range' 1 K).flatMap (fun k => (rows.drop ((k - 1) * size)).take size) =
      rows.take (K * size) := by
  induction K with
  | zero => simp
  | succ K ih =>
    rw [List.range'_1_concat, List.flatMap_append, ih, Nat.succ_mul, List.take_add]
    simp [Nat.add_comm]

theorem page_eq_nil {rows : List α} {size k : Nat} (hsize : 1 ≤ size) :
    (rows.drop ((k - 1) * size)).take size = [] ↔ rows.length ≤ (k - 1) * size := by
  rw [List.take_eq_nil_iff, List.drop_eq_nil_iff]
  omega

end Window

namespace Store

-- ---------------------------------------------------------------------------
-- One row of an answer
-- ---------------------------------------------------------------------------

/-- The row with each of the named relations loaded; other names are passed over. -/
def loaded (s : Store) (schema : Schema) (names : List String) (record : Record) : Record :=
  names.foldl
    (fun record name =>
      match schema.relation? name with
      | some r =>
        record.setRelation name
          (r.cardinality.related (joined r (s.rows r.targetTable) record))
      | none => record)
    record

/-- A row as it is answered. No columns stand for all of them. -/
def present (s : Store) (schema : Schema) (columns relations : List String) (record : Record) :
    Record :=
  s.loaded schema relations (if columns.isEmpty then record else record.project columns)

theorem attachAll_eq (s : Store) (schema : Schema) (names : List String) (rows : List Record) :
    s.attachAll schema names rows = rows.map (s.loaded schema names) := by
  induction names generalizing rows with
  | nil => exact (List.map_id rows).symm
  | cons name names ih =>
    have hcons : s.attachAll schema (name :: names) rows =
        s.attachAll schema names
          (match schema.relation? name with
          | some r => attach name r (s.rows r.targetTable) rows
          | none => rows) := rfl
    rw [hcons, ih]
    unfold loaded
    simp only [List.foldl_cons]
    cases schema.relation? name with
    | none => rfl
    | some r => exact (congrArg (List.map _) (attach_eq ..)).trans List.map_map

/-- The rows that a statement is answered with, in order and before they are presented. -/
def shown (s : Store) (stmt : Statement) : List Record :=
  match stmt.window with
  | some w => w.slice (sorted stmt.orderBy (s.matching stmt))
  | none => sorted stmt.orderBy (s.matching stmt)

theorem answer_eq_map (s : Store) (schema : Schema) (stmt : Statement) :
    s.answer schema stmt = (s.shown stmt).map (s.present schema stmt.columns stmt.relations) := by
  unfold answer
  simp only [attachAll_eq]
  unfold present
  cases stmt.columns.isEmpty with
  | false => exact List.map_map
  | true => rfl

theorem answer_eq (s : Store) (schema : Schema) (stmt : Statement) {w : Window}
    (hw : stmt.window = some w) :
    s.answer schema stmt =
      (w.slice (sorted stmt.orderBy (s.matching stmt))).map
        (s.present schema stmt.columns stmt.relations) := by
  rw [answer_eq_map, shown, hw]

-- ---------------------------------------------------------------------------
-- The sequence
-- ---------------------------------------------------------------------------

theorem sorted_perm (keys : List SortKey) (rows : List Record) : (sorted keys rows).Perm rows :=
  List.mergeSort_perm ..

/-- The rows shown are in sorted order, also where a window cuts them out. -/
theorem shown_sublist (s : Store) (stmt : Statement) :
    (s.shown stmt).Sublist (sorted stmt.orderBy (s.matching stmt)) := by
  unfold shown
  split
  · exact (List.take_sublist ..).trans (List.drop_sublist ..)
  · exact List.Sublist.refl _

theorem mem_rows_of_shown {s : Store} {stmt : Statement} {r : Record} (h : r ∈ s.shown stmt) :
    r ∈ s.rows stmt.table := by
  have hsorted := (shown_sublist s stmt).subset h
  exact (List.mem_filter.mp ((sorted_perm ..).mem_iff.mp hsorted)).1

/-- The rows of a table for which all of the predicates hold. -/
def selected (s : Store) (table : String) (ps : List Predicate) : List Record :=
  (s.rows table).filter fun r => ps.all (·.holds r.columns)

theorem matching_eq (s : Store) (stmt : Statement) :
    s.matching stmt = s.selected stmt.table stmt.predicates := by
  unfold matching selected
  congr 1
  funext r
  rw [Statement.predicate_eq]
  unfold Condition.combine
  cases h : stmt.predicates with
  | nil => rfl
  | cons p ps => simp [Predicate.holds_conjunction]

-- ---------------------------------------------------------------------------
-- The tables alone count
-- ---------------------------------------------------------------------------

section
variable {s t : Store} (h : s.tables = t.tables)
include h

theorem selected_congr (table : String) (ps : List Predicate) :
    s.selected table ps = t.selected table ps := by
  rw [selected, selected, rows_congr h]

theorem present_congr (schema : Schema) (columns relations : List String) :
    s.present schema columns relations = t.present schema columns relations := by
  unfold present loaded
  simp only [rows_congr h]

end

end Store

end RecordQuery
