import RecordQuery.Record.Basic
import RecordQuery.Schema.Basic

/-!
# Joining records

Two rows are joined when the texts of their join columns are equal. A null or absent
column has no text and joins nothing. The candidates are grouped by the texts of their keys, so
that every record finds its own in one look-up.
-/

namespace RecordQuery

/-- The text that join columns are compared by. -/
def joinKey? : Option Json → Option String
  | none => none
  | some .null => none
  | some (.string s) => some s
  | some j => some j.text

/-- The join keys that the records hold in the relation's local column, each once. -/
def localKeys (records : List Record) (r : Relation) : List String :=
  records.foldl
    (fun keys record =>
      match joinKey? (record.get? r.localKey) with
      | some key => if keys.contains key then keys else keys ++ [key]
      | none => keys)
    []

/-- The candidates joined to a record, in the order given. -/
def joined (r : Relation) (candidates : List Record) (record : Record) : List Record :=
  match joinKey? (record.get? r.localKey) with
  | some key => candidates.filter fun c => joinKey? (c.get? r.remoteKey) == some key
  | none => []

/-- What the relation leads to: all joined rows, or the first of them. -/
def Cardinality.related (c : Cardinality) (rows : List Record) : Related :=
  match c, rows with
  | .one, [] => .null
  | .one, row :: _ => .one row
  | .many, rows => .many rows

-- ---------------------------------------------------------------------------
-- Groups
-- ---------------------------------------------------------------------------

/-- The groups with a row added to that of its key, at the end; a row without key is dropped. -/
def enter (column : String) (groups : KeyMap (List Record)) (row : Record) :
    KeyMap (List Record) :=
  match joinKey? (row.get? column) with
  | some key => KeyMap.put groups key ((KeyMap.get? groups key).getD [] ++ [row])
  | none => groups

/-- The rows by the join keys that they hold in the column. -/
def grouped (column : String) (rows : List Record) : KeyMap (List Record) :=
  rows.foldl (enter column) []

theorem get?_foldl_enter (column : String) (rows : List Record) (groups : KeyMap (List Record))
    (key : String) :
    (KeyMap.get? (rows.foldl (enter column) groups) key).getD [] =
      (KeyMap.get? groups key).getD [] ++
        rows.filter fun row => joinKey? (row.get? column) == some key := by
  induction rows generalizing groups with
  | nil => simp
  | cons row rest ih =>
    rw [List.foldl_cons, ih, enter]
    cases hkey : joinKey? (row.get? column) with
    | none => simp [hkey]
    | some k =>
      by_cases h : key = k
      · simp [hkey, h, KeyMap.get?_put]
      · simp [hkey, h, Ne.symm h, KeyMap.get?_put]

/-- Every record with the relation loaded from the candidates, which are grouped once. -/
def attach (name : String) (r : Relation) (candidates records : List Record) : List Record :=
  let groups := grouped r.remoteKey candidates
  records.map fun record =>
    let rows := ((joinKey? (record.get? r.localKey)).bind (KeyMap.get? groups)).getD []
    record.setRelation name (r.cardinality.related rows)

/-- A group holds what a search through all candidates finds. -/
theorem attach_eq (name : String) (r : Relation) (candidates records : List Record) :
    attach name r candidates records = records.map fun record =>
      record.setRelation name (r.cardinality.related (joined r candidates record)) := by
  refine List.map_congr_left fun record _ => ?_
  unfold joined
  cases joinKey? (record.get? r.localKey) with
  | none => rfl
  | some key =>
    dsimp only [Option.bind_some, grouped]
    rw [get?_foldl_enter]
    rfl

end RecordQuery
