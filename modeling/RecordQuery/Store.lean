import RecordQuery.Predicate.Evaluation
import RecordQuery.Record.Join
import RecordQuery.Statement

/-!
# The in-memory store

Tables of records with a count of the calls made. A read leaves the tables as they are;
while the store is offline it fails, and is counted all the same.
-/

namespace RecordQuery

structure Store where
  tables : KeyMap (List Record)
  fetchCalls : Nat
  countCalls : Nat
  offline : Bool

/-- A computation on a store that can fail; the store stays as it was left. -/
abbrev StoreM (ε : Type) := ExceptT ε (StateM Store)

namespace Store

def empty : Store := ⟨[], 0, 0, false⟩

def rows (s : Store) (table : String) : List Record := (KeyMap.get? s.tables table).getD []

def rowCount (s : Store) (table : String) : Nat := (s.rows table).length

def insertRecord (s : Store) (table : String) (r : Record) : Store :=
  { s with tables := KeyMap.put s.tables table (s.rows table ++ [r]) }

def setOffline (s : Store) (offline : Bool) : Store := { s with offline := offline }

def insert (table : String) (row : Json) : StoreM StoreError Unit := do
  let r ← (Record.ofJson row : Except StoreError Record)
  modify (·.insertRecord table r)

/-- Rows before one that is no object stay inserted. -/
def insertMany (table : String) : List Json → StoreM StoreError Unit
  | [] => pure ()
  | row :: rest => do
    insert table row
    insertMany table rest

-- ---------------------------------------------------------------------------
-- Reads
-- ---------------------------------------------------------------------------

def offlineError : StoreError := .unavailable "memory store is offline"

/-- The rows of the statement's table for which its predicates hold. -/
def matching (s : Store) (stmt : Statement) : List Record :=
  (s.rows stmt.table).filter fun r => (stmt.predicate.map (·.holds r.columns)).getD true

/-- The order of two rows under one sort key. -/
def keyOrder (k : SortKey) (a b : Record) : Ordering :=
  let o := Json.sortOrder (a.get? k.field) (b.get? k.field)
  match k.order with
  | .asc => o
  | .desc => o.swap

/-- The first sort key under which two rows differ decides. -/
def rowOrder (keys : List SortKey) (a b : Record) : Ordering :=
  match keys with
  | [] => .eq
  | k :: rest => (keyOrder k a b).then (rowOrder rest a b)

/-- Rows in sorted order; those that no key tells apart keep their places. -/
def sorted (keys : List SortKey) (rows : List Record) : List Record :=
  rows.mergeSort fun a b => rowOrder keys a b != .gt

/-- The rows with each of the named relations loaded; other names are passed over. -/
def attachAll (s : Store) (schema : Schema) (names : List String) (rows : List Record) :
    List Record :=
  names.foldl
    (fun rows name =>
      match schema.relation? name with
      | some r => attach name r (s.rows r.targetTable) rows
      | none => rows)
    rows

/-- The answer to a statement: filtered, sorted, cut to the window, projected, joined. -/
def answer (s : Store) (schema : Schema) (stmt : Statement) : List Record :=
  let rows := sorted stmt.orderBy (s.matching stmt)
  let rows :=
    match stmt.window with
    | some w => w.slice rows
    | none => rows
  let rows := if stmt.columns.isEmpty then rows else rows.map (·.project stmt.columns)
  s.attachAll schema stmt.relations rows

def fetch (schema : Schema) (stmt : Statement) : StoreM StoreError (List Record) := do
  modify fun s => { s with fetchCalls := s.fetchCalls + 1 }
  let s ← get
  if s.offline then throw offlineError else return s.answer schema stmt

def count (stmt : Statement) : StoreM StoreError Nat := do
  modify fun s => { s with countCalls := s.countCalls + 1 }
  let s ← get
  if s.offline then throw offlineError else return (s.matching stmt).length

end Store

end RecordQuery
