import RecordQuery.Predicate.Bound
import RecordQuery.Selection
import RecordQuery.Window

/-!
# Select statements

A statement over the table of one entity, with its rendering as SQL text and its two
bound queries: one for the rows, each as a JSON object, and one for their number.
-/

namespace RecordQuery

structure Statement where
  table : String
  /-- The columns of the rows; all of them when there are none here. -/
  columns : List String := []
  predicates : List Predicate := []
  orderBy : List SortKey := []
  window : Option Window := none
  /-- The relations attached to the rows after they are found. -/
  relations : List String := []

namespace Statement

def select (s : Statement) (columns : List String) : Statement := { s with columns := columns }

/-- All predicates of a statement must hold. -/
def whereAll (s : Statement) (ps : List Predicate) : Statement :=
  { s with predicates := s.predicates ++ ps }

def sortBy (s : Statement) (keys : List SortKey) : Statement :=
  { s with orderBy := s.orderBy ++ keys }

def paginate (s : Statement) (w : Window) : Statement := { s with window := some w }

def withRelations (s : Statement) (names : List String) : Statement :=
  { s with relations := names }

/-- The predicates as one, if there are any. -/
def predicate (s : Statement) : Option Predicate :=
  match s.predicates with
  | [] => none
  | ps => some (Predicate.conjunction ps)

/-- The same filter alone. -/
def forCount (s : Statement) : Statement := { table := s.table, predicates := s.predicates }

def orderSql (s : Statement) : String :=
  if s.orderBy.isEmpty then ""
  else " ORDER BY " ++ Text.joined ", " (s.orderBy.map SortKey.sql)

-- ---------------------------------------------------------------------------
-- As text
-- ---------------------------------------------------------------------------

def selectList (s : Statement) : String :=
  if s.columns.isEmpty then "*" else Text.joined ", " s.columns

def sql (s : Statement) : String :=
  let filter :=
    match s.predicate with
    | none => ""
    | some p => " WHERE " ++ p.sql
  let window :=
    match s.window with
    | none => ""
    | some w => w.sql
  "SELECT " ++ s.selectList ++ " FROM " ++ s.table ++ filter ++ s.orderSql ++ window

-- ---------------------------------------------------------------------------
-- With bound arguments
-- ---------------------------------------------------------------------------

/-- A row of the result as one JSON object. -/
def recordSql (s : Statement) : String :=
  if s.columns.isEmpty then "to_jsonb(" ++ s.table ++ ".*)"
  else
    "jsonb_build_object(" ++
      Text.joined ", " (s.columns.map fun c => "'" ++ c ++ "', " ++ c) ++ ")"

def bindFilter (s : Statement) (schema : Schema) (q : BoundSql) : BoundSql :=
  match s.predicate with
  | none => q
  | some p => p.bind schema (q.push " WHERE ")

/-- A count of 64 bits taken as a number with sign: past the middle it turns negative. -/
def signed64 (n : Nat) : Int := Int.bmod n UInt64.size

def bindWindow (s : Statement) (q : BoundSql) : BoundSql :=
  match s.window with
  | none => q
  | some w =>
    ((q.push " LIMIT ").bind (.int8 (signed64 w.limit)) |>.push " OFFSET ").bind
      (.int8 (signed64 w.offset))

def rowQuery (s : Statement) (schema : Schema) : BoundSql :=
  let q := BoundSql.empty.push ("SELECT " ++ s.recordSql ++ " AS record FROM " ++ s.table)
  s.bindWindow ((s.bindFilter schema q).push s.orderSql)

def countQuery (s : Statement) (schema : Schema) : BoundSql :=
  s.bindFilter schema (BoundSql.empty.push ("SELECT COUNT(*) FROM " ++ s.table))

end Statement

end RecordQuery
