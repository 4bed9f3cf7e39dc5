import RecordQuery.Collection
import RecordQuery.Record.Shape

/-!
# Serving requests

What a client is sent: the shaped rows of a collection. Lists and searches are reported
to the log, whether they succeed, are rejected or fail.
-/

namespace RecordQuery

inductive LogStatus
  | ok
  | rejected
  | failed
  deriving DecidableEq

def LogStatus.word : LogStatus → String
  | ok => "ok"
  | rejected => "rejected"
  | failed => "failed"

/-- A request at fault is rejected; a store at fault makes it fail. -/
def LogStatus.of : Except QueryError α → LogStatus
  | .ok _ => ok
  | .error e => if e.isClient then rejected else failed

structure LogEvent where
  operation : String
  entity : String
  predicates : Nat
  status : LogStatus
  deriving DecidableEq

namespace Collection

def shapePaged (schema : Schema) (fields : OutputFields) (page : Paged Record) : Json :=
  (page.map (Record.shape schema fields)).toJson

def serve (c : Collection) (compiled : Except QueryError CompiledQuery) (count : Bool) :
    StoreM QueryError Json := do
  let q ← compiled
  let page ← c.execute q count
  return shapePaged c.schema q.fields page

/-- A computation together with the report of how it ended. -/
def logged (operation entity : String) (predicates : Nat) (act : StoreM QueryError Json) :
    StateM Store (Except QueryError Json × LogEvent) := do
  let outcome ← act.run
  return (outcome, ⟨operation, entity, predicates, .of outcome⟩)

def serveList (c : Collection) (q : FlatQuery) (condition : Option Condition) :
    StateM Store (Except QueryError Json × LogEvent) :=
  logged "list" c.name q.params.length (c.serve (c.compileFlat q condition) q.count)

def serveSearch (c : Collection) (q : ComplexQuery) :
    StateM Store (Except QueryError Json × LogEvent) :=
  logged "complex_query" c.name (if q.condition.isSome then 1 else 0)
    (c.serve (c.compileComplex q) q.count)

/-- One row by primary key with all its columns; it is not logged. -/
def serveByKey (c : Collection) (pk : String) : StoreM QueryError (Option Json) := do
  let row ← c.getByKey pk
  return row.map (Record.shape c.schema .empty)

end Collection

end RecordQuery
