import RecordQuery.Parameters
import RecordQuery.Request
import RecordQuery.Response
import RecordQuery.Store

/-!
# Collections

The rows of one entity, behind its schema and the configured limits. A request is
compiled into a statement before the store is touched, so a request at fault costs no
call; the first fault counts, in the order filters, condition, sort, page, page size.
-/

namespace RecordQuery

structure Collection where
  /-- The name of the entity in messages. -/
  name : String
  schema : Schema
  config : QueryConfig

/-- A checked request: the statement, and the fields by which its rows are shaped. -/
structure CompiledQuery where
  statement : Statement
  fields : OutputFields

namespace Collection

-- ---------------------------------------------------------------------------
-- Compiling
-- ---------------------------------------------------------------------------

def compilePredicates (c : Collection) (params : KeyMap Json) (condition : Option Condition) :
    Except QueryError (List Predicate) := do
  let single := c.config.singleValueInAsEq
  let flat ← Parameters.compile c.schema single params
  let tree ← Condition.compile? c.schema single condition
  return flat ++ tree.toList

/-- Without a condition the flat filters are all there is. -/
theorem compilePredicates_flat {c : Collection} {params : KeyMap Json} {ps : List Predicate}
    (h : Parameters.compile c.schema c.config.singleValueInAsEq params = .ok ps) :
    c.compilePredicates params none = .ok ps := by
  rw [compilePredicates, h]
  exact congrArg Except.ok (List.append_nil ps)

/-- Primary keys, requested columns and the local keys of requested relations, each once;
none when no field is requested, which stands for all columns. -/
def projection (c : Collection) (fields : OutputFields) : List String :=
  if fields.isEmpty then []
  else
    let localKeys := fields.relations.filterMap fun name =>
      (c.schema.relation? name).map (·.localKey)
    (c.schema.primaryKeys ++ fields.columns ++ localKeys).foldl OutputFields.addOnce []

def window (c : Collection) (page size : Option UInt32) : Except QueryError Window :=
  let page := page.getD 1
  match size with
  | some size => Window.validated page size c.config
  | none => (Window.unbounded c.config).onPage page c.config

def compile (c : Collection) (r : ListRequest) : Except QueryError CompiledQuery := do
  let predicates ← c.compilePredicates r.params r.condition
  let fields := OutputFields.ofSelection c.schema r.selection
  let sort ← SortKey.parse c.schema r.sortBy r.sortOrder
  let window ← c.window r.page r.pageSize
  let statement : Statement :=
    { table := c.schema.table
      columns := c.projection fields
      predicates := predicates
      orderBy := sort
      window := some window
      relations := fields.relations }
  return ⟨statement, fields⟩

def ofFlat (c : Collection) (q : FlatQuery) (condition : Option Condition) : ListRequest :=
  { params := q.filterParams
    condition := condition
    selection := q.selection
    sortBy := q.sortBy
    sortOrder := q.sortOrder
    page := some q.page
    pageSize := some (q.pageSize.getD c.config.defaultPageSize) }

def compileFlat (c : Collection) (q : FlatQuery) (condition : Option Condition) :
    Except QueryError CompiledQuery :=
  c.compile (c.ofFlat q condition)

def ofComplex (c : Collection) (q : ComplexQuery) : ListRequest :=
  { condition := q.condition
    selection := q.selection
    sortBy := q.sortBy
    sortOrder := q.sortOrder
    page := some q.page
    pageSize := some (q.pageSize.getD c.config.defaultPageSize) }

def compileComplex (c : Collection) (q : ComplexQuery) : Except QueryError CompiledQuery :=
  c.compile (c.ofComplex q)

-- ---------------------------------------------------------------------------
-- Reading
-- ---------------------------------------------------------------------------

/-- A read of the store, its failure taken over unchanged. -/
def reading (act : StoreM StoreError α) : StoreM QueryError α := act.adapt QueryError.store

/-- The count, if it is asked for, and then the rows. -/
def execute (c : Collection) (q : CompiledQuery) (count : Bool) :
    StoreM QueryError (Paged Record) := do
  let total ←
    if count then do
      let n ← reading (Store.count q.statement)
      pure (n : Int)
    else pure Paged.notCounted
  let items ← reading (Store.fetch c.schema q.statement)
  return ⟨total, items⟩

def list (c : Collection) (q : FlatQuery) (condition : Option Condition) :
    StoreM QueryError (Paged Record) := do
  let compiled ← (c.compileFlat q condition : Except QueryError CompiledQuery)
  c.execute compiled q.count

def search (c : Collection) (q : ComplexQuery) : StoreM QueryError (Paged Record) := do
  let compiled ← (c.compileComplex q : Except QueryError CompiledQuery)
  c.execute compiled q.count

/-- The number of rows under flat filters and a condition. -/
def count (c : Collection) (params : KeyMap Json) (condition : Option Condition) :
    StoreM QueryError Nat := do
  let predicates ← (c.compilePredicates params condition : Except QueryError (List Predicate))
  reading (Store.count { table := c.schema.table, predicates := predicates })

def any (c : Collection) (params : KeyMap Json) (condition : Option Condition) :
    StoreM QueryError Bool := do
  let n ← c.count params condition
  return 0 < n

def getList (c : Collection) (r : ListRequest) : StoreM QueryError (List Record) := do
  let compiled ← (c.compile r : Except QueryError CompiledQuery)
  reading (Store.fetch c.schema compiled.statement)

/-- The first row; the page and page size of the request do not count. -/
def getFirst (c : Collection) (r : ListRequest) : StoreM QueryError (Option Record) := do
  let w := Window.first
  let rows ← c.getList { r with page := some w.page, pageSize := some w.size }
  return rows.head?

/-- The request for the row with this primary key: one text, or one text per key in order
of declaration, divided by commas. -/
def keyRequest (c : Collection) (pk : String) : Except QueryError ListRequest :=
  let keys := c.schema.primaryKeys
  if keys.isEmpty then .error (.invalidKey (.noKey c.name))
  else
    let parts := if 1 < keys.length then Text.pieces pk else [Text.trim pk]
    if parts.length ≠ keys.length ∨ parts.any (· == "") then
      .error (.invalidKey (.wrongParts keys pk))
    else
      .ok { params := KeyMap.ofEntries (keys.zip (parts.map Json.string)) }

def getByKey (c : Collection) (pk : String) : StoreM QueryError (Option Record) := do
  let r ← (c.keyRequest pk : Except QueryError ListRequest)
  c.getFirst r

end Collection

end RecordQuery
