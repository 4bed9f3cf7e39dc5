import RecordQuery.Condition.Basic
import RecordQuery.Json.Layout
import RecordQuery.Number.Numeral
import RecordQuery.Selection

/-!
# Requests

A flat query carries its filters as parameters, a complex query carries a condition
tree. Both can be read from JSON and written back; a flat query can also be read from
the pairs of a query string. A list request is what either comes down to.
-/

namespace RecordQuery

/-- Keys of a flat query that are never filters. -/
def reservedKeys : List String := ["page", "page_size", "sort_by", "sort_order", "fields", "count"]

def isReserved (key : String) : Bool := reservedKeys.contains key

structure FlatQuery where
  page : UInt32 := 1
  pageSize : Option UInt32 := none
  sortBy : Option String := none
  sortOrder : SortOrder := .asc
  /-- Comma-separated output fields. -/
  fields : String := ""
  count : Bool := false
  params : KeyMap Json := []
  /-- Keys accepted as parameters that are not filters. -/
  excluded : List String := []

namespace FlatQuery

def withParam (q : FlatQuery) (key : String) (value : Json) : FlatQuery :=
  { q with params := KeyMap.put q.params key value }

def withPage (q : FlatQuery) (page size : UInt32) : FlatQuery :=
  { q with page := page, pageSize := some size }

def withSort (q : FlatQuery) (sortBy : String) (order : SortOrder) : FlatQuery :=
  { q with sortBy := some sortBy, sortOrder := order }

def withFields (q : FlatQuery) (fields : String) : FlatQuery := { q with fields := fields }

def withCount (q : FlatQuery) (count : Bool) : FlatQuery := { q with count := count }

def excludeKeys (q : FlatQuery) (keys : List String) : FlatQuery :=
  { q with excluded := q.excluded ++ keys }

/-- The parameters that are filters. -/
def filterParams (q : FlatQuery) : KeyMap Json :=
  q.params.filter fun e => !q.excluded.contains e.1

def selection (q : FlatQuery) : Selection := .csv q.fields

-- ---------------------------------------------------------------------------
-- From a query string
-- ---------------------------------------------------------------------------

def parseNumber (key value : String) : Except QueryError UInt32 :=
  match Numeral.word? (Text.trimChars value.toList) with
  | some n => .ok n
  | none => .error (.invalidWindow (.notCount key value))

def parseFlag (key value : String) : Except QueryError Bool :=
  let word := Text.lowerAscii (Text.trim value)
  if ["true", "1", "yes", "on"].contains word then .ok true
  else if ["false", "0", "no", "off", ""].contains word then .ok false
  else .error (.invalidValue key (.notFlag value))

/-- Takes one pair in. A later pair replaces an earlier one with its key. -/
def takePair (q : FlatQuery) (key value : String) : Except QueryError FlatQuery :=
  if key = "page" then do return { q with page := ← parseNumber key value }
  else if key = "page_size" then do return { q with pageSize := some (← parseNumber key value) }
  else if key = "sort_by" then .ok { q with sortBy := some value }
  else if key = "sort_order" then do return { q with sortOrder := ← SortOrder.parse value }
  else if key = "fields" then .ok { q with fields := value }
  else if key = "count" then do return { q with count := ← parseFlag key value }
  else .ok (q.withParam key (.string value))

def takePairs (q : FlatQuery) : List (String × String) → Except QueryError FlatQuery
  | [] => .ok q
  | (key, value) :: rest => do
    let q ← q.takePair key value
    q.takePairs rest

def ofPairs (pairs : List (String × String)) : Except QueryError FlatQuery :=
  takePairs {} pairs

-- ---------------------------------------------------------------------------
-- JSON
-- ---------------------------------------------------------------------------

def reservedToJson (q : FlatQuery) : List (String × Json) :=
  [("page", .word q.page), ("page_size", (q.pageSize.map Json.word).getD .null),
    ("sort_by", (q.sortBy.map Json.string).getD .null), ("sort_order", q.sortOrder.toJson),
    ("fields", .string q.fields), ("count", .bool q.count)]

/-- One object of the reserved fields and the parameters. -/
def toJson (q : FlatQuery) : Json := .ofMembers (q.reservedToJson ++ q.params)

def slots : List Json.Slot := reservedKeys.map fun key => ⟨key, .defaulted⟩

/-- Read from an object; members that are not reserved become parameters. -/
def ofJson? : Json → Option FlatQuery
  | .object members => do
    match ← Json.fill? slots false (.object members) with
    | [page, size, sortBy, sortOrder, fields, count] =>
      return {
        page := ← Json.orDefault? Json.word? 1 page
        pageSize := ← Json.orDefault? (Json.optional? Json.word?) none size
        sortBy := ← Json.orDefault? (Json.optional? Json.string?) none sortBy
        sortOrder := ← Json.orDefault? SortOrder.ofJson? .asc sortOrder
        fields := ← Json.orDefault? Json.string? "" fields
        count := ← Json.orDefault? Json.bool? false count
        params := members.filter fun e => !isReserved e.1 }
    | _ => none
  | _ => none

end FlatQuery

structure ComplexQuery where
  page : UInt32 := 1
  pageSize : Option UInt32 := none
  sortBy : Option String := none
  sortOrder : SortOrder := .asc
  count : Bool := false
  fields : List String := []
  condition : Option Condition := none

namespace ComplexQuery

def selection (q : ComplexQuery) : Selection := .list q.fields

def toJson (q : ComplexQuery) : Json :=
  .ofMembers
    [("page", .word q.page), ("page_size", (q.pageSize.map Json.word).getD .null),
      ("sort_by", (q.sortBy.map Json.string).getD .null), ("sort_order", q.sortOrder.toJson),
      ("count", .bool q.count), ("fields", .strings q.fields),
      ("condition", (q.condition.map Condition.toJson).getD .null)]

def slots : List Json.Slot :=
  [⟨"page", .defaulted⟩, ⟨"page_size", .defaulted⟩, ⟨"sort_by", .defaulted⟩,
    ⟨"sort_order", .defaulted⟩, ⟨"count", .defaulted⟩, ⟨"fields", .defaulted⟩,
    ⟨"condition", .defaulted⟩]

def fieldsOfJson? (j : Json) : Option (List String) := do
  (← j.items?).mapM Json.string?

/-- Members that are no fields of a complex query are refused. -/
def ofJson? (j : Json) : Option ComplexQuery := do
  match ← Json.fill? slots true j with
  | [page, size, sortBy, sortOrder, count, fields, condition] =>
    return {
      page := ← Json.orDefault? Json.word? 1 page
      pageSize := ← Json.orDefault? (Json.optional? Json.word?) none size
      sortBy := ← Json.orDefault? (Json.optional? Json.string?) none sortBy
      sortOrder := ← Json.orDefault? SortOrder.ofJson? .asc sortOrder
      count := ← Json.orDefault? Json.bool? false count
      fields := ← Json.orDefault? fieldsOfJson? [] fields
      condition := ← Json.orDefault? (Json.optional? Condition.ofJson?) none condition }
  | _ => none

end ComplexQuery

/-- One window of rows under flat filters and a condition together. -/
structure ListRequest where
  params : KeyMap Json := []
  condition : Option Condition := none
  selection : Selection := .list []
  sortBy : Option String := none
  sortOrder : SortOrder := .asc
  /-- The first page when absent. -/
  page : Option UInt32 := none
  /-- The unbounded page size when absent. -/
  pageSize : Option UInt32 := none

end RecordQuery
