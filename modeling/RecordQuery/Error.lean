import RecordQuery.Json.Text

/-!
# Errors

A query fails for a cause in the request or for one in the store. `message` is the one
place where causes are put into words; `stated` reasons are worded by the caller.
-/

namespace RecordQuery

/-- Why a value does not suit its field, key or parameter. -/
inductive ValueFault
  | notInteger (item : String)
  | notNumber (item : String)
  | notBoolean (item : String)
  | notList (value : Json)
  | notScalar (value : Json)
  | unknownOperator (name : String)
  | unknownOrder (word : String)
  | notFlag (given : String)
  | stated (reason : String)

def ValueFault.message : ValueFault → String
  | .notInteger item => s!"`{item}` is not a valid integer"
  | .notNumber item => s!"`{item}` is not a valid number"
  | .notBoolean item => s!"`{item}` is not a valid boolean"
  | .notList value => s!"expected a list or comma-separated string, got `{value.text}`"
  | .notScalar value => s!"expected a scalar value, got `{value.text}`"
  | .unknownOperator name => s!"unknown operator `{name}`"
  | .unknownOrder word => s!"expected `asc` or `desc`, got `{word}`"
  | .notFlag given => s!"expected a boolean, got `{given}`"
  | .stated reason => reason

/-- Why a window of rows is refused. -/
inductive WindowFault
  | pageOutside (maxPage page : UInt32)
  | sizeOutside (maxSize size : UInt32)
  | notCount (key given : String)
  | stated (reason : String)
  deriving DecidableEq

def WindowFault.message : WindowFault → String
  | .pageOutside maxPage page => s!"page must be between 1 and {maxPage}, got {page}"
  | .sizeOutside maxSize size => s!"page_size must be between 0 and {maxSize}, got {size}"
  | .notCount key given => s!"{key} must be a non-negative integer, got `{given}`"
  | .stated reason => reason

/-- Why a text names no row. -/
inductive KeyFault
  | noKey (entity : String)
  | wrongParts (keys : List String) (given : String)
  | stated (reason : String)
  deriving DecidableEq

def KeyFault.message : KeyFault → String
  | .noKey entity => s!"{entity} declares no primary key"
  | .wrongParts keys given =>
    let count := keys.length
    let list := ",".intercalate keys
    s!"expected {count} component(s) ({list}), got `{given}`"
  | .stated reason => reason

inductive StoreError
  | database (reason : String)
  | notRow (value : Json)
  | undecodable (reason : String)
  | unavailable (reason : String)

def StoreError.message : StoreError → String
  | .database reason => s!"Database error: {reason}"
  | .notRow value => s!"Failed to decode row: expected a JSON object row, got `{value.text}`"
  | .undecodable reason => s!"Failed to decode row: {reason}"
  | .unavailable reason => s!"Store unavailable: {reason}"

inductive QueryError
  | fieldNotFound (field : String)
  | relationNotFilterable (field : String)
  | unsupportedOperator (key : String)
  | invalidSortField (field : String)
  | invalidValue (field : String) (fault : ValueFault)
  | invalidWindow (fault : WindowFault)
  | invalidKey (fault : KeyFault)
  | store (error : StoreError)

namespace QueryError

def message : QueryError → String
  | fieldNotFound field => s!"Field `{field}` does not exist"
  | relationNotFilterable field =>
    s!"Field `{field}` is a relation and cannot be used as a filter"
  | unsupportedOperator key =>
    s!"Unknown field or unsupported operator in query parameter `{key}`"
  | invalidSortField field => s!"Invalid sort_by field: `{field}`"
  | invalidValue field fault => s!"Invalid value for `{field}`: {fault.message}"
  | invalidWindow fault => s!"Invalid pagination: {fault.message}"
  | invalidKey fault => s!"Invalid primary key: {fault.message}"
  | store error => error.message

/-- The request itself is at fault, not the store. -/
def isClient : QueryError → Bool
  | store _ => false
  | _ => true

/-- A filter or sort names a field that the entity cannot filter or sort on. -/
def isFieldNotFound : QueryError → Bool
  | fieldNotFound _ => true
  | relationNotFilterable _ => true
  | invalidSortField _ => true
  | _ => false

def status (e : QueryError) : Nat := if e.isClient then 400 else 500

end QueryError

end RecordQuery
