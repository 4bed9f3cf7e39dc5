import RecordQuery.Json.Layout
import RecordQuery.Operator
import RecordQuery.Schema.Basic
import RecordQuery.Text.CommaList

/-!
# Field selections and sort keys

Output fields are asked for by name, in one text or item by item, and names that the
schema does not know are passed over. Sort fields are checked: each must be a column.
-/

namespace RecordQuery

/-- Requested output fields, either a list of names or one comma-separated text. -/
inductive Selection
  | list (names : List String)
  | csv (text : String)
  deriving DecidableEq

namespace Selection

def names : Selection → List String
  | list given => Text.names given
  | csv text => Text.items text

def toJson : Selection → Json
  | list given => Json.strings given
  | csv text => .string text

def ofJson? : Json → Option Selection
  | .string s => some (csv s)
  | .array items => (items.mapM Json.string?).map list
  | _ => none

end Selection

/-- Requested fields that exist, by kind, each once. -/
structure OutputFields where
  columns : List String
  relations : List String
  deriving DecidableEq

namespace OutputFields

def empty : OutputFields := ⟨[], []⟩

def isEmpty (f : OutputFields) : Bool := f.columns.isEmpty && f.relations.isEmpty

def addOnce (names : List String) (name : String) : List String :=
  if names.contains name then names else names ++ [name]

def add (schema : Schema) (f : OutputFields) (name : String) : OutputFields :=
  match schema.field? name with
  | none => f
  | some field =>
    if field.isRelation then { f with relations := addOnce f.relations name }
    else { f with columns := addOnce f.columns name }

def ofSelection (schema : Schema) (s : Selection) : OutputFields :=
  s.names.foldl (add schema) empty

end OutputFields

structure SortKey where
  field : String
  order : SortOrder
  deriving DecidableEq

namespace SortKey

def sql (k : SortKey) : String := k.field ++ " " ++ k.order.sql

def ofName (schema : Schema) (order : SortOrder) (name : String) : Except QueryError SortKey :=
  match schema.field? name with
  | some f => if f.isRelation then .error (.invalidSortField name) else .ok ⟨name, order⟩
  | none => .error (.invalidSortField name)

def ofNames (schema : Schema) (order : SortOrder) :
    List String → Except QueryError (List SortKey)
  | [] => .ok []
  | name :: rest => do
    let k ← ofName schema order name
    let ks ← ofNames schema order rest
    return k :: ks

/-- The sort keys of a comma-separated text, all in one direction. -/
def parse (schema : Schema) (sortBy : Option String) (order : SortOrder) :
    Except QueryError (List SortKey) :=
  match sortBy with
  | none => .ok []
  | some text => ofNames schema order (Text.items text)

end SortKey

end RecordQuery
