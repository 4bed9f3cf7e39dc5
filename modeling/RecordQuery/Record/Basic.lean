import RecordQuery.Error

/-!
# Records

A record is a row: its columns and what its loaded relations lead to. In JSON it is one
object of both, a relation taking the place of a column of the same name.
-/

namespace RecordQuery

/-- A row whose relations lead to values of type `α`. -/
structure Row (α : Type) where
  columns : List (String × Json)
  relations : List (String × α)

/-- What a relation of a row leads to. -/
inductive Related
  | null
  | one (record : Row Related)
  | many (records : List (Row Related))
  /-- A value that is neither a record nor a list of records. -/
  | plain (value : Json)

abbrev Record := Row Related

namespace Record

def ofColumns (columns : KeyMap Json) : Record := ⟨columns, []⟩

def ofJson (j : Json) : Except StoreError Record :=
  match j with
  | .object members => .ok (ofColumns members)
  | _ => .error (.notRow j)

def get? (r : Record) (column : String) : Option Json := KeyMap.get? r.columns column

def relation? (r : Record) (name : String) : Option Related := KeyMap.get? r.relations name

def setRelation (r : Record) (name : String) (value : Related) : Record :=
  { r with relations := KeyMap.put r.relations name value }

/-- Only the named columns. -/
def project (r : Record) (names : List String) : Record :=
  { r with columns := r.columns.filter fun c => names.contains c.1 }

end Record

/-- The records of a list of objects; nothing if one of the values is no object. -/
def objectRows? : List Json → Option (List Record)
  | [] => some []
  | .object members :: rest => (objectRows? rest).map (Record.ofColumns members :: ·)
  | _ :: _ => none

def Related.ofJson : Json → Related
  | .null => .null
  | .object members => .one (Record.ofColumns members)
  | .array items =>
    match objectRows? items with
    | some rows => .many rows
    | none => .plain (.array items)
  | j => .plain j

mutual

/-- The JSON object of a record. -/
def Record.toJson : Record → Json
  | ⟨columns, relations⟩ => .object (KeyMap.overlay columns (relationsToJson relations))

def Related.toJson : Related → Json
  | .null => .null
  | .one r => Record.toJson r
  | .many rs => .array (recordsToJson rs)
  | .plain j => j

def recordsToJson : List Record → List Json
  | [] => []
  | r :: rest => Record.toJson r :: recordsToJson rest

def relationsToJson : List (String × Related) → List (String × Json)
  | [] => []
  | (name, value) :: rest => (name, Related.toJson value) :: relationsToJson rest

end

end RecordQuery
