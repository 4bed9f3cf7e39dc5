import RecordQuery.Error

/-!
# Entity schemas

A schema lists an entity's columns and relations in order of declaration and knows the
position of each name. Declaring a name again replaces its declaration in place.
-/

namespace RecordQuery

inductive ColumnType
  | text
  | integer
  | float
  | boolean
  | timestamp
  | json
  deriving DecidableEq

namespace ColumnType

def name : ColumnType → String
  | text => "text"
  | integer => "integer"
  | float => "float"
  | boolean => "boolean"
  | timestamp => "timestamp"
  | json => "json"

/-- The SQL type that a bound text is cast to. -/
def sql : ColumnType → String
  | text => "text"
  | integer => "bigint"
  | float => "double precision"
  | boolean => "boolean"
  | timestamp => "timestamptz"
  | json => "jsonb"

end ColumnType

/-- How many rows a relation leads to. -/
inductive Cardinality
  | one
  | many
  deriving DecidableEq

def Cardinality.name : Cardinality → String
  | one => "one"
  | many => "many"

/-- A link to the rows of another entity whose `remoteKey` equals this row's `localKey`. -/
structure Relation where
  targetEntity : String
  targetTable : String
  localKey : String
  remoteKey : String
  cardinality : Cardinality
  deriving DecidableEq

structure Field where
  name : String
  type : ColumnType
  indexed : Bool
  primaryKey : Bool
  relation : Option Relation
  deriving DecidableEq

def Field.isRelation (f : Field) : Bool := f.relation.isSome

structure Schema where
  entity : String
  table : String
  fields : List Field
  positions : KeyMap Nat

namespace Schema

def empty (entity table : String) : Schema := ⟨entity, table, [], []⟩

-- ---------------------------------------------------------------------------
-- Declarations
-- ---------------------------------------------------------------------------

def declare (s : Schema) (f : Field) : Schema :=
  match KeyMap.get? s.positions f.name with
  | some i => { s with fields := s.fields.set i f }
  | none =>
    { s with
      fields := s.fields ++ [f]
      positions := KeyMap.put s.positions f.name s.fields.length }

def primaryKey (s : Schema) (name : String) (type : ColumnType) : Schema :=
  s.declare ⟨name, type, true, true, none⟩

def indexed (s : Schema) (name : String) (type : ColumnType) : Schema :=
  s.declare ⟨name, type, true, false, none⟩

def column (s : Schema) (name : String) (type : ColumnType) : Schema :=
  s.declare ⟨name, type, false, false, none⟩

def relation (s : Schema) (name : String) (r : Relation) : Schema :=
  s.declare ⟨name, .json, false, false, some r⟩

-- ---------------------------------------------------------------------------
-- Look-ups
-- ---------------------------------------------------------------------------

def field? (s : Schema) (name : String) : Option Field := do
  s.fields[← KeyMap.get? s.positions name]?

def hasField (s : Schema) (name : String) : Bool := KeyMap.has s.positions name

def fieldNames (s : Schema) : List String := s.fields.map (·.name)

def scalarFields (s : Schema) : List String :=
  (s.fields.filter fun f => !f.isRelation).map (·.name)

def relationFields (s : Schema) : List String :=
  (s.fields.filter (·.isRelation)).map (·.name)

def primaryKeys (s : Schema) : List String := (s.fields.filter (·.primaryKey)).map (·.name)

def isIndexed (s : Schema) (name : String) : Bool :=
  (s.field? name).any fun f => f.indexed || f.primaryKey

def relation? (s : Schema) (name : String) : Option Relation := do
  (← s.field? name).relation

/-- The type a column is compared as; text where the schema has no such field. -/
def columnType (s : Schema) (name : String) : ColumnType :=
  ((s.field? name).map (·.type)).getD .text

/-- The field of this name if values can be compared with it. -/
def scalarField (s : Schema) (name : String) : Except QueryError Field :=
  match s.field? name with
  | some f => if f.isRelation then .error (.relationNotFilterable name) else .ok f
  | none => .error (.fieldNotFound name)

end Schema

end RecordQuery
