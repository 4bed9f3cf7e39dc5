import RecordQuery.Record.Basic
import RecordQuery.Selection

/-!
# Shaping records for an answer

Without a field selection an answer shows every column and loaded relation; with one,
the primary keys and the requested fields. A related value that is no record and no text
is shown as its JSON text.
-/

namespace RecordQuery

mutual

def Record.dump : Record → Json
  | ⟨columns, relations⟩ => .object (KeyMap.overlay columns (shapeRelations relations))

def Related.shape : Related → Json
  | .null => .null
  | .one r => Record.dump r
  | .many rs => .array (dumpAll rs)
  | .plain (.string s) => .string s
  | .plain j => .string j.text

def dumpAll : List Record → List Json
  | [] => []
  | r :: rest => Record.dump r :: dumpAll rest

def shapeRelations : List (String × Related) → List (String × Json)
  | [] => []
  | (name, value) :: rest => (name, Related.shape value) :: shapeRelations rest

end

theorem dumpAll_eq (rs : List Record) : dumpAll rs = rs.map Record.dump := by
  induction rs with
  | nil => rfl
  | cons r rest ih => rw [dumpAll, ih, List.map_cons]

namespace Record

/-- The columns of these names that the record has. -/
def shownColumns (r : Record) (names : List String) : List (String × Json) :=
  names.filterMap fun name => (r.get? name).map fun v => (name, v)

/-- The relations of these names; one that is not loaded is null. -/
def shownRelations (r : Record) (names : List String) : List (String × Json) :=
  names.map fun name => (name, ((r.relation? name).map Related.shape).getD .null)

def shape (schema : Schema) (fields : OutputFields) (r : Record) : Json :=
  if fields.isEmpty then r.dump
  else
    .ofMembers (r.shownColumns (schema.primaryKeys ++ fields.columns) ++
      r.shownRelations fields.relations)

end Record

end RecordQuery
