import RecordQuery.Schema.Basic

/-!
# The schema registry

Schemas are described once per entity type and kept. A request for a schema takes two
steps: a look-up, and on a miss an entry that describes the schema only if none has
been entered in between.
-/

namespace RecordQuery

/-- An entity type: what tells it from other types, the name used in messages, and its
description. -/
structure EntityType where
  id : String
  name : String
  describe : Schema

structure Registry where
  built : KeyMap Schema

namespace Registry

def empty : Registry := ⟨[]⟩

def find? (r : Registry) (e : EntityType) : Option Schema := KeyMap.get? r.built e.id

/-- The schema already entered for the type, or else its description, now entered. -/
def enter (r : Registry) (e : EntityType) : Schema × Registry :=
  match r.find? e with
  | some s => (s, r)
  | none => (e.describe, ⟨KeyMap.put r.built e.id e.describe⟩)

def schemaFor (r : Registry) (e : EntityType) : Schema × Registry :=
  match r.find? e with
  | some s => (s, r)
  | none => r.enter e

/-- An entered schema by the name of its entity. -/
def byName? (r : Registry) (entity : String) : Option Schema :=
  (r.built.map Prod.snd).find? (·.entity == entity)

def size (r : Registry) : Nat := r.built.length

def isEmpty (r : Registry) : Bool := r.built.isEmpty

end Registry

end RecordQuery
