import RecordQuery.Condition.Compilation
import RecordQuery.FlatKey

/-!
# Flat parameters

Every parameter with a value becomes one predicate, in the order of the keys. A null
value leaves its parameter out, whatever the key.
-/

namespace RecordQuery.Parameters

def compileOne (schema : Schema) (singleAsEq : Bool) (key : String) (value : Json) :
    Except QueryError Predicate := do
  let flat ← FlatKey.parse schema key
  match schema.field? flat.field with
  | none => .error (.fieldNotFound key)
  | some f =>
    if f.isRelation then .error (.relationNotFilterable key)
    else flat.operator.compile f value .flat singleAsEq

def compile (schema : Schema) (singleAsEq : Bool) :
    List (String × Json) → Except QueryError (List Predicate)
  | [] => .ok []
  | (key, value) :: rest =>
    if value.isNull then compile schema singleAsEq rest
    else do
      let p ← compileOne schema singleAsEq key value
      let ps ← compile schema singleAsEq rest
      return p :: ps

end RecordQuery.Parameters
