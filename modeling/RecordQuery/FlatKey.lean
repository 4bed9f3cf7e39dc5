import RecordQuery.Operator
import RecordQuery.Schema.Basic
import RecordQuery.Text.Alphanumeric

/-!
# Keys of flat parameters

A key that names a field asks for equality. Any other key is a field, two underscores
and the word of a flat operator; the last two underscores of the key are the ones that
divide it, so the field may hold underscores itself.
-/

namespace RecordQuery

structure FlatKey where
  field : String
  operator : Operator
  deriving DecidableEq

namespace FlatKey

/-- The parts before and after the last `__`. -/
def splitLast? : List Char → Option (List Char × List Char)
  | [] => none
  | c :: rest =>
    match splitLast? rest with
    | some (front, back) => some (c :: front, back)
    | none =>
      match c, rest with
      | '_', '_' :: back => some ([], back)
      | _, _ => none

def isIdentifier (name : String) : Bool :=
  name ≠ "" && name.toList.all fun c => Text.isAlphanumeric c || c == '_'

def parse (schema : Schema) (key : String) : Except QueryError FlatKey :=
  if schema.hasField key then .ok ⟨key, .eq⟩
  else
    match splitLast? key.toList with
    | none => .error (.fieldNotFound key)
    | some (front, back) =>
      let field := String.ofList front
      match Operator.ofSuffix? (String.ofList back) with
      | none => .error (.unsupportedOperator key)
      | some op =>
        if !isIdentifier field then .error (.unsupportedOperator key)
        else if schema.hasField field then .ok ⟨field, op⟩
        else .error (.fieldNotFound key)

end FlatKey

end RecordQuery
