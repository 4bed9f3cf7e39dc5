import RecordQuery.Condition.Basic
import RecordQuery.Number.Numeral
import RecordQuery.Predicate.Basic
import RecordQuery.Schema.Basic
import RecordQuery.Text.CommaList

/-!
# Compiling conditions

Each leaf becomes one predicate on a scalar field of the schema. A group is the
conjunction of its two branches; what holds no leaf is left out at every level, and a
tree without leaves compiles to no predicate at all.
-/

namespace RecordQuery

/-- Where an operator stands: at the end of a flat key or in a condition leaf. -/
inductive Grammar
  | flat
  | tree
  deriving DecidableEq

/-- An item of a comma-separated list as a value of the column's type. -/
def Field.typed (f : Field) (item : String) : Except QueryError Json :=
  match f.type with
  | .integer =>
    match Numeral.int64? item.toList with
    | some i => .ok (.int i)
    | none => .error (.invalidValue f.name (.notInteger item))
  | .float =>
    match Numeral.real? item with
    | some (.finite x) => .ok (.number (.float x))
    | _ => .error (.invalidValue f.name (.notNumber item))
  | .boolean =>
    let word := Text.lowerAscii item
    if word = "true" ∨ word = "1" then .ok (.bool true)
    else if word = "false" ∨ word = "0" then .ok (.bool false)
    else .error (.invalidValue f.name (.notBoolean item))
  | .text => .ok (.string item)
  | .timestamp => .ok (.string item)
  | .json => .ok (.string item)

def Field.typedAll (f : Field) : List String → Except QueryError (List Json)
  | [] => .ok []
  | item :: rest => do
    let v ← f.typed item
    let vs ← f.typedAll rest
    return v :: vs

/-- The values of a membership: a list as it is, or a text split at commas. -/
def Field.values (f : Field) : Json → Except QueryError (List Json)
  | .array items => .ok items
  | .string s => f.typedAll (Text.items s)
  | j => .error (.invalidValue f.name (.notList j))

/-- The text of a scalar. -/
def Field.scalarText (f : Field) : Json → Except QueryError String
  | .string s => .ok s
  | .number n => .ok n.text
  | .bool b => .ok (Json.boolText b)
  | j => .error (.invalidValue f.name (.notScalar j))

/-- One operator applied to a field. With `singleAsEq` a flat membership in a list of one
value becomes equality with it. -/
def Operator.compile (op : Operator) (f : Field) (value : Json) (grammar : Grammar)
    (singleAsEq : Bool) : Except QueryError Predicate :=
  match op with
  | .eq => .ok (.compare f.name .eq value)
  | .ne => .ok (.compare f.name .ne value)
  | .lt => .ok (.compare f.name .lt value)
  | .gt => .ok (.compare f.name .gt value)
  | .le => .ok (.compare f.name .le value)
  | .ge => .ok (.compare f.name .ge value)
  | .oneOf => do
    let values ← f.values value
    match grammar, singleAsEq, values with
    | .flat, true, [v] => return .compare f.name .eq v
    | _, _, _ => return .oneOf f.name values
  | .noneOf => do return .noneOf f.name (← f.values value)
  | .jsonContains => do return .holdsText f.name (← f.scalarText value)
  | .like => do return Predicate.contains f.name (← f.scalarText value)

namespace Condition

def compileLeaf (schema : Schema) (singleAsEq : Bool) (l : Leaf) :
    Except QueryError Predicate := do
  let f ← schema.scalarField l.field
  l.operator.compile f l.value .tree singleAsEq

/-- No operands, no predicate. -/
def combine (join : List Predicate → Predicate) : List Predicate → Option Predicate
  | [] => none
  | ps => some (join ps)

mutual

def compile (schema : Schema) (singleAsEq : Bool) :
    Condition → Except QueryError (Option Predicate)
  | .leaf l => do return some (← compileLeaf schema singleAsEq l)
  | .group all any => do
    let all ← compileBranch schema singleAsEq all
    let any ← compileBranch schema singleAsEq any
    return combine Predicate.conjunction
      ((combine Predicate.conjunction all).toList ++ (combine Predicate.disjunction any).toList)

def compileBranch (schema : Schema) (singleAsEq : Bool) :
    Option (List Condition) → Except QueryError (List Predicate)
  | none => .ok []
  | some nodes => compileNodes schema singleAsEq nodes

/-- The predicates of the nodes that have one. -/
def compileNodes (schema : Schema) (singleAsEq : Bool) :
    List Condition → Except QueryError (List Predicate)
  | [] => .ok []
  | n :: rest => do
    let p ← compile schema singleAsEq n
    let ps ← compileNodes schema singleAsEq rest
    return p.toList ++ ps

end

theorem compileBranch_eq (schema : Schema) (singleAsEq : Bool)
    (branch : Option (List Condition)) :
    compileBranch schema singleAsEq branch = compileNodes schema singleAsEq (branch.getD []) := by
  cases branch <;> rfl

def compile? (schema : Schema) (singleAsEq : Bool) :
    Option Condition → Except QueryError (Option Predicate)
  | none => .ok none
  | some c => compile schema singleAsEq c

theorem compile?_some (schema : Schema) (singleAsEq : Bool) (c : Condition) :
    compile? schema singleAsEq (some c) = compile schema singleAsEq c := rfl

end Condition

end RecordQuery
