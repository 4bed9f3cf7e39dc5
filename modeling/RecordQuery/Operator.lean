import RecordQuery.Error
import RecordQuery.Text.Blank
import RecordQuery.Text.Lowercase

/-!
# Operators and sort orders

The words for filter operators and sort directions. All operators can stand in a
condition; seven of them can end the key of a flat parameter.
-/

namespace RecordQuery

inductive Operator
  | eq
  | ne
  | oneOf
  | noneOf
  | lt
  | gt
  | le
  | ge
  | jsonContains
  | like
  deriving DecidableEq

namespace Operator

def all : List Operator := [eq, ne, oneOf, noneOf, lt, gt, le, ge, jsonContains, like]

/-- The operators that a flat key can end in. -/
def flat : List Operator := [oneOf, noneOf, lt, gt, le, ge, jsonContains]

def word : Operator → String
  | eq => "eq"
  | ne => "ne"
  | oneOf => "in"
  | noneOf => "not_in"
  | lt => "lt"
  | gt => "gt"
  | le => "le"
  | ge => "ge"
  | jsonContains => "json_contains"
  | like => "like"

def ofWord? (s : String) : Option Operator := all.find? (·.word == s)

def ofSuffix? (s : String) : Option Operator := flat.find? (·.word == s)

def parse (s : String) : Except QueryError Operator :=
  match ofWord? s with
  | some op => .ok op
  | none => .error (.invalidValue "operator" (.unknownOperator s))

theorem ofWord?_word (op : Operator) : ofWord? op.word = some op := by cases op <;> decide

end Operator

inductive SortOrder
  | asc
  | desc
  deriving DecidableEq

namespace SortOrder

def word : SortOrder → String
  | asc => "asc"
  | desc => "desc"

def sql : SortOrder → String
  | asc => "ASC"
  | desc => "DESC"

def ofWord? (s : String) : Option SortOrder := [asc, desc].find? (·.word == s)

/-- Blanks around the word and the case of its letters do not count. -/
def parse (s : String) : Except QueryError SortOrder :=
  let word := Text.lowerAscii (Text.trim s)
  match ofWord? word with
  | some order => .ok order
  | none => .error (.invalidValue "sort_order" (.unknownOrder word))

theorem ofWord?_word (order : SortOrder) : ofWord? order.word = some order := by
  cases order <;> decide

end SortOrder

/-- A fixed word in JSON: the text, or an object whose only member has it as its name and
null as its value. -/
def Json.choice? : Json → Option String
  | .string s => some s
  | .object [(s, .null)] => some s
  | _ => none

def Operator.ofJson? (j : Json) : Option Operator := do ofWord? (← j.choice?)

def Operator.toJson (op : Operator) : Json := .string op.word

def SortOrder.ofJson? (j : Json) : Option SortOrder := do ofWord? (← j.choice?)

def SortOrder.toJson (order : SortOrder) : Json := .string order.word

end RecordQuery
