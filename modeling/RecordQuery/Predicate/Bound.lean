import RecordQuery.Json.Text
import RecordQuery.Predicate.Sql
import RecordQuery.Schema.Basic

/-!
# SQL with bound arguments

A bound query is SQL text in which `$1`, `$2`, … stand for the arguments, in order.
Values enter a predicate's text only so; a cast brings a bound text to the type of the
column it is compared with.
-/

namespace RecordQuery

inductive Argument
  | int8 (i : Int)
  | float8 (x : Binary64)
  | bool (b : Bool)
  | text (s : String)
  | jsonb (value : Json)

structure BoundSql where
  text : String
  arguments : List Argument

namespace BoundSql

def empty : BoundSql := ⟨"", []⟩

def push (q : BoundSql) (s : String) : BoundSql := { q with text := q.text ++ s }

theorem push_push (q : BoundSql) (s t : String) : (q.push s).push t = q.push (s ++ t) := by
  simp [push, String.append_assoc]

/-- Writes the next placeholder and binds the argument to it. -/
def bind (q : BoundSql) (a : Argument) : BoundSql :=
  ⟨q.text ++ "$" ++ toString (q.arguments.length + 1), q.arguments ++ [a]⟩

end BoundSql

/-- An integer past the signed range of 64 bits is bound as the nearest float. -/
def Json.Number.argument : Json.Number → Argument
  | .int i =>
    if i.val < 0x8000000000000000 then .int8 i.val
    else .float8 (Binary64.ofInt i.val i.natAbs_le)
  | .float x => .float8 x

/-- A value compared with a column of this type. Numbers and truth values meet a text
column as texts. -/
def Json.bind (type : ColumnType) (value : Json) (q : BoundSql) : BoundSql :=
  match value with
  | .null => q.push "NULL"
  | .bool b =>
    if type = .text then (q.bind (.text (boolText b))).push "::text" else q.bind (.bool b)
  | .number n =>
    if type = .text then (q.bind (.text n.text)).push "::text" else q.bind n.argument
  | .string s =>
    if type = .text then q.bind (.text s) else (q.bind (.text s)).push ("::" ++ type.sql)
  | .array _ => q.bind (.jsonb value)
  | .object _ => q.bind (.jsonb value)

def bindValues (type : ColumnType) : List Json → BoundSql → BoundSql
  | [], q => q
  | [v], q => v.bind type q
  | v :: rest, q => bindValues type rest ((v.bind type q).push ", ")

namespace Predicate

mutual

def bind (schema : Schema) : Predicate → BoundSql → BoundSql
  | .compare field op value, q =>
    if value.isNull then q.push (nullComparison field op)
    else value.bind (schema.columnType field) (q.push (field ++ " " ++ op.sql ++ " "))
  | .oneOf field values, q =>
    if values.isEmpty then q.push "1=0"
    else (bindValues (schema.columnType field) values (q.push (field ++ " IN ("))).push ")"
  | .noneOf field values, q =>
    if values.isEmpty then q.push "1=1"
    else
      (bindValues (schema.columnType field) values
        (q.push ("NOT (" ++ field ++ " IN ("))).push "))"
  | .holdsText field text, q =>
    ((q.push (field ++ " @> ")).bind (.text (Json.quoted text))).push "::jsonb"
  | .like field pattern, q => (q.push (field ++ " LIKE ")).bind (.text pattern)
  | .and operands, q => bindGroup schema " AND " "1=1" operands q
  | .or operands, q => bindGroup schema " OR " "1=0" operands q

def bindGroup (schema : Schema) (connective none : String) :
    List Predicate → BoundSql → BoundSql
  | [], q => q.push none
  | [p], q => bind schema p q
  | p :: rest, q => (bindRest schema connective rest (bind schema p (q.push "("))).push ")"

def bindRest (schema : Schema) (connective : String) : List Predicate → BoundSql → BoundSql
  | [], q => q
  | p :: rest, q => bindRest schema connective rest (bind schema p (q.push connective))

end

end Predicate

end RecordQuery
