import RecordQuery.Json.Text
import RecordQuery.Predicate.Basic
import RecordQuery.Text.Joined

/-!
# Predicates as SQL text

Values are written as literals, a quote inside a literal twice. Groups of two or more
operands stand in parentheses. An ordering against null, and a membership in an empty
list, is a constant.
-/

namespace RecordQuery

def twiceIfQuote (c : Char) : List Char := if c = '\'' then ['\'', '\''] else [c]

/-- A literal: the text between quotes, with every quote in it written twice. -/
def sqlLiteral (s : String) : String :=
  String.ofList ('\'' :: s.toList.flatMap twiceIfQuote ++ ['\''])

def Json.sql : Json → String
  | .null => "NULL"
  | .bool b => Json.boolText b
  | .number n => n.text
  | .string s => sqlLiteral s
  | j => sqlLiteral j.text

def nullComparison (field : String) : Comparison → String
  | .eq => field ++ " IS NULL"
  | .ne => field ++ " IS NOT NULL"
  | _ => "1=0"

namespace Predicate

mutual

def sql : Predicate → String
  | .compare field op value =>
    if value.isNull then nullComparison field op
    else field ++ " " ++ op.sql ++ " " ++ value.sql
  | .oneOf field values =>
    if values.isEmpty then "1=0"
    else field ++ " IN (" ++ Text.joined ", " (values.map Json.sql) ++ ")"
  | .noneOf field values =>
    if values.isEmpty then "1=1"
    else "NOT (" ++ field ++ " IN (" ++ Text.joined ", " (values.map Json.sql) ++ "))"
  | .holdsText field text => field ++ " @> " ++ sqlLiteral (Json.quoted text) ++ "::jsonb"
  | .like field pattern => field ++ " LIKE " ++ sqlLiteral pattern
  | .and operands => groupSql " AND " "1=1" operands
  | .or operands => groupSql " OR " "1=0" operands

def groupSql (connective none : String) : List Predicate → String
  | [] => none
  | [p] => sql p
  | p :: rest => "(" ++ sql p ++ restSql connective rest ++ ")"

def restSql (connective : String) : List Predicate → String
  | [] => ""
  | p :: rest => connective ++ sql p ++ restSql connective rest

end

end Predicate

end RecordQuery
