import RecordQuery.Predicate.Bound

/-!
# Templates of SQL text

A template is SQL text with holes for values. Filled with literals it is the text that is
logged; with a placeholder in each hole, and the values bound, it is the text that is sent.
-/

namespace RecordQuery

/-- A stretch of SQL: text as it is, or a hole with the value that belongs there. -/
inductive Piece
  | raw (s : String)
  /-- A value compared with the column of this name; null is written out. -/
  | value (field : String) (v : Json)
  | pattern (s : String)
  /-- A text as a JSON value. -/
  | quoted (s : String)

def Piece.text : Piece → String
  | .raw s => s
  | .value _ v => v.sql
  | .pattern s => sqlLiteral s
  | .quoted s => sqlLiteral (Json.quoted s)

def Piece.bind (schema : Schema) (q : BoundSql) : Piece → BoundSql
  | .raw s => q.push s
  | .value field v => v.bind (schema.columnType field) q
  | .pattern s => q.bind (.text s)
  | .quoted s => q.bind (.text (Json.quoted s))

abbrev Template := List Piece

namespace Template

def text : Template → String
  | [] => ""
  | piece :: rest => piece.text ++ text rest

def bind (schema : Schema) (t : Template) (q : BoundSql) : BoundSql :=
  t.foldl (Piece.bind schema) q

/-- The templates in order with the separator between neighbours. -/
def between (separator : String) : List Template → Template
  | [] => []
  | [t] => t
  | t :: rest => t ++ .raw separator :: between separator rest

theorem text_append (s t : Template) : text (s ++ t) = text s ++ text t := by
  induction s with
  | nil => simp [text]
  | cons piece rest ih => simp [text, ih, String.append_assoc]

theorem text_between (separator : String) (ts : List Template) :
    text (between separator ts) = Text.joined separator (ts.map text) := by
  induction ts with
  | nil => rfl
  | cons t rest ih =>
    cases rest with
    | nil => rfl
    | cons u rest =>
      simp only [between, text_append, text, Piece.text, List.map_cons, Text.joined]
      rw [ih, List.map_cons, String.append_assoc]

theorem bind_append (schema : Schema) (s t : Template) (q : BoundSql) :
    bind schema (s ++ t) q = bind schema t (bind schema s q) := List.foldl_append ..

theorem bind_cons (schema : Schema) (piece : Piece) (t : Template) (q : BoundSql) :
    bind schema (piece :: t) q = bind schema t (piece.bind schema q) := rfl

theorem bind_nil (schema : Schema) (q : BoundSql) : bind schema [] q = q := rfl

end Template

end RecordQuery
