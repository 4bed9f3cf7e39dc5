import RecordQuery.Proofs.Number.Rounding
import RecordQuery.Proofs.Sql.Template

/-!
# Outlines

The outline of a template is its text with a hole for every value that is not null. The
template is written with the values' literals in the holes, and bound with placeholders in
them that number the values from left to right.
-/

namespace RecordQuery

-- ---------------------------------------------------------------------------
-- Outlines
-- ---------------------------------------------------------------------------

/-- SQL text with holes in it: text as it is, or a hole. -/
abbrev Outline := List (Option String)

namespace Outline

/-- The text with one filling after another in the holes. -/
def fill : Outline → List String → String
  | [], _ => ""
  | some s :: rest, fillings => s ++ fill rest fillings
  | none :: rest, f :: fillings => f ++ fill rest fillings
  | none :: rest, [] => fill rest []

def holes (o : Outline) : Nat := o.count none

end Outline

/-- The placeholders from `$k` on, each followed by its cast. -/
def placeholders (k : Nat) (casts : List String) : List String :=
  (casts.zipIdx k).map fun e => "$" ++ toString e.2 ++ e.1

theorem placeholders_cons (k : Nat) (cast : String) (casts : List String) :
    placeholders k (cast :: casts) =
      ("$" ++ toString k ++ cast) :: placeholders (k + 1) casts := by
  simp [placeholders]

-- ---------------------------------------------------------------------------
-- Values
-- ---------------------------------------------------------------------------

namespace Json

/-- A value as it is written out. -/
def literal : Json → String
  | .null => "NULL"
  | .bool b => if b then "true" else "false"
  | .number (.int i) => toString i.val
  | .number (.float x) => floatText x
  | .string s => sqlLiteral s
  | v => sqlLiteral v.text

theorem sql_eq_literal (v : Json) : v.sql = v.literal := by
  cases v with
  | number n => cases n <;> rfl
  | _ => rfl

/-- What is bound for a value compared with a column of this type. A text column is compared
with the text of a truth value or a number. For any other column a float is bound as it is, and
an integer up to the end of the signed range of 64 bits; past it, the nearest float is. -/
def argument (type : ColumnType) : Json → Argument
  | .bool b => if type = .text then .text (if b then "true" else "false") else .bool b
  | .number (.int i) =>
    if type = .text then .text (toString i.val)
    else if i.val < 2 ^ 63 then .int8 i.val
    else .float8 (Binary64.nearestTo i.val i.natAbs_le).val
  | .number (.float x) => if type = .text then .text (floatText x) else .float8 x
  | .string s => .text s
  | v => .jsonb v

theorem argument_bool (type : ColumnType) (b : Bool) :
    (Json.bool b).argument type = if type = .text then .text (boolText b) else .bool b := rfl

theorem argument_number (type : ColumnType) (n : Number) :
    (Json.number n).argument type = if type = .text then .text n.text else n.argument := by
  cases n with
  | int i => rfl
  | float x => rfl

/-- What follows the placeholder of such a value. -/
def cast (type : ColumnType) : Json → String
  | .bool _ => if type = .text then "::text" else ""
  | .number _ => if type = .text then "::text" else ""
  | .string _ => if type = .text then "" else "::" ++ type.sql
  | _ => ""

end Json

theorem BoundSql.bind_push (q : BoundSql) (a : Argument) (s : String) :
    (q.bind a).push s =
      ⟨q.text ++ ("$" ++ toString (q.arguments.length + 1) ++ s), q.arguments ++ [a]⟩ := by
  simp [bind, push, String.append_assoc]

theorem BoundSql.push_empty (q : BoundSql) : q.push "" = q := by
  simp [push]

theorem Json.bind_eq {v : Json} (h : v.isNull = false) (type : ColumnType) (q : BoundSql) :
    v.bind type q = (q.bind (v.argument type)).push (v.cast type) := by
  cases v with
  | null => cases h
  | bool b =>
    by_cases ht : type = .text <;> simp [bind, argument_bool, cast, ht, BoundSql.push_empty]
  | number n =>
    by_cases ht : type = .text <;> simp [bind, argument_number, cast, ht, BoundSql.push_empty]
  | string s => by_cases ht : type = .text <;> simp [bind, argument, cast, ht, BoundSql.push_empty]
  | _ => exact (BoundSql.push_empty _).symm

/-- What belongs into a hole. -/
inductive Filling
  /-- A value, not null, compared with the column of this name. -/
  | value (field : String) (v : Json)
  | pattern (s : String)
  /-- A text as a JSON value. -/
  | quoted (s : String)

namespace Filling

def literal : Filling → String
  | value _ v => v.literal
  | pattern s => sqlLiteral s
  | quoted s => sqlLiteral (Json.quoted s)

def argument (schema : Schema) : Filling → Argument
  | value field v => v.argument (schema.columnType field)
  | pattern s => .text s
  | quoted s => .text (Json.quoted s)

def cast (schema : Schema) : Filling → String
  | value field v => v.cast (schema.columnType field)
  | pattern _ => ""
  | quoted _ => ""

end Filling

-- ---------------------------------------------------------------------------
-- Templates
-- ---------------------------------------------------------------------------

def Piece.outline : Piece → Option String
  | .raw s => some s
  | .value _ v => if v.isNull then some "NULL" else none
  | .pattern _ => none
  | .quoted _ => none

def Piece.filling? : Piece → Option Filling
  | .raw _ => none
  | .value field v => if v.isNull then none else some (.value field v)
  | .pattern s => some (.pattern s)
  | .quoted s => some (.quoted s)

/-- A piece is text, the same in each rendering, or a hole. -/
theorem Piece.text_or_hole (piece : Piece) :
    (∃ s, piece.outline = some s ∧ piece.filling? = none ∧ piece.text = s ∧
      ∀ schema q, piece.bind schema q = q.push s) ∨
    ∃ f, piece.outline = none ∧ piece.filling? = some f ∧ piece.text = f.literal ∧
      ∀ schema q, piece.bind schema q = (q.bind (f.argument schema)).push (f.cast schema) := by
  cases piece with
  | raw s => exact .inl ⟨s, rfl, rfl, rfl, fun _ _ => rfl⟩
  | value field v =>
    cases h : v.isNull with
    | true =>
      cases v with
      | null => exact .inl ⟨"NULL", rfl, rfl, rfl, fun _ _ => rfl⟩
      | _ => cases h
    | false =>
      refine .inr ⟨.value field v, ?_, ?_, v.sql_eq_literal, fun schema q => Json.bind_eq h _ q⟩
      · simp [outline, h]
      · simp [filling?, h]
  | pattern s =>
    exact .inr ⟨.pattern s, rfl, rfl, rfl, fun _ _ => (BoundSql.push_empty _).symm⟩
  | quoted s =>
    exact .inr ⟨.quoted s, rfl, rfl, rfl, fun _ _ => (BoundSql.push_empty _).symm⟩

namespace Template

def outline (t : Template) : Outline := t.map Piece.outline

def fillings (t : Template) : List Filling := t.filterMap Piece.filling?

theorem outline_append (t u : Template) : (t ++ u).outline = t.outline ++ u.outline :=
  List.map_append

theorem fillings_append (t u : Template) : (t ++ u).fillings = t.fillings ++ u.fillings :=
  List.filterMap_append

theorem holes_outline (t : Template) : t.outline.holes = t.fillings.length := by
  induction t with
  | nil => rfl
  | cons piece rest ih =>
    unfold outline fillings Outline.holes at *
    rcases piece.text_or_hole with ⟨s, ho, hf, -⟩ | ⟨f, ho, hf, -⟩
    · simp [ho, hf, ih]
    · simp [ho, hf, ih]

/-- With the literals in its holes the template is the text that is logged. -/
theorem text_eq_fill (t : Template) : t.text = t.outline.fill (t.fillings.map Filling.literal) := by
  induction t with
  | nil => rfl
  | cons piece rest ih =>
    unfold outline fillings at *
    rcases piece.text_or_hole with ⟨s, ho, hf, ht, -⟩ | ⟨f, ho, hf, ht, -⟩
    · simp [text, Outline.fill, ho, hf, ht, ih]
    · simp [text, Outline.fill, ho, hf, ht, ih]

/-- With placeholders in its holes, numbered on from the arguments already bound, it is the
text that is sent. -/
theorem bind_eq_fill (schema : Schema) (t : Template) (q : BoundSql) :
    t.bind schema q =
      ⟨q.text ++ t.outline.fill
          (placeholders (q.arguments.length + 1) (t.fillings.map (Filling.cast schema))),
        q.arguments ++ t.fillings.map (Filling.argument schema)⟩ := by
  induction t generalizing q with
  | nil => simp [bind_nil, outline, fillings, Outline.fill]
  | cons piece rest ih =>
    rw [bind_cons, ih]
    unfold outline fillings
    rcases piece.text_or_hole with ⟨s, ho, hf, -, hb⟩ | ⟨f, ho, hf, -, hb⟩
    · simp [Outline.fill, ho, hf, hb, BoundSql.push, String.append_assoc]
    · simp [Outline.fill, ho, hf, hb, BoundSql.bind_push, placeholders_cons, String.append_assoc]

end Template

end RecordQuery
