import RecordQuery.Predicate.Evaluation
import RecordQuery.Proofs.Sql.Template

/-!
# Conditions in SQL

The conditions that stand after `WHERE`, as syntax: how each is written, and whether it is
true, false or unknown of a row. A comparison with null is unknown. Every predicate is
written as one condition, with literals and with bound arguments alike.
-/

namespace RecordQuery

-- ---------------------------------------------------------------------------
-- Truth
-- ---------------------------------------------------------------------------

inductive Truth
  | yes
  | unknown
  | no
  deriving DecidableEq

namespace Truth

def ofBool (b : Bool) : Truth := if b then yes else no

def not : Truth → Truth
  | yes => no
  | unknown => unknown
  | no => yes

def and : Truth → Truth → Truth
  | no, _ => no
  | yes, t => t
  | unknown, no => no
  | unknown, _ => unknown

def or : Truth → Truth → Truth
  | yes, _ => yes
  | no, t => t
  | unknown, yes => yes
  | unknown, _ => unknown

def all (ts : List Truth) : Truth := ts.foldr and yes

def any (ts : List Truth) : Truth := ts.foldr or no

@[simp] theorem ofBool_eq_yes {b : Bool} : ofBool b = yes ↔ b = true := by
  cases b <;> simp [ofBool]

@[simp] theorem ofBool_eq_no {b : Bool} : ofBool b = no ↔ b = false := by
  cases b <;> simp [ofBool]

@[simp] theorem not_eq_yes {t : Truth} : t.not = yes ↔ t = no := by
  cases t <;> simp [not]

theorem and_eq_yes {t u : Truth} : t.and u = yes ↔ t = yes ∧ u = yes := by
  cases t <;> cases u <;> simp [and]

theorem or_eq_yes {t u : Truth} : t.or u = yes ↔ t = yes ∨ u = yes := by
  cases t <;> cases u <;> simp [or]

theorem or_eq_no {t u : Truth} : t.or u = no ↔ t = no ∧ u = no := by
  cases t <;> cases u <;> simp [or]

theorem all_eq_yes {ts : List Truth} : all ts = yes ↔ ∀ t ∈ ts, t = yes := by
  induction ts with
  | nil => simp [all]
  | cons t ts ih =>
    rw [List.forall_mem_cons, ← ih]
    exact and_eq_yes

theorem any_eq_yes {ts : List Truth} : any ts = yes ↔ ∃ t ∈ ts, t = yes := by
  induction ts with
  | nil => simp [any]
  | cons t ts ih =>
    simp only [List.mem_cons, exists_eq_or_imp, ← ih]
    exact or_eq_yes

theorem any_eq_no {ts : List Truth} : any ts = no ↔ ∀ t ∈ ts, t = no := by
  induction ts with
  | nil => simp [any]
  | cons t ts ih =>
    rw [List.forall_mem_cons, ← ih]
    exact or_eq_no

end Truth

-- ---------------------------------------------------------------------------
-- Syntax
-- ---------------------------------------------------------------------------

inductive SqlCondition
  /-- `1=1` or `1=0`. -/
  | constant (holds : Bool)
  | compare (field : String) (op : Comparison) (value : Json)
  | isNull (field : String)
  | isNotNull (field : String)
  | inList (field : String) (values : List Json)
  /-- Document containment. -/
  | contains (field : String) (text : String)
  | like (field : String) (pattern : String)
  | not (condition : SqlCondition)
  /-- A conjunction in parentheses. -/
  | and (conditions : List SqlCondition)
  /-- A disjunction in parentheses. -/
  | or (conditions : List SqlCondition)

namespace SqlCondition

mutual

def template : SqlCondition → Template
  | constant true => [.raw "1=1"]
  | constant false => [.raw "1=0"]
  | compare field op value => [.raw (field ++ " " ++ op.sql ++ " "), .value field value]
  | isNull field => [.raw (field ++ " IS NULL")]
  | isNotNull field => [.raw (field ++ " IS NOT NULL")]
  | inList field values =>
    .raw (field ++ " IN (") ::
      (Template.between ", " (values.map fun v => [.value field v]) ++ [.raw ")"])
  | contains field text => [.raw (field ++ " @> "), .quoted text, .raw "::jsonb"]
  | like field pattern => [.raw (field ++ " LIKE "), .pattern pattern]
  | not c => .raw "NOT (" :: (template c ++ [.raw ")"])
  | and cs => .raw "(" :: (Template.between " AND " (templates cs) ++ [.raw ")"])
  | or cs => .raw "(" :: (Template.between " OR " (templates cs) ++ [.raw ")"])

def templates : List SqlCondition → List Template
  | [] => []
  | c :: rest => template c :: templates rest

end

theorem templates_eq (cs : List SqlCondition) : templates cs = cs.map template := by
  induction cs with
  | nil => rfl
  | cons c rest ih => simp [templates, ih]

theorem template_and (cs : List SqlCondition) :
    (and cs).template =
      .raw "(" :: (Template.between " AND " (cs.map template) ++ [.raw ")"]) := by
  rw [template, templates_eq]

theorem template_or (cs : List SqlCondition) :
    (or cs).template =
      .raw "(" :: (Template.between " OR " (cs.map template) ++ [.raw ")"]) := by
  rw [template, templates_eq]

-- ---------------------------------------------------------------------------
-- Truth of a condition
-- ---------------------------------------------------------------------------

/-- Two values that are not null compare as the store compares them. -/
def compared (op : Comparison) (actual expected : Json) : Truth :=
  if actual.isNull || expected.isNull then .unknown
  else .ofBool ((actual.filterOrder? expected).any op.accepts)

/-- What the store computes for a column that is not null. -/
def present (actual : Json) (holds : Bool) : Truth :=
  if actual.isNull then .unknown else .ofBool holds

mutual

def truth (row : KeyMap Json) : SqlCondition → Truth
  | constant holds => .ofBool holds
  | compare field op value => compared op (column row field) value
  | isNull field => .ofBool (column row field).isNull
  | isNotNull field => .ofBool (!(column row field).isNull)
  | inList field values => .any (values.map (compared .eq (column row field)))
  | contains field text =>
    present (column row field) ((Predicate.holdsText field text).holds row)
  | like field pattern => present (column row field) ((Predicate.like field pattern).holds row)
  | not c => (truth row c).not
  | and cs => .all (truths row cs)
  | or cs => .any (truths row cs)

def truths (row : KeyMap Json) : List SqlCondition → List Truth
  | [] => []
  | c :: rest => truth row c :: truths row rest

end

theorem truths_eq (row : KeyMap Json) (cs : List SqlCondition) :
    truths row cs = cs.map (truth row) := by
  induction cs with
  | nil => rfl
  | cons c rest ih => simp [truths, ih]

end SqlCondition

-- ---------------------------------------------------------------------------
-- Predicates as conditions
-- ---------------------------------------------------------------------------

namespace Predicate

/-- Against null only equality and inequality are tests; an ordering is never true. -/
def nullTest (field : String) : Comparison → SqlCondition
  | .eq => .isNull field
  | .ne => .isNotNull field
  | _ => .constant false

/-- A group of operands; one stands for itself, and none for a constant. -/
def grouped (join : List SqlCondition → SqlCondition) (none : Bool) :
    List SqlCondition → SqlCondition
  | [] => .constant none
  | [c] => c
  | cs => join cs

mutual

def condition : Predicate → SqlCondition
  | .compare field op value =>
    if value.isNull then nullTest field op else .compare field op value
  | .oneOf field values => if values.isEmpty then .constant false else .inList field values
  | .noneOf field values =>
    if values.isEmpty then .constant true else .not (.inList field values)
  | .holdsText field text => .contains field text
  | .like field pattern => .like field pattern
  | .and operands => grouped .and true (conditions operands)
  | .or operands => grouped .or false (conditions operands)

def conditions : List Predicate → List SqlCondition
  | [] => []
  | p :: rest => condition p :: conditions rest

end

theorem conditions_eq (ps : List Predicate) : conditions ps = ps.map condition := by
  induction ps with
  | nil => rfl
  | cons p rest ih => simp [conditions, ih]

-- ---------------------------------------------------------------------------
-- Both renderings are those of the condition
-- ---------------------------------------------------------------------------

theorem sql_restSql (connective : String) (p : Predicate) (rest : List Predicate) :
    p.sql ++ restSql connective rest = Text.joined connective ((p :: rest).map sql) := by
  induction rest generalizing p with
  | nil => simp [restSql, Text.joined]
  | cons r rest ih =>
    simp only [restSql, List.map_cons, Text.joined]
    rw [String.append_assoc, ih, List.map_cons, String.append_assoc]

theorem bindRest_bind (schema : Schema) (connective : String) (p : Predicate)
    (rest : List Predicate) (q : BoundSql)
    (ih : ∀ r ∈ p :: rest, ∀ q, r.condition.template.bind schema q = r.bind schema q) :
    bindRest schema connective rest (p.bind schema q) =
      Template.bind schema (Template.between connective
        ((p :: rest).map fun r => r.condition.template)) q := by
  induction rest generalizing p q with
  | nil => simp [bindRest, Template.between, ih]
  | cons r rest ihr =>
    obtain ⟨hp, hrest⟩ := List.forall_mem_cons.mp ih
    simp only [bindRest, List.map_cons, Template.between, Template.bind_append,
      Template.bind_cons, Piece.bind, hp]
    exact ihr r _ hrest

section
variable {connective none : String} {join : List SqlCondition → SqlCondition} {empty : Bool}
  {ps : List Predicate}
  (hjoin : ∀ cs, (join cs).template =
    .raw "(" :: (Template.between connective (cs.map SqlCondition.template) ++ [.raw ")"]))
  (hempty : (SqlCondition.constant empty).template = [.raw none])
include hjoin hempty

theorem text_grouped (ih : ∀ p ∈ ps, p.condition.template.text = p.sql) :
    (grouped join empty (ps.map condition)).template.text = groupSql connective none ps := by
  match ps with
  | [] => simp [grouped, groupSql, hempty, Template.text, Piece.text]
  | [p] => exact (ih p List.mem_cons_self).trans (by rw [groupSql])
  | p :: r :: rest =>
    have htexts : ((p :: r :: rest).map condition).map (fun c => c.template.text) =
        (p :: r :: rest).map sql := by
      rw [List.map_map]
      exact List.map_congr_left ih
    have hgroup : groupSql connective none (p :: r :: rest) =
        "(" ++ Text.joined connective ((p :: r :: rest).map sql) ++ ")" := by
      rw [← sql_restSql, ← String.append_assoc, groupSql]
      simp
    rw [hgroup, ← htexts]
    show (join ((p :: r :: rest).map condition)).template.text = _
    rw [hjoin]
    simp only [Template.text, Template.text_append, Template.text_between, Piece.text,
      List.map_map, String.append_assoc, String.append_empty]
    rfl

theorem bind_grouped (schema : Schema) (q : BoundSql)
    (ih : ∀ p ∈ ps, ∀ q, p.condition.template.bind schema q = p.bind schema q) :
    (grouped join empty (ps.map condition)).template.bind schema q =
      bindGroup schema connective none ps q := by
  match ps with
  | [] => simp [grouped, bindGroup, hempty, Template.bind, Piece.bind]
  | [p] => exact ih p List.mem_cons_self q
  | p :: r :: rest =>
    have hgroup : bindGroup schema connective none (p :: r :: rest) q =
        (bindRest schema connective (r :: rest) (p.bind schema (q.push "("))).push ")" := by
      rw [bindGroup]
      simp
    show (join ((p :: r :: rest).map condition)).template.bind schema q = _
    rw [hgroup, hjoin, Template.bind_cons, Template.bind_append, List.map_map,
      bindRest_bind schema connective p (r :: rest) _ ih]
    rfl

end

theorem bindValues_bind (schema : Schema) (field : String) (values : List Json) (q : BoundSql) :
    Template.bind schema (Template.between ", " (values.map fun v => [.value field v])) q =
      bindValues (schema.columnType field) values q := by
  induction values generalizing q with
  | nil => rfl
  | cons v rest ih =>
    cases rest with
    | nil => rfl
    | cons u rest => exact ih _

theorem text_values (field : String) (values : List Json) :
    Template.text (Template.between ", " (values.map fun v => [.value field v])) =
      Text.joined ", " (values.map Json.sql) := by
  have hv (v : Json) : Template.text [.value field v] = v.sql := by simp [Template.text, Piece.text]
  simp [Template.text_between, hv, Function.comp_def]

/-- The condition is what the predicate is written as. -/
theorem text_condition (p : Predicate) : p.condition.template.text = p.sql := by
  induction p with
  | compare field op value =>
    unfold condition sql
    split
    · cases op <;> simp [nullTest, nullComparison, SqlCondition.template, Template.text, Piece.text]
    · simp [SqlCondition.template, Template.text, Piece.text]
  | oneOf field values =>
    unfold condition sql
    split
    · rfl
    · simp [SqlCondition.template, Template.text, Template.text_append, Piece.text, text_values,
        String.append_assoc]
  | noneOf field values =>
    unfold condition sql
    split
    · rfl
    · simp [SqlCondition.template, Template.text, Template.text_append, Piece.text, text_values,
        String.append_assoc]
  | holdsText field text =>
    simp [condition, sql, SqlCondition.template, Template.text, Piece.text, String.append_assoc]
  | like field pattern =>
    simp [condition, sql, SqlCondition.template, Template.text, Piece.text]
  | and operands ih =>
    rw [condition, sql, conditions_eq]
    exact text_grouped SqlCondition.template_and rfl ih
  | or operands ih =>
    rw [condition, sql, conditions_eq]
    exact text_grouped SqlCondition.template_or rfl ih

/-- The condition is also what the predicate is bound as. -/
theorem bind_condition (p : Predicate) (schema : Schema) (q : BoundSql) :
    p.condition.template.bind schema q = p.bind schema q := by
  induction p generalizing q with
  | compare field op value =>
    unfold condition bind
    split
    · cases op <;> rfl
    · rfl
  | oneOf field values =>
    unfold condition bind
    split
    · rfl
    · rw [SqlCondition.template, Template.bind_cons, Template.bind_append, bindValues_bind]
      rfl
  | noneOf field values =>
    unfold condition bind
    split
    · rfl
    · simp only [SqlCondition.template, Template.bind_cons, Template.bind_append,
        bindValues_bind, Template.bind_nil, Piece.bind, BoundSql.push_push, List.cons_append]
      rfl
  | holdsText field text => rfl
  | like field pattern => rfl
  | and operands ih =>
    rw [condition, bind, conditions_eq]
    exact bind_grouped SqlCondition.template_and rfl schema q ih
  | or operands ih =>
    rw [condition, bind, conditions_eq]
    exact bind_grouped SqlCondition.template_or rfl schema q ih

end Predicate

end RecordQuery
