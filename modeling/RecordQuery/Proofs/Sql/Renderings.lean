import RecordQuery.Proofs.Collection.Compile
import RecordQuery.Proofs.Sql.Condition
import RecordQuery.Proofs.Sql.Outline
import RecordQuery.Sample.Heroes

/-!
# Renderings of a statement

The logged text and the two bound queries of a statement come from one outline of its
filter. The logged text has the literals of the values in the holes. Both bound queries have
`$1`, `$2`, … in them, each with the cast of its column, and bind the values in this order;
what a window binds comes after them.
-/

namespace RecordQuery

-- ---------------------------------------------------------------------------
-- Values of a filter
-- ---------------------------------------------------------------------------

namespace Template

theorem fillings_between (separator : String) (ts : List Template) :
    (between separator ts).fillings = ts.flatMap fillings := by
  induction ts with
  | nil => rfl
  | cons t rest ih =>
    cases rest with
    | nil => simp [between]
    | cons u rest =>
      have hcons (v : Template) : fillings (.raw separator :: v) = fillings v := rfl
      have hbetween : between separator (t :: u :: rest) =
          t ++ .raw separator :: between separator (u :: rest) := rfl
      rw [hbetween, fillings_append, hcons, ih]
      simp only [List.flatMap_cons]

theorem fillings_parenthesized (opening closing : String) (t : Template) :
    fillings (.raw opening :: (t ++ [.raw closing])) = t.fillings := by
  have hcons (v : Template) : fillings (.raw opening :: v) = fillings v := rfl
  have hlast : fillings [.raw closing] = [] := rfl
  rw [hcons, fillings_append, hlast, List.append_nil]

end Template

namespace Predicate

/-- The values of a list that are not null. -/
def presentValues (field : String) (values : List Json) : List Filling :=
  (values.filter (!·.isNull)).map (.value field)

mutual

/-- The values of a predicate that are not null, from left to right. -/
def fillings : Predicate → List Filling
  | .compare field _ value => presentValues field [value]
  | .oneOf field values => presentValues field values
  | .noneOf field values => presentValues field values
  | .holdsText _ text => [.quoted text]
  | .like _ pattern => [.pattern pattern]
  | .and operands => fillingsAll operands
  | .or operands => fillingsAll operands

def fillingsAll : List Predicate → List Filling
  | [] => []
  | p :: rest => fillings p ++ fillingsAll rest

end

theorem fillingsAll_eq (ps : List Predicate) : fillingsAll ps = ps.flatMap fillings := by
  induction ps with
  | nil => rfl
  | cons p rest ih => rw [fillingsAll, ih, List.flatMap_cons]

theorem fillings_values (field : String) (values : List Json) :
    (Template.between ", " (values.map fun v => [.value field v])).fillings =
      presentValues field values := by
  rw [Template.fillings_between, presentValues]
  induction values with
  | nil => rfl
  | cons v rest ih =>
    rw [List.map_cons, List.flatMap_cons, ih]
    cases h : v.isNull <;> simp [Template.fillings, Piece.filling?, h]

theorem fillings_grouped (connective : String) {join : List SqlCondition → SqlCondition}
    {empty : Bool} {ps : List Predicate}
    (hjoin : ∀ cs, (join cs).template =
      .raw "(" :: (Template.between connective (cs.map SqlCondition.template) ++ [.raw ")"]))
    (ih : ∀ p ∈ ps, p.condition.template.fillings = p.fillings) :
    (grouped join empty (ps.map condition)).template.fillings = ps.flatMap fillings := by
  match ps with
  | [] => cases empty <;> rfl
  | [p] => simpa [grouped] using ih
  | p :: q :: rest =>
    show (join ((p :: q :: rest).map condition)).template.fillings = _
    rw [hjoin, Template.fillings_parenthesized, Template.fillings_between, List.map_map,
      List.flatMap_map, List.flatMap_def, List.flatMap_def]
    exact congrArg List.flatten (List.map_congr_left ih)

/-- The holes of a predicate's condition are for its values, in their order. -/
theorem fillings_condition (p : Predicate) : p.condition.template.fillings = p.fillings := by
  induction p with
  | compare field op value =>
    unfold condition fillings presentValues
    cases h : value.isNull with
    | true =>
      cases op <;>
        simp [nullTest, SqlCondition.template, Template.fillings, List.filterMap, Piece.filling?, h]
    | false => simp [SqlCondition.template, Template.fillings, List.filterMap, Piece.filling?, h]
  | oneOf field values =>
    unfold condition fillings
    split
    · next h => rw [List.isEmpty_iff.mp h]; rfl
    · rw [SqlCondition.template, Template.fillings_parenthesized, fillings_values]
  | noneOf field values =>
    unfold condition fillings
    split
    · next h => rw [List.isEmpty_iff.mp h]; rfl
    · rw [SqlCondition.template, Template.fillings_parenthesized, SqlCondition.template,
        Template.fillings_parenthesized, fillings_values]
  | holdsText field text => rfl
  | like field pattern => rfl
  | and operands ih =>
    rw [condition, fillings, conditions_eq, fillingsAll_eq]
    exact fillings_grouped " AND " SqlCondition.template_and ih
  | or operands ih =>
    rw [condition, fillings, conditions_eq, fillingsAll_eq]
    exact fillings_grouped " OR " SqlCondition.template_or ih

theorem fillings_conjunction (ps : List Predicate) :
    (conjunction ps).fillings = ps.flatMap fillings := by
  match ps with
  | [] => rfl
  | [p] => simp [conjunction]
  | p :: q :: rest => exact fillingsAll_eq _

end Predicate

-- ---------------------------------------------------------------------------
-- Statements
-- ---------------------------------------------------------------------------

namespace Statement

/-- The `WHERE` clause; there is none without predicates. -/
def filterTemplate (s : Statement) : Template :=
  match s.predicate with
  | none => []
  | some p => .raw " WHERE " :: p.condition.template

/-- The values that a statement filters by, from left to right. -/
def fillings (s : Statement) : List Filling := s.predicates.flatMap Predicate.fillings

theorem fillings_filterTemplate (s : Statement) : s.filterTemplate.fillings = s.fillings := by
  unfold filterTemplate fillings
  rw [predicate_eq]
  cases h : s.predicates with
  | nil => rfl
  | cons p ps =>
    show (Predicate.conjunction (p :: ps)).condition.template.fillings = _
    rw [Predicate.fillings_condition, Predicate.fillings_conjunction]

theorem text_filterTemplate (s : Statement) :
    s.filterTemplate.text = (s.predicate.map fun p => " WHERE " ++ p.sql).getD "" := by
  unfold filterTemplate
  cases s.predicate with
  | none => rfl
  | some p =>
    show " WHERE " ++ p.condition.template.text = " WHERE " ++ p.sql
    rw [Predicate.text_condition]

theorem bind_filterTemplate (s : Statement) (schema : Schema) (q : BoundSql) :
    s.filterTemplate.bind schema q = s.bindFilter schema q := by
  unfold filterTemplate bindFilter
  cases s.predicate with
  | none => rfl
  | some p => exact p.bind_condition schema _

-- ---------------------------------------------------------------------------
-- The three renderings
-- ---------------------------------------------------------------------------

/-- The arguments of a window: its limit and its offset, as numbers of 64 bits with a sign. -/
def windowArguments (s : Statement) : List Argument :=
  match s.window with
  | none => []
  | some w => [.int8 (Int.bmod w.limit (2 ^ 64)), .int8 (Int.bmod w.offset (2 ^ 64))]

/-- The text of a window after so many arguments. -/
def windowText (s : Statement) (bound : Nat) : String :=
  match s.window with
  | none => ""
  | some _ => " LIMIT $" ++ toString (bound + 1) ++ " OFFSET $" ++ toString (bound + 2)

theorem bindWindow_eq (s : Statement) (q : BoundSql) :
    s.bindWindow q =
      ⟨q.text ++ s.windowText q.arguments.length, q.arguments ++ s.windowArguments⟩ := by
  have hsigned (n : Nat) : signed64 n = Int.bmod n (2 ^ 64) := rfl
  unfold bindWindow windowText windowArguments
  cases s.window with
  | none => simp
  | some w => simp [BoundSql.push, BoundSql.bind, hsigned, String.append_assoc]

theorem bindFilter_eq (s : Statement) (schema : Schema) (opening : String) :
    s.bindFilter schema (BoundSql.empty.push opening) =
      ⟨opening ++ s.filterTemplate.outline.fill
          (placeholders 1 (s.fillings.map (Filling.cast schema))),
        s.fillings.map (Filling.argument schema)⟩ := by
  rw [← bind_filterTemplate, Template.bind_eq_fill, fillings_filterTemplate]
  simp [BoundSql.push, BoundSql.empty]

theorem sql_eq (s : Statement) :
    s.sql = "SELECT " ++ s.selectList ++ " FROM " ++ s.table ++
      s.filterTemplate.outline.fill (s.fillings.map Filling.literal) ++ s.orderSql ++
        (s.window.map Window.sql).getD "" := by
  rw [← fillings_filterTemplate, ← Template.text_eq_fill, text_filterTemplate]
  unfold sql
  cases s.predicate <;> cases s.window <;> rfl

theorem countQuery_eq (s : Statement) (schema : Schema) :
    s.countQuery schema =
      ⟨"SELECT COUNT(*) FROM " ++ s.table ++ s.filterTemplate.outline.fill
          (placeholders 1 (s.fillings.map (Filling.cast schema))),
        s.fillings.map (Filling.argument schema)⟩ :=
  s.bindFilter_eq schema _

theorem rowQuery_eq (s : Statement) (schema : Schema) :
    s.rowQuery schema =
      ⟨"SELECT " ++ s.recordSql ++ " AS record FROM " ++ s.table ++
          s.filterTemplate.outline.fill
            (placeholders 1 (s.fillings.map (Filling.cast schema))) ++
          s.orderSql ++ s.windowText s.fillings.length,
        s.fillings.map (Filling.argument schema) ++ s.windowArguments⟩ := by
  rw [rowQuery, bindFilter_eq, bindWindow_eq]
  simp [BoundSql.push]

theorem outline_filterTemplate (s : Statement) :
    s.predicates = [] ∧ s.filterTemplate.outline = [] ∨
      s.predicates ≠ [] ∧ ∃ rest, s.filterTemplate.outline = some " WHERE " :: rest := by
  unfold filterTemplate
  rw [predicate_eq]
  cases s.predicates with
  | nil => exact .inl ⟨rfl, rfl⟩
  | cons p ps => exact .inr ⟨List.cons_ne_nil p ps, _, rfl⟩

/-- One template, which depends on no schema, underlies the three renderings of a statement.
It is empty exactly when there are no predicates, and has a hole for every value of them
that is not null. In the logged text the values' literals are in the holes. In the row query
and in the count query the placeholders from `$1` on are, each followed by its cast, and the
values are bound in that order; a window binds two integers more. -/
theorem renderings_agree (s : Statement) :
    ∃ template : Outline,
      (s.predicates = [] ∧ template = [] ∨
        s.predicates ≠ [] ∧ ∃ rest, template = some " WHERE " :: rest) ∧
      template.holes = s.fillings.length ∧
      s.sql = "SELECT " ++ s.selectList ++ " FROM " ++ s.table ++
        template.fill (s.fillings.map Filling.literal) ++ s.orderSql ++
          (s.window.map Window.sql).getD "" ∧
      ∀ schema : Schema,
        s.countQuery schema =
          ⟨"SELECT COUNT(*) FROM " ++ s.table ++
              template.fill (placeholders 1 (s.fillings.map (Filling.cast schema))),
            s.fillings.map (Filling.argument schema)⟩ ∧
        s.rowQuery schema =
          ⟨"SELECT " ++ s.recordSql ++ " AS record FROM " ++ s.table ++
              template.fill (placeholders 1 (s.fillings.map (Filling.cast schema))) ++
              s.orderSql ++ s.windowText s.fillings.length,
            s.fillings.map (Filling.argument schema) ++ s.windowArguments⟩ := by
  refine ⟨s.filterTemplate.outline, s.outline_filterTemplate, ?_, s.sql_eq, fun schema => ?_⟩
  · rw [Template.holes_outline, fillings_filterTemplate]
  · exact ⟨s.countQuery_eq schema, s.rowQuery_eq schema⟩

/-- A value of every kind. The integer past the signed range of 64 bits is bound as the float
that is `2 ^ 63`, the one for a text column as its text, and a text for a column of integers
with the cast. -/
theorem renderings_agree_kinds :
    let past : Json.Integer := ⟨0x8000000000000001, by decide, by decide⟩
    let power : Binary64 := ⟨false, 1086 * Binary64.binade, by decide⟩
    let half : Binary64 := ⟨false, 1022 * Binary64.binade, by decide⟩
    let s : Statement :=
      { table := "hero"
        predicates := [
          .oneOf "age" [.int 18, .null, .string "7", .number (.int past), .number (.float half)],
          .or [.compare "name" .eq (.int 42), .compare "is_deprecated" .ne (.bool true),
            .compare "pets" .eq (.array [.int 1]), .like "name" "%a%", .holdsText "pets" "cat"]]
        window := some ⟨2, 10⟩ }
    let literals := ["18", "'7'", "9223372036854775809", "0.5", "42", "true", "'[1]'", "'%a%'",
      "'\"cat\"'"]
    let sent := ["$1", "$2::bigint", "$3", "$4", "$5::text", "$6", "$7", "$8", "$9"]
    let arguments : List Argument := [.int8 18, .text "7", .float8 power, .float8 half, .text "42",
      .bool true, .jsonb (.array [.int 1]), .text "%a%", .text "\"cat\""]
    power.value = 2 ^ 63 * Binary64.one ∧ ∃ template : Outline,
      s.sql = "SELECT * FROM hero" ++ template.fill literals ++ " LIMIT 10 OFFSET 10" ∧
      s.countQuery Sample.heroSchema =
        ⟨"SELECT COUNT(*) FROM hero" ++ template.fill sent, arguments⟩ ∧
      s.rowQuery Sample.heroSchema =
        ⟨"SELECT to_jsonb(hero.*) AS record FROM hero" ++ template.fill sent ++
            " LIMIT $10 OFFSET $11", arguments ++ [.int8 10, .int8 10]⟩ := by
  intro past power half s literals sent arguments
  have hvalue : power.value = 2 ^ 63 * Binary64.one := by decide +kernel
  -- what the template is filled with and what is bound
  have hpower : Binary64.ofInt past.val past.natAbs_le = power := by decide +kernel
  have hliterals : s.fillings.map Filling.literal = literals := by decide +kernel
  have hcasts : placeholders 1 (s.fillings.map (Filling.cast Sample.heroSchema)) = sent := by decide
  have harguments : s.fillings.map (Filling.argument Sample.heroSchema) = arguments := by
    show [_, _, Argument.float8 (Binary64.ofInt past.val past.natAbs_le), _, _, _, _, _, _] = _
    rw [hpower]
    rfl
  -- what is around it
  have hlogged : "SELECT " ++ s.selectList ++ " FROM " ++ s.table = "SELECT * FROM hero" := by
    decide
  have hrecord : "SELECT " ++ s.recordSql ++ " AS record FROM " ++ s.table =
      "SELECT to_jsonb(hero.*) AS record FROM hero" := by decide
  have horder : s.orderSql = "" := by decide
  have hwindow : (s.window.map Window.sql).getD "" = " LIMIT 10 OFFSET 10" := by decide
  have hplaced : s.windowText s.fillings.length = " LIMIT $10 OFFSET $11" := by decide
  have hten : Int.bmod 10 (2 ^ 64) = 10 := by decide
  have hbound : s.windowArguments = [.int8 10, .int8 10] := by
    show [Argument.int8 (Int.bmod 10 (2 ^ 64)), .int8 (Int.bmod 10 (2 ^ 64))] = _
    rw [hten]
  obtain ⟨template, -, -, hsql, hqueries⟩ := renderings_agree s
  obtain ⟨hcount, hrow⟩ := hqueries Sample.heroSchema
  rw [hliterals, hlogged, horder, hwindow, String.append_empty] at hsql
  rw [hcasts, harguments] at hcount hrow
  rw [hrecord, horder, hplaced, hbound, String.append_empty] at hrow
  exact ⟨hvalue, template, hsql, hcount, hrow⟩

/-- Null is written out, an empty list is a constant, and the window comes last. -/
example :
    let s : Statement :=
      { table := "hero"
        predicates := [.oneOf "age" [.null, .string "7"], .or [.oneOf "id" [], .like "name" "%a%"]]
        window := some ⟨1, 10⟩ }
    let schema := (Schema.empty "Hero" "hero").column "age" .integer
    (s.rowQuery schema).text =
      "SELECT to_jsonb(hero.*) AS record FROM hero WHERE (age IN (NULL, $1::bigint) AND " ++
        "(1=0 OR name LIKE $2)) LIMIT $3 OFFSET $4" := by
  decide

end Statement

end RecordQuery
