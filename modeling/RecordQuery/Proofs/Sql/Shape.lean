import Mathlib.Data.List.Forall2
import RecordQuery.Proofs.Sql.Renderings
import RecordQuery.Sample.Heroes

/-!
# Predicates of one shape

Two predicates have one shape when they differ in nothing but their values, and the values
in the same place are of one kind. Statements whose predicates have one shape are sent as the
same text: what tells them apart is bound.
-/

namespace RecordQuery

-- ---------------------------------------------------------------------------
-- Kinds of values
-- ---------------------------------------------------------------------------

/-- A list and an object are of one kind. -/
inductive Json.Kind
  | null
  | boolean
  | number
  | text
  | document
  deriving DecidableEq

namespace Json

def kind : Json → Kind
  | .null => .null
  | .bool _ => .boolean
  | .number _ => .number
  | .string _ => .text
  | .array _ => .document
  | .object _ => .document

theorem isNull_eq (v : Json) : v.isNull = decide (v.kind = .null) := by
  cases v <;> rfl

theorem cast_congr {v w : Json} (h : v.kind = w.kind) (type : ColumnType) :
    v.cast type = w.cast type := by
  cases v <;> cases w <;> first | rfl | cases h

end Json

-- ---------------------------------------------------------------------------
-- Templates
-- ---------------------------------------------------------------------------

namespace Template

/-- The templates have the same text around the same holes, with the same casts. -/
structure Alike (schema : Schema) (t u : Template) : Prop where
  outline : t.outline = u.outline
  casts : t.fillings.map (Filling.cast schema) = u.fillings.map (Filling.cast schema)

namespace Alike

variable {schema : Schema}

theorem refl (t : Template) : Alike schema t t := ⟨rfl, rfl⟩

theorem append {t t' u u' : Template} (ht : Alike schema t t') (hu : Alike schema u u') :
    Alike schema (t ++ u) (t' ++ u') where
  outline := by rw [outline_append, outline_append, ht.outline, hu.outline]
  casts := by
    rw [fillings_append, fillings_append, List.map_append, List.map_append, ht.casts, hu.casts]

theorem cons {t u : Template} (piece : Piece) (h : Alike schema t u) :
    Alike schema (piece :: t) (piece :: u) :=
  .append (.refl [piece]) h

theorem value {v w : Json} (h : v.kind = w.kind) (field : String) :
    Alike schema [.value field v] [.value field w] := by
  have hnull : v.isNull = w.isNull := by rw [Json.isNull_eq, Json.isNull_eq, h]
  have hcast := Json.cast_congr h (schema.columnType field)
  constructor
  · simp [Template.outline, Piece.outline, hnull]
  · cases hw : w.isNull <;>
      simp [Template.fillings, List.filterMap, Piece.filling?, Filling.cast, hnull, hw, hcast]

theorem between (separator : String) {ts us : List Template}
    (h : List.Forall₂ (Alike schema) ts us) :
    Alike schema (Template.between separator ts) (Template.between separator us) := by
  induction h with
  | nil => exact .refl _
  | cons ht hrest ih =>
    cases hrest with
    | nil => exact ht
    | cons _ _ => exact ht.append (ih.cons _)

end Alike

end Template

-- ---------------------------------------------------------------------------
-- Predicates
-- ---------------------------------------------------------------------------

namespace Predicate

mutual

/-- The predicates have one shape: they agree in all but their values, and those are of the
same kinds. -/
def Alike : Predicate → Predicate → Prop
  | .compare f op v, .compare g op' w => f = g ∧ op = op' ∧ v.kind = w.kind
  | .oneOf f vs, .oneOf g ws => f = g ∧ vs.map Json.kind = ws.map Json.kind
  | .noneOf f vs, .noneOf g ws => f = g ∧ vs.map Json.kind = ws.map Json.kind
  | .holdsText f _, .holdsText g _ => f = g
  | .like f _, .like g _ => f = g
  | .and ps, .and qs => AllAlike ps qs
  | .or ps, .or qs => AllAlike ps qs
  | _, _ => False

def AllAlike : List Predicate → List Predicate → Prop
  | [], [] => True
  | p :: ps, q :: qs => Alike p q ∧ AllAlike ps qs
  | _, _ => False

end

theorem allAlike_iff {ps qs : List Predicate} : AllAlike ps qs ↔ List.Forall₂ Alike ps qs := by
  induction ps generalizing qs with
  | nil => cases qs <;> simp [AllAlike]
  | cons p ps ih => cases qs <;> simp [AllAlike, ih]

variable {schema : Schema}

theorem alike_values (field : String) {vs ws : List Json}
    (h : vs.map Json.kind = ws.map Json.kind) :
    List.Forall₂ (Template.Alike schema) (vs.map fun v => [.value field v])
      (ws.map fun w => [.value field w]) := by
  induction vs generalizing ws with
  | nil =>
    cases ws with
    | nil => exact .nil
    | cons w ws => cases h
  | cons v vs ih =>
    cases ws with
    | nil => cases h
    | cons w ws =>
      obtain ⟨hv, hvs⟩ := List.cons.inj h
      exact .cons (.value hv field) (ih hvs)

theorem isEmpty_of_kinds {vs ws : List Json} (h : vs.map Json.kind = ws.map Json.kind) :
    vs.isEmpty = ws.isEmpty := by
  rw [← List.isEmpty_map (f := Json.kind), h, List.isEmpty_map]

theorem alike_inList (field : String) {vs ws : List Json}
    (h : vs.map Json.kind = ws.map Json.kind) :
    Template.Alike schema (SqlCondition.inList field vs).template
      (SqlCondition.inList field ws).template :=
  .cons _ (.append (.between _ (alike_values field h)) (.refl _))

theorem alike_grouped (connective : String) {join : List SqlCondition → SqlCondition}
    {empty : Bool} {ps qs : List Predicate}
    (hjoin : ∀ cs, (join cs).template =
      .raw "(" :: (Template.between connective (cs.map SqlCondition.template) ++ [.raw ")"]))
    (h : List.Forall₂ (fun p q => Template.Alike schema p.condition.template q.condition.template)
      ps qs) :
    Template.Alike schema (grouped join empty (ps.map condition)).template
      (grouped join empty (qs.map condition)).template := by
  cases h with
  | nil => exact .refl _
  | @cons p q ps qs hp hrest =>
    cases hrest with
    | nil => exact hp
    | @cons p' q' ps qs hp' hrest =>
      show Template.Alike schema (join ((p :: p' :: ps).map condition)).template
        (join ((q :: q' :: qs).map condition)).template
      rw [hjoin, hjoin]
      refine .cons _ (.append (.between _ ?_) (.refl _))
      rw [List.map_map, List.map_map, List.forall₂_map_left_iff, List.forall₂_map_right_iff]
      exact .cons hp (.cons hp' hrest)

theorem alike_operands {ps qs : List Predicate}
    (ih : ∀ p ∈ ps, ∀ q, p.Alike q →
      Template.Alike schema p.condition.template q.condition.template)
    (h : List.Forall₂ Alike ps qs) :
    List.Forall₂ (fun p q => Template.Alike schema p.condition.template q.condition.template)
      ps qs := by
  induction h with
  | nil => exact .nil
  | cons hp hrest ihrest =>
    obtain ⟨ihp, ihps⟩ := List.forall_mem_cons.mp ih
    exact .cons (ihp _ hp) (ihrest ihps)

/-- Predicates of one shape are written as conditions with the same text between the holes. -/
theorem alike_condition {p q : Predicate} (h : p.Alike q) :
    Template.Alike schema p.condition.template q.condition.template := by
  induction p generalizing q with
  | compare field op v =>
    cases q with
    | compare g op' w =>
      simp only [Alike] at h
      obtain ⟨rfl, rfl, hkind⟩ := h
      simp only [condition, Json.isNull_eq, hkind]
      split
      · exact .refl _
      · exact .cons _ (.value hkind field)
    | _ => simp [Alike] at h
  | oneOf field vs =>
    cases q with
    | oneOf g ws =>
      simp only [Alike] at h
      obtain ⟨rfl, hkinds⟩ := h
      rw [condition, condition, isEmpty_of_kinds hkinds]
      split
      · exact .refl _
      · exact alike_inList field hkinds
    | _ => simp [Alike] at h
  | noneOf field vs =>
    cases q with
    | noneOf g ws =>
      simp only [Alike] at h
      obtain ⟨rfl, hkinds⟩ := h
      rw [condition, condition, isEmpty_of_kinds hkinds]
      split
      · exact .refl _
      · exact .cons _ (.append (alike_inList field hkinds) (.refl _))
    | _ => simp [Alike] at h
  | holdsText field text =>
    cases q with
    | holdsText g text' =>
      simp only [Alike] at h
      subst h
      exact ⟨rfl, rfl⟩
    | _ => simp [Alike] at h
  | like field pattern =>
    cases q with
    | like g pattern' =>
      simp only [Alike] at h
      subst h
      exact ⟨rfl, rfl⟩
    | _ => simp [Alike] at h
  | and ps ih =>
    cases q with
    | and qs =>
      rw [Alike, allAlike_iff] at h
      rw [condition, condition, conditions_eq, conditions_eq]
      exact alike_grouped " AND " SqlCondition.template_and (alike_operands ih h)
    | _ => simp [Alike] at h
  | or ps ih =>
    cases q with
    | or qs =>
      rw [Alike, allAlike_iff] at h
      rw [condition, condition, conditions_eq, conditions_eq]
      exact alike_grouped " OR " SqlCondition.template_or (alike_operands ih h)
    | _ => simp [Alike] at h

end Predicate

-- ---------------------------------------------------------------------------
-- Statements
-- ---------------------------------------------------------------------------

namespace Predicate

theorem alike_conjunction {ps qs : List Predicate} (h : List.Forall₂ Alike ps qs) :
    Alike (conjunction ps) (conjunction qs) := by
  cases h with
  | nil => simp [conjunction, Alike, AllAlike]
  | cons hp hrest =>
    cases hrest with
    | nil => exact hp
    | cons hp' hrest =>
      simp only [conjunction, Alike]
      exact allAlike_iff.mpr (.cons hp (.cons hp' hrest))

end Predicate

namespace Statement

variable {s t : Statement} {schema : Schema}

theorem alike_filterTemplate (h : Predicate.AllAlike s.predicates t.predicates) :
    Template.Alike schema s.filterTemplate t.filterTemplate := by
  have hall := Predicate.allAlike_iff.mp h
  unfold filterTemplate
  rw [predicate_eq, predicate_eq]
  generalize s.predicates = ps at hall ⊢
  generalize t.predicates = qs at hall ⊢
  cases hall with
  | nil => exact .refl _
  | cons hp hrest =>
    exact .cons _ (Predicate.alike_condition (Predicate.alike_conjunction (.cons hp hrest)))

/-- The text of a window does not show which one it is. -/
theorem windowText_congr (h : s.window.isSome = t.window.isSome) (bound : Nat) :
    s.windowText bound = t.windowText bound := by
  unfold windowText
  cases hs : s.window <;> cases ht : t.window <;> simp [hs, ht] at h ⊢

/-- Statements with the same table, columns and sort keys, both or neither with a window,
whose predicates have one shape, are sent as the same row query and the same count query. -/
theorem texts_eq_of_alike (s t : Statement) (schema : Schema) (htable : s.table = t.table)
    (hcolumns : s.columns = t.columns) (hsort : s.orderBy = t.orderBy)
    (hwindow : s.window.isSome = t.window.isSome)
    (hpredicates : Predicate.AllAlike s.predicates t.predicates) :
    (s.rowQuery schema).text = (t.rowQuery schema).text ∧
      (s.countQuery schema).text = (t.countQuery schema).text := by
  have halike : Template.Alike schema s.filterTemplate t.filterTemplate :=
    alike_filterTemplate hpredicates
  obtain ⟨houtline, hcasts⟩ := halike
  rw [fillings_filterTemplate, fillings_filterTemplate] at hcasts
  have hlength : s.fillings.length = t.fillings.length := by
    simpa using congrArg List.length hcasts
  have hrecord : s.recordSql = t.recordSql := by rw [recordSql, recordSql, hcolumns, htable]
  have horder : s.orderSql = t.orderSql := by rw [orderSql, orderSql, hsort]
  constructor
  · rw [rowQuery_eq, rowQuery_eq, houtline, hcasts, hlength, hrecord, horder, htable,
      windowText_congr hwindow]
  · rw [countQuery_eq, countQuery_eq, houtline, hcasts, htable]

/-- A name is looked for on one page, and on another page a text that would end the literal
and the statement. -/
theorem texts_eq_of_alike_hostile :
    let filter (name pattern : String) (age : Json) : Predicate :=
      .or [.compare "name" .eq (.string name), .and [.like "intro" pattern,
        .oneOf "age" [age, .null]]]
    let s : Statement :=
      { table := "hero", predicates := [filter "Deadpond" "%cat%" (.word 18)]
        orderBy := [⟨"id", .asc⟩], window := some ⟨1, 20⟩ }
    let t : Statement :=
      { table := "hero", predicates := [filter "'; DROP TABLE hero; --" "' OR 1=1" (.word 0)]
        orderBy := [⟨"id", .asc⟩], window := some ⟨7, 3⟩ }
    (s.table = t.table ∧ s.columns = t.columns ∧ s.orderBy = t.orderBy ∧
      s.window.isSome = t.window.isSome ∧ Predicate.AllAlike s.predicates t.predicates) ∧
    (s.rowQuery Sample.heroSchema).text = (t.rowQuery Sample.heroSchema).text ∧
      (s.countQuery Sample.heroSchema).text = (t.countQuery Sample.heroSchema).text := by
  intro filter s t
  have hpredicates : Predicate.AllAlike s.predicates t.predicates := by
    simp [s, t, filter, Predicate.AllAlike, Predicate.Alike, Json.kind, Json.word]
  exact ⟨⟨rfl, rfl, rfl, rfl, hpredicates⟩,
    texts_eq_of_alike s t Sample.heroSchema rfl rfl rfl rfl hpredicates⟩

end Statement

end RecordQuery
