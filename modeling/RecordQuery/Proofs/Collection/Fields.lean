import Mathlib.Data.List.Induction
import Mathlib.Data.List.Nodup
import RecordQuery.Collection

/-!
# Requested fields

Which of the requested names are fields, by kind, and which columns are read for them: the
primary keys, the requested columns, and those that the requested relations are joined by.
-/

namespace RecordQuery

namespace Schema

variable {s : Schema} {name : String}

/-- The name is of a field that is no relation. -/
def IsScalar (s : Schema) (name : String) : Prop :=
  ∃ f, s.field? name = some f ∧ f.isRelation = false

instance : DecidablePred s.IsScalar := fun name =>
  decidable_of_iff ((s.field? name).any fun f => !f.isRelation) <| by
    simp [IsScalar, Option.any_eq_true]

theorem relation?_of_field? {f : Field} (h : s.field? name = some f) :
    s.relation? name = f.relation := by
  simp [relation?, h]

theorem isSome_field? : (s.field? name).isSome ↔ s.IsScalar name ∨ (s.relation? name).isSome := by
  cases h : s.field? name with
  | none => simp [IsScalar, relation?, h]
  | some f =>
    rw [relation?_of_field? h]
    cases hr : f.relation <;> simp [IsScalar, h, Field.isRelation, hr]

end Schema

namespace OutputFields

theorem mem_addOnce {names : List String} {name k : String} :
    k ∈ addOnce names name ↔ k ∈ names ∨ k = name := by
  unfold addOnce
  split
  · next h =>
    rw [List.contains_iff_mem] at h
    exact ⟨.inl, fun hk => hk.elim id fun he => he ▸ h⟩
  · simp

theorem addOnce_of_mem {names : List String} {name : String} (h : name ∈ names) :
    addOnce names name = names :=
  if_pos (List.contains_iff_mem.mpr h)

theorem mem_foldl_addOnce {names acc : List String} {k : String} :
    k ∈ names.foldl addOnce acc ↔ k ∈ acc ∨ k ∈ names := by
  induction names generalizing acc with
  | nil => simp
  | cons name rest ih => rw [List.foldl_cons, ih, mem_addOnce, List.mem_cons, or_assoc]

theorem nodup_foldl_addOnce {names acc : List String} (h : acc.Nodup) :
    (names.foldl addOnce acc).Nodup := by
  induction names generalizing acc with
  | nil => exact h
  | cons name rest ih =>
    refine ih ?_
    unfold addOnce
    split
    · exact h
    · next hname =>
      rw [List.contains_iff_mem] at hname
      exact List.nodup_append.mpr ⟨h, List.nodup_singleton _, by grind⟩

/-- Names that are added once each stand where they occur first. -/
theorem foldl_addOnce (names acc : List String) :
    names.foldl addOnce acc = acc ++ (names.removeAll acc).eraseDups := by
  induction names generalizing acc with
  | nil => simp [List.removeAll]
  | cons name rest ih =>
    rw [List.foldl_cons, ih, addOnce]
    by_cases hname : name ∈ acc
    · simp [List.removeAll, hname]
    · simp only [List.removeAll, List.contains_eq_mem, hname, decide_false, Bool.false_eq_true,
        if_false, Bool.not_false, List.filter_cons_of_pos,
        List.eraseDups_cons, List.append_assoc, List.singleton_append, List.filter_filter]
      congr 3
      grind

theorem foldl_addOnce_nil (names : List String) :
    names.foldl addOnce [] = names.eraseDups := by
  simp [foldl_addOnce, List.removeAll]

/-- Repetitions among names do not matter to what is read off the names. -/
theorem foldl_addOnce_filterMap (read : String → Option String) (names acc : List String) :
    ((names.foldl addOnce []).filterMap read).foldl addOnce acc =
      (names.filterMap read).foldl addOnce acc := by
  induction names using List.reverseRecOn with
  | nil => rfl
  | append_singleton names name ih =>
    rw [List.foldl_append, List.foldl_cons, List.foldl_nil, List.filterMap_append,
      List.foldl_append, ← ih, addOnce]
    split
    · next hname =>
      -- what a repeated name reads has been added before
      rw [List.contains_iff_mem] at hname
      cases hread : read name with
      | none => simp [hread]
      | some k =>
        have hk : k ∈ ((names.foldl addOnce []).filterMap read).foldl addOnce acc :=
          mem_foldl_addOnce.mpr (.inr (List.mem_filterMap.mpr ⟨name, hname, hread⟩))
        simp only [List.filterMap_cons, hread, List.filterMap_nil, List.foldl_cons, List.foldl_nil]
        rw [addOnce_of_mem hk]
    · rw [List.filterMap_append, List.foldl_append]

theorem foldl_addOnce_foldl (names acc : List String) :
    (names.foldl addOnce []).foldl addOnce acc = names.foldl addOnce acc := by
  simpa using foldl_addOnce_filterMap some names acc

section
variable {schema : Schema} {k : String}

theorem mem_columns_add (f : OutputFields) (name : String) :
    k ∈ (f.add schema name).columns ↔ k ∈ f.columns ∨ k = name ∧ schema.IsScalar k := by
  unfold add
  cases h : schema.field? name with
  | none => grind [Schema.IsScalar]
  | some field => cases hr : field.isRelation <;> grind [Schema.IsScalar, mem_addOnce]

theorem mem_relations_add (f : OutputFields) (name : String) :
    k ∈ (f.add schema name).relations ↔
      k ∈ f.relations ∨ k = name ∧ (schema.relation? k).isSome := by
  unfold add
  cases h : schema.field? name with
  | none => grind [Schema.relation?]
  | some field =>
    have hrelation := Schema.relation?_of_field? h
    cases hr : field.isRelation <;> grind [Field.isRelation, mem_addOnce]

/-- What adding one name may put into a part of the fields, adding all of them puts there. -/
theorem mem_foldl_add {part : OutputFields → List String} {p : Prop}
    (hadd : ∀ f name, k ∈ part (add schema f name) ↔ k ∈ part f ∨ k = name ∧ p)
    (names : List String) (f : OutputFields) :
    k ∈ part (names.foldl (add schema) f) ↔ k ∈ part f ∨ k ∈ names ∧ p := by
  induction names generalizing f with
  | nil => simp
  | cons name rest ih =>
    rw [List.foldl_cons, ih, hadd, List.mem_cons, or_and_right, or_assoc]

/-- The requested columns are the names of fields that are no relations. -/
theorem mem_columns_ofSelection {sel : Selection} :
    k ∈ (ofSelection schema sel).columns ↔ k ∈ sel.names ∧ schema.IsScalar k :=
  (mem_foldl_add mem_columns_add sel.names empty).trans (by simp [empty])

theorem mem_relations_ofSelection {sel : Selection} :
    k ∈ (ofSelection schema sel).relations ↔
      k ∈ sel.names ∧ (schema.relation? k).isSome :=
  (mem_foldl_add mem_relations_add sel.names empty).trans (by simp [empty])

theorem columns_foldl_add (names : List String) (f : OutputFields) :
    (names.foldl (add schema) f).columns =
      (names.filter (schema.IsScalar ·)).foldl addOnce f.columns := by
  induction names generalizing f with
  | nil => rfl
  | cons name rest ih =>
    rw [List.foldl_cons, ih, List.filter_cons, add]
    cases h : schema.field? name with
    | none => simp [Schema.IsScalar, h]
    | some field => cases hr : field.isRelation <;> simp [Schema.IsScalar, h, hr]

theorem relations_foldl_add (names : List String) (f : OutputFields) :
    (names.foldl (add schema) f).relations =
      (names.filter fun name => (schema.relation? name).isSome).foldl addOnce f.relations := by
  induction names generalizing f with
  | nil => rfl
  | cons name rest ih =>
    rw [List.foldl_cons, ih, List.filter_cons, add]
    cases h : schema.field? name with
    | none => simp [Schema.relation?, h]
    | some field =>
      rw [Schema.relation?_of_field? h]
      cases hr : field.relation <;> simp [Field.isRelation, hr]

/-- A selection is of all columns when none of its names is a field. -/
theorem isEmpty_ofSelection {sel : Selection} :
    (ofSelection schema sel).isEmpty = false ↔
      ∃ name ∈ sel.names, (schema.field? name).isSome := by
  rw [isEmpty, Bool.and_eq_false_iff, List.isEmpty_eq_false_iff_exists_mem,
    List.isEmpty_eq_false_iff_exists_mem]
  simp only [mem_columns_ofSelection, mem_relations_ofSelection, Schema.isSome_field?, and_or_left,
    exists_or]

end

end OutputFields

namespace Collection

theorem mem_projection {c : Collection} {fields : OutputFields}
    (h : fields.isEmpty = false) {k : String} :
    k ∈ c.projection fields ↔
      k ∈ c.schema.primaryKeys ∨ k ∈ fields.columns ∨
        ∃ name ∈ fields.relations, ∃ r, c.schema.relation? name = some r ∧ r.localKey = k := by
  simp [projection, h, OutputFields.mem_foldl_addOnce, or_assoc]

theorem nodup_projection (c : Collection) (fields : OutputFields) :
    (c.projection fields).Nodup := by
  unfold projection
  split
  · exact List.nodup_nil
  · exact OutputFields.nodup_foldl_addOnce List.nodup_nil

section
variable {c : Collection} {sel : Selection}

/-- The columns read for a selection, each where it occurs first. -/
theorem projection_ofSelection (h : (OutputFields.ofSelection c.schema sel).isEmpty = false) :
    c.projection (.ofSelection c.schema sel) =
      (c.schema.primaryKeys ++ sel.names.filter (c.schema.IsScalar ·) ++
        (sel.names.filterMap c.schema.relation?).map (·.localKey)).eraseDups := by
  have hrelations : (sel.names.filter fun name => (c.schema.relation? name).isSome).filterMap
      (fun name => (c.schema.relation? name).map (·.localKey)) =
      (sel.names.filterMap c.schema.relation?).map (·.localKey) := by
    rw [List.filterMap_filter, List.map_filterMap]
    congr 1
    funext name
    cases c.schema.relation? name <;> rfl
  rw [projection, if_neg (by simp [h]), OutputFields.ofSelection, OutputFields.columns_foldl_add,
    OutputFields.relations_foldl_add, ← OutputFields.foldl_addOnce_nil]
  simp only [OutputFields.empty, List.foldl_append, OutputFields.foldl_addOnce_foldl,
    OutputFields.foldl_addOnce_filterMap, hrelations]

theorem projection_eq_nil :
    c.projection (.ofSelection c.schema sel) = [] ↔
      ∀ name ∈ sel.names, c.schema.field? name = none := by
  constructor
  · intro hnil name hname
    by_contra hfield
    have hsome : (c.schema.field? name).isSome := Option.isSome_iff_ne_none.mpr hfield
    have hfields := OutputFields.isEmpty_ofSelection.mpr ⟨name, hname, hsome⟩
    -- a column is read for a field of either kind
    have hread : ∃ k, k ∈ c.projection (.ofSelection c.schema sel) := by
      simp only [mem_projection hfields]
      rcases Schema.isSome_field?.mp hsome with hscalar | hrelation
      · exact ⟨name, .inr (.inl (OutputFields.mem_columns_ofSelection.mpr ⟨hname, hscalar⟩))⟩
      · obtain ⟨r, hr⟩ := Option.isSome_iff_exists.mp hrelation
        exact ⟨r.localKey, .inr (.inr ⟨name,
          OutputFields.mem_relations_ofSelection.mpr ⟨hname, hrelation⟩, r, hr, rfl⟩)⟩
    simp [hnil] at hread
  · intro hnone
    refine if_pos ?_
    rw [← Bool.not_eq_false, OutputFields.isEmpty_ofSelection]
    rintro ⟨name, hname, hsome⟩
    simp [hnone name hname] at hsome

end

end Collection

end RecordQuery
