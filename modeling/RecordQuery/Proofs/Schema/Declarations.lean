import Mathlib.Data.List.Induction
import RecordQuery.Proofs.Schema.Built

/-!
# Schemas as their declarations say

A schema is made by a list of declarations in which names may come again in any way. Its
fields stand in the order in which their names were declared first, each as it was declared
last, and every look-up answers by the last declaration of the name.
-/

namespace RecordQuery

-- ---------------------------------------------------------------------------
-- Declarations
-- ---------------------------------------------------------------------------

inductive Declaration
  | primaryKey (name : String) (type : ColumnType)
  | indexed (name : String) (type : ColumnType)
  | column (name : String) (type : ColumnType)
  | relation (name : String) (r : Relation)

namespace Declaration

def name : Declaration → String
  | primaryKey name _ => name
  | indexed name _ => name
  | column name _ => name
  | relation name _ => name

def isPrimaryKey : Declaration → Bool
  | primaryKey .. => true
  | _ => false

def isRelation : Declaration → Bool
  | relation .. => true
  | _ => false

/-- The field that is declared. A primary key is indexed, and a relation has the type of
documents. -/
def field : Declaration → Field
  | primaryKey name type => ⟨name, type, true, true, none⟩
  | indexed name type => ⟨name, type, true, false, none⟩
  | column name type => ⟨name, type, false, false, none⟩
  | relation name r => ⟨name, .json, false, false, some r⟩

def addTo (s : Schema) : Declaration → Schema
  | primaryKey name type => s.primaryKey name type
  | indexed name type => s.indexed name type
  | column name type => s.column name type
  | relation name r => s.relation name r

theorem name_field (d : Declaration) : d.field.name = d.name := by
  cases d <;> rfl

theorem isRelation_field (d : Declaration) : d.field.isRelation = d.isRelation := by
  cases d <;> rfl

theorem primaryKey_field (d : Declaration) : d.field.primaryKey = d.isPrimaryKey := by
  cases d <;> rfl

theorem addTo_eq (s : Schema) (d : Declaration) : d.addTo s = s.declare d.field := by
  cases d <;> rfl

/-- The last declaration of a name. -/
def last? (ds : List Declaration) (name : String) : Option Declaration :=
  (ds.filter (·.name == name)).getLast?

theorem last?_concat (ds : List Declaration) (d : Declaration) (name : String) :
    last? (ds ++ [d]) name = if name = d.name then some d else last? ds name := by
  rw [last?, last?, List.filter_append]
  by_cases h : name = d.name
  · simp [h]
  · simp [h, Ne.symm h]

end Declaration

namespace Schema

/-- The schema made by the declarations, one after the other. -/
def declared (entity table : String) (ds : List Declaration) : Schema :=
  ds.foldl Declaration.addTo (.empty entity table)

variable {s : Schema}

theorem Built.addTo (h : s.Built) (d : Declaration) : (d.addTo s).Built := by
  cases d with
  | primaryKey name type => exact .primaryKey h name type
  | indexed name type => exact .indexed h name type
  | column name type => exact .column h name type
  | relation name r => exact .relation h name r

theorem declared_concat (entity table : String) (ds : List Declaration) (d : Declaration) :
    declared entity table (ds ++ [d]) = (declared entity table ds).declare d.field := by
  rw [declared, List.foldl_append, List.foldl_cons, List.foldl_nil, Declaration.addTo_eq]
  rfl

theorem declared_built (entity table : String) (ds : List Declaration) :
    (declared entity table ds).Built := by
  induction ds using List.reverseRecOn with
  | nil => exact .empty entity table
  | append_singleton ds d ih =>
    rw [declared_concat, ← Declaration.addTo_eq]
    exact ih.addTo d

-- ---------------------------------------------------------------------------
-- One declaration
-- ---------------------------------------------------------------------------

/-- Behind a declaration its name leads to its field, and every other name where it led. -/
theorem field?_declare (h : s.Positioned) (f : Field) (name : String) :
    (s.declare f).field? name = if name = f.name then some f else s.field? name := by
  unfold Schema.declare Schema.field?
  cases hf : KeyMap.get? s.positions f.name with
  | some i =>
    obtain ⟨g, hg, hgname⟩ := h f.name i hf
    by_cases hname : name = f.name
    · obtain ⟨hlt, -⟩ := List.getElem?_eq_some_iff.mp hg
      rw [if_pos hname, hname]
      simp [hf, hlt]
    · rw [if_neg hname]
      cases hi : KeyMap.get? s.positions name with
      | none => rfl
      | some j =>
        -- the position that is written to belongs to the other name
        have hij : i ≠ j := by
          rintro rfl
          obtain ⟨g', hg', hgname'⟩ := h name i hi
          obtain rfl : g = g' := Option.some_inj.mp (hg.symm.trans hg')
          exact hname (hgname'.symm.trans hgname)
        simp [List.getElem?_set_ne hij]
  | none =>
    simp only [KeyMap.get?_put]
    by_cases hname : name = f.name
    · simp [hname]
    · rw [if_neg hname, if_neg hname]
      cases hi : KeyMap.get? s.positions name with
      | none => rfl
      | some j =>
        obtain ⟨g, hg, -⟩ := h name j hi
        obtain ⟨hlt, -⟩ := List.getElem?_eq_some_iff.mp hg
        simp [List.getElem?_append_left hlt]

theorem Built.hasField_iff (h : s.Built) {name : String} :
    s.hasField name = true ↔ name ∈ s.fieldNames := by
  unfold Schema.hasField KeyMap.has
  rw [Option.isSome_iff_exists]
  constructor
  · rintro ⟨i, hi⟩
    obtain ⟨f, hf, rfl⟩ := h.positioned name i hi
    exact List.mem_map_of_mem (List.mem_of_getElem? hf)
  · intro hname
    obtain ⟨f, hf, rfl⟩ := List.mem_map.mp hname
    obtain ⟨i, hi⟩ := List.getElem?_of_mem hf
    exact ⟨i, h.placed i f hi⟩

/-- A declaration adds its name behind the others unless it was there. -/
theorem Built.fieldNames_declare (h : s.Built) (f : Field) :
    (s.declare f).fieldNames =
      if f.name ∈ s.fieldNames then s.fieldNames else s.fieldNames ++ [f.name] := by
  simp only [← h.hasField_iff, Schema.hasField, KeyMap.has]
  unfold Schema.declare Schema.fieldNames
  cases hf : KeyMap.get? s.positions f.name with
  | none => simp
  | some i =>
    obtain ⟨g, hg, hgname⟩ := h.positioned f.name i hf
    have hsame : (s.fields.map (·.name))[i]? = some f.name := by
      rw [List.getElem?_map, hg, Option.map_some, hgname]
    obtain ⟨hlt, hget⟩ := List.getElem?_eq_some_iff.mp hsame
    simp only [List.map_set, Option.isSome_some, if_true]
    rw [← hget, List.set_getElem_self]

-- ---------------------------------------------------------------------------
-- All declarations
-- ---------------------------------------------------------------------------

section
variable (entity table : String) (ds : List Declaration)

theorem field?_declared (name : String) :
    (declared entity table ds).field? name =
      (Declaration.last? ds name).map Declaration.field := by
  induction ds using List.reverseRecOn with
  | nil => rfl
  | append_singleton ds d ih =>
    rw [declared_concat, field?_declare (declared_built entity table ds).positioned, ih,
      Declaration.last?_concat, Declaration.name_field]
    split <;> rfl

theorem eraseDups_concat (names : List String) (name : String) :
    (names ++ [name]).eraseDups =
      if name ∈ names then names.eraseDups else names.eraseDups ++ [name] := by
  rw [List.eraseDups_append]
  by_cases h : name ∈ names
  · simp [List.removeAll, h]
  · simp [List.removeAll, h, List.eraseDups_cons]

theorem fieldNames_declared :
    (declared entity table ds).fieldNames = (ds.map Declaration.name).eraseDups := by
  induction ds using List.reverseRecOn with
  | nil => rfl
  | append_singleton ds d ih =>
    rw [declared_concat, (declared_built entity table ds).fieldNames_declare, ih,
      Declaration.name_field, List.map_append, List.map_cons, List.map_nil, eraseDups_concat]
    simp only [List.mem_eraseDups]

theorem last?_of_mem {f : Field} (hf : f ∈ (declared entity table ds).fields) :
    (Declaration.last? ds f.name).map Declaration.field = some f := by
  rw [← field?_declared entity table, (declared_built entity table ds).field?_of_mem hf]

/-- The names of the fields with a property that is decided by the last declaration. -/
theorem names_filter_declared {p : Field → Bool} {q : Declaration → Bool}
    (h : ∀ d, p d.field = q d) :
    ((declared entity table ds).fields.filter p).map (·.name) =
      (declared entity table ds).fieldNames.filter fun name =>
        (Declaration.last? ds name).any q := by
  unfold Schema.fieldNames
  rw [List.filter_map]
  refine congrArg _ (List.filter_congr fun f hf => ?_)
  obtain ⟨d, hlast, rfl⟩ := Option.map_eq_some_iff.mp (last?_of_mem entity table ds hf)
  rw [Function.comp_apply, hlast, h, Option.any_some]

end

/-- The fields of a schema, their positions and the answers of the look-ups are what the
declarations say. -/
structure Represents (ds : List Declaration) (s : Schema) : Prop where
  /-- A position is in range and that of the field with the name. -/
  field_at : ∀ name i, KeyMap.get? s.positions name = some i →
    ∃ h : i < s.fields.length, s.fields[i].name = name
  position_of : ∀ i (h : i < s.fields.length),
    KeyMap.get? s.positions s.fields[i].name = some i
  nodup : s.fieldNames.Nodup
  /-- Names stand in the order in which they were declared first. -/
  fieldNames : s.fieldNames = (ds.map Declaration.name).eraseDups
  /-- Fields are as they were declared last. -/
  fields : ∀ f ∈ s.fields, (Declaration.last? ds f.name).map Declaration.field = some f
  scalarFields : s.scalarFields = s.fieldNames.filter fun name =>
    (Declaration.last? ds name).any (!·.isRelation)
  relationFields : s.relationFields = s.fieldNames.filter fun name =>
    (Declaration.last? ds name).any (·.isRelation)
  scalar_or_relation : ∀ name ∈ s.fieldNames, name ∈ s.scalarFields ↔ name ∉ s.relationFields
  primaryKeys : s.primaryKeys = s.fieldNames.filter fun name =>
    (Declaration.last? ds name).any (·.isPrimaryKey)
  primaryKeys_scalar : ∀ name ∈ s.primaryKeys, name ∈ s.scalarFields
  /-- A name that has a position leads to a field. -/
  isSome_field? : ∀ name, (s.field? name).isSome = s.hasField name
  field? : ∀ name, s.field? name = (Declaration.last? ds name).map Declaration.field
  scalarField : ∀ name, s.scalarField name =
    match Declaration.last? ds name with
    | none => .error (.fieldNotFound name)
    | some d => if d.isRelation then .error (.relationNotFilterable name) else .ok d.field

theorem Built.field_at (h : s.Built) {name : String} {i : Nat}
    (hi : KeyMap.get? s.positions name = some i) :
    ∃ hlt : i < s.fields.length, s.fields[i].name = name := by
  obtain ⟨f, hf, hname⟩ := h.positioned name i hi
  obtain ⟨hlt, rfl⟩ := List.getElem?_eq_some_iff.mp hf
  exact ⟨hlt, hname⟩

theorem Built.isSome_field? (h : s.Built) (name : String) :
    (s.field? name).isSome = s.hasField name := by
  unfold Schema.field? Schema.hasField KeyMap.has
  cases hi : KeyMap.get? s.positions name with
  | none => rfl
  | some i =>
    obtain ⟨hlt, -⟩ := h.field_at hi
    simp [hlt]

/-- However often names are declared again, names and fields stand in one-to-one
correspondence, in the order of the first declarations and as the last ones say. -/
theorem declared_represents (entity table : String) (ds : List Declaration) :
    Represents ds (declared entity table ds) := by
  have hbuilt : (declared entity table ds).Built := declared_built entity table ds
  have hscalars := names_filter_declared entity table ds (p := (!·.isRelation))
    fun d => congrArg (!·) d.isRelation_field
  have hrelations := names_filter_declared entity table ds (p := (·.isRelation))
    fun d => d.isRelation_field
  have hkeys := names_filter_declared entity table ds (p := (·.primaryKey))
    fun d => d.primaryKey_field
  refine
    { field_at := fun name i hi => hbuilt.field_at hi
      position_of := fun i hlt => hbuilt.placed i _ (List.getElem?_eq_getElem hlt)
      nodup := hbuilt.nodup_fieldNames
      fieldNames := fieldNames_declared entity table ds
      fields := fun f hf => last?_of_mem entity table ds hf
      scalarFields := hscalars
      relationFields := hrelations
      scalar_or_relation := fun name hname => ?_
      primaryKeys := hkeys
      primaryKeys_scalar := fun name hname => ?_
      isSome_field? := hbuilt.isSome_field?
      field? := field?_declared entity table ds
      scalarField := fun name => ?_ }
  · -- the last declaration of a name is of one kind
    obtain ⟨f, hf, rfl⟩ := List.mem_map.mp hname
    obtain ⟨d, hd, -⟩ := Option.map_eq_some_iff.mp (last?_of_mem entity table ds hf)
    rw [show scalarFields _ = _ from hscalars, show relationFields _ = _ from hrelations,
      List.mem_filter, List.mem_filter, hd]
    simp [hname]
  · obtain ⟨f, hf, rfl⟩ := List.mem_map.mp hname
    obtain ⟨hmem, hkey⟩ := List.mem_filter.mp hf
    have hscalar : f.isRelation = false := hbuilt.keysScalar f hmem hkey
    exact List.mem_map_of_mem (List.mem_filter.mpr ⟨hmem, by simp [hscalar]⟩)
  · rw [Schema.scalarField, field?_declared]
    cases Declaration.last? ds name with
    | none => rfl
    | some d => simp [d.isRelation_field]

/-- A name is a column, then a relation, then the key; another is a key, then a relation. -/
example :
    let r : Relation := ⟨"Team", "team", "team_id", "id", .one⟩
    let s := declared "Hero" "hero"
      [.column "id" .text, .primaryKey "team" .integer, .relation "id" r, .column "age" .integer,
        .relation "team" r, .primaryKey "id" .integer]
    s.fieldNames = ["id", "team", "age"] ∧ s.primaryKeys = ["id"] ∧
      s.relationFields = ["team"] := by
  decide

end Schema

end RecordQuery
