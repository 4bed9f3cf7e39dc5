import RecordQuery.Sample.Heroes

/-!
# Schemas made by declarations

A schema starts empty and grows by one declaration at a time. However often names are
declared again, names and fields stand in one-to-one correspondence: the position of a name
is that of the field of this name, and every field is where its name leads. No declaration
makes a relation a primary key.
-/

namespace RecordQuery.Schema

inductive Built : Schema → Prop
  | empty (entity table : String) : Built (Schema.empty entity table)
  | primaryKey {s} (h : Built s) (name : String) (type : ColumnType) :
    Built (s.primaryKey name type)
  | indexed {s} (h : Built s) (name : String) (type : ColumnType) : Built (s.indexed name type)
  | column {s} (h : Built s) (name : String) (type : ColumnType) : Built (s.column name type)
  | relation {s} (h : Built s) (name : String) (r : Relation) : Built (s.relation name r)

/-- Every position is that of a field with the name it is known by. -/
def Positioned (s : Schema) : Prop :=
  ∀ name i, KeyMap.get? s.positions name = some i → ∃ f, s.fields[i]? = some f ∧ f.name = name

variable {s : Schema}

theorem positioned_empty (entity table : String) : (Schema.empty entity table).Positioned :=
  nofun

theorem Positioned.declare (h : s.Positioned) (f : Field) : (s.declare f).Positioned := by
  intro name i hi
  unfold Schema.declare at hi ⊢
  cases hf : KeyMap.get? s.positions f.name with
  | some j =>
    simp only [hf] at hi ⊢
    obtain ⟨old, hold, hname⟩ := h name i hi
    by_cases hij : j = i
    · -- the field that is replaced had the name of the new one
      subst hij
      obtain ⟨g, hg, hgname⟩ := h f.name j hf
      obtain rfl : old = g := Option.some_inj.mp (hold.symm.trans hg)
      obtain ⟨hlt, -⟩ := List.getElem?_eq_some_iff.mp hg
      exact ⟨f, List.getElem?_set_self hlt, hgname.symm.trans hname⟩
    · exact ⟨old, (List.getElem?_set_ne hij).trans hold, hname⟩
  | none =>
    simp only [hf, KeyMap.get?_put] at hi ⊢
    split at hi
    · next hname =>
      obtain rfl : s.fields.length = i := Option.some_inj.mp hi
      exact ⟨f, List.getElem?_concat_length, hname.symm⟩
    · obtain ⟨old, hold, hname⟩ := h name i hi
      obtain ⟨hlt, -⟩ := List.getElem?_eq_some_iff.mp hold
      exact ⟨old, (List.getElem?_append_left hlt).trans hold, hname⟩

/-- Every field is at the position of its name. -/
def Placed (s : Schema) : Prop :=
  ∀ i f, s.fields[i]? = some f → KeyMap.get? s.positions f.name = some i

theorem placed_empty (entity table : String) : (Schema.empty entity table).Placed :=
  nofun

theorem Placed.declare (h : s.Placed) (f : Field) : (s.declare f).Placed := by
  intro i g hg
  unfold Schema.declare at hg ⊢
  cases hf : KeyMap.get? s.positions f.name with
  | some j =>
    simp only [hf] at hg ⊢
    by_cases hij : j = i
    · subst hij
      obtain ⟨hlt, hget⟩ := List.getElem?_eq_some_iff.mp hg
      rw [List.getElem_set_self] at hget
      exact hget ▸ hf
    · rw [List.getElem?_set_ne hij] at hg
      exact h i g hg
  | none =>
    simp only [hf, KeyMap.get?_put] at hg ⊢
    rw [List.getElem?_append] at hg
    split at hg
    · -- a field that was there before has another name than the new one
      have hold := h i g hg
      have hname : g.name ≠ f.name := by
        intro heq
        rw [heq, hf] at hold
        cases hold
      rw [if_neg hname, hold]
    · next hge =>
      obtain ⟨hlt, rfl⟩ := List.getElem?_eq_some_iff.mp hg
      have hi : i = s.fields.length := by
        rw [List.length_singleton] at hlt
        omega
      rw [List.getElem_singleton, if_pos rfl, hi]

/-- No relation is a primary key. -/
def KeysScalar (s : Schema) : Prop :=
  ∀ f ∈ s.fields, f.primaryKey = true → f.isRelation = false

theorem KeysScalar.declare (h : s.KeysScalar) {f : Field}
    (hf : f.primaryKey = true → f.isRelation = false) : (s.declare f).KeysScalar := by
  intro g hg
  unfold Schema.declare at hg
  split at hg
  · rcases List.mem_or_eq_of_mem_set hg with hg | rfl
    · exact h g hg
    · exact hf
  · rcases List.mem_append.mp hg with hg | hg
    · exact h g hg
    · exact List.mem_singleton.mp hg ▸ hf

/-- What the empty schema has and any declaration keeps. -/
theorem Built.of_declare {motive : Schema → Prop} (h : s.Built)
    (empty : ∀ entity table, motive (.empty entity table))
    (declare : ∀ s f, motive s → (f.primaryKey = true → f.isRelation = false) →
      motive (s.declare f)) : motive s := by
  induction h with
  | empty entity table => exact empty entity table
  | primaryKey _ name type ih => exact declare _ _ ih fun _ => rfl
  | indexed _ name type ih => exact declare _ _ ih fun _ => rfl
  | column _ name type ih => exact declare _ _ ih fun _ => rfl
  | relation _ name r ih => exact declare _ _ ih nofun

theorem Built.positioned (h : s.Built) : s.Positioned :=
  h.of_declare positioned_empty fun _ f ih _ => ih.declare f

theorem Built.placed (h : s.Built) : s.Placed :=
  h.of_declare placed_empty fun _ f ih _ => ih.declare f

theorem Built.keysScalar (h : s.Built) : s.KeysScalar :=
  h.of_declare (fun _ _ => nofun) fun _ _ ih hf => ih.declare hf

/-- A field is looked up by its own name. -/
theorem Built.name_of_field? (h : s.Built) {name : String} {f : Field}
    (hf : s.field? name = some f) : f.name = name := by
  obtain ⟨i, hi, hget⟩ := Option.bind_eq_some_iff.mp hf
  obtain ⟨g, hg, hname⟩ := h.positioned name i hi
  obtain rfl : f = g := Option.some_inj.mp (hget.symm.trans hg)
  exact hname

/-- A name leads to every field. -/
theorem Built.field?_of_mem (h : s.Built) {f : Field} (hf : f ∈ s.fields) :
    s.field? f.name = some f := by
  obtain ⟨i, hi⟩ := List.mem_iff_getElem?.mp hf
  exact Option.bind_eq_some_iff.mpr ⟨i, h.placed i f hi, hi⟩

/-- Different fields have different names. -/
theorem Built.nodup_fieldNames (h : s.Built) : s.fieldNames.Nodup := by
  refine List.pairwise_map.mpr (List.pairwise_iff_getElem.mpr fun i j hi hj hij heq => ?_)
  -- one name has one position
  have hleft := h.placed i _ (List.getElem?_eq_getElem hi)
  have hright := h.placed j _ (List.getElem?_eq_getElem hj)
  rw [heq, hright, Option.some.injEq] at hleft
  exact absurd hleft (Nat.ne_of_gt hij)

theorem Built.nodup_primaryKeys (h : s.Built) : s.primaryKeys.Nodup :=
  (List.filter_sublist.map _).nodup h.nodup_fieldNames

/-- A primary key is a column that values can be compared with. -/
theorem Built.primaryKey_scalar (h : s.Built) {name : String} (hname : name ∈ s.primaryKeys) :
    ∃ f, s.field? name = some f ∧ f.name = name ∧ f.isRelation = false := by
  obtain ⟨f, hf, rfl⟩ := List.mem_map.mp hname
  obtain ⟨hmem, hkey⟩ := List.mem_filter.mp hf
  exact ⟨f, h.field?_of_mem hmem, rfl, h.keysScalar f hmem hkey⟩

theorem hasField_of_field? {name : String} {f : Field} (h : s.field? name = some f) :
    s.hasField name = true := by
  obtain ⟨i, hi, -⟩ := Option.bind_eq_some_iff.mp h
  exact Option.isSome_iff_exists.mpr ⟨i, hi⟩

theorem scalarField_ok {schema : Schema} {name : String} {f : Field} :
    schema.scalarField name = .ok f ↔ schema.field? name = some f ∧ f.isRelation = false := by
  unfold Schema.scalarField
  grind

end RecordQuery.Schema

namespace RecordQuery.Sample

theorem heroSchema_built : heroSchema.Built :=
  .relation (.column (.column (.column (.column (.column (.column (.column (.column (.column
    (.indexed (.column (.primaryKey (.empty _ _) _ _) _ _) _ _) _ _) _ _) _ _) _ _) _ _) _ _)
    _ _) _ _) _ _) _ _

theorem membershipSchema_built : membershipSchema.Built :=
  .column (.primaryKey (.primaryKey (.empty _ _) _ _) _ _) _ _

end RecordQuery.Sample
