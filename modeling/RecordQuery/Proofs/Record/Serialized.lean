import RecordQuery.Proofs.Record.Lookup
import RecordQuery.Proofs.Store.Inserts
import RecordQuery.Sample.Heroes

/-!
# Shaped and serialized records

A record is shown whole as it is serialized, unless a relation somewhere below it leads to a
plain value that is no text: this is serialized as it is, and shown as its JSON text.
-/

namespace RecordQuery

theorem KeyMap.get?_map (f : α → β) (m : KeyMap α) (k : String) :
    KeyMap.get? (m.map fun e => (e.1, f e.2)) k = (KeyMap.get? m k).map f := by
  induction m with
  | nil => rfl
  | cons e rest ih => by_cases h : k = e.1 <;> simp [get?, h, ih]

theorem KeyMap.keys_map (f : α → β) (m : KeyMap α) :
    KeyMap.keys (m.map fun e => (e.1, f e.2)) = KeyMap.keys m := by
  simp [keys]

theorem KeyMap.get?_overlay {n : KeyMap α} (h : (keys n).Nodup) (m : KeyMap α) (k : String) :
    get? (overlay m n) k = (get? n k).or (get? m k) :=
  get?_foldl_put h m k

-- ---------------------------------------------------------------------------
-- Records below a record
-- ---------------------------------------------------------------------------

/-- The records that a relation leads to. -/
def Related.records : Related → List Record
  | .null => []
  | .one r => [r]
  | .many rs => rs
  | .plain _ => []

namespace Record

/-- The other record is this one, or relations lead to it over any number of records. -/
inductive Reaches : Record → Record → Prop
  | self (r : Record) : Reaches r r
  | step {r next last : Record} {e : String × Related} :
    e ∈ r.relations → next ∈ e.2.records → Reaches next last → Reaches r last

/-- A relation leads to the plain value, from the record itself or from one below it. -/
def ReachesPlain (r : Record) (j : Json) : Prop :=
  ∃ last, r.Reaches last ∧ ∃ name, (name, .plain j) ∈ last.relations

/-- The relations of the record, and those of every record below it, form a map. -/
def WellFormed (r : Record) : Prop := ∀ last, r.Reaches last → KeyMap.Ordered last.relations

theorem WellFormed.of_related {r next : Record} {e : String × Related} (h : r.WellFormed)
    (he : e ∈ r.relations) (hnext : next ∈ e.2.records) : next.WellFormed :=
  fun last hlast => h last (.step he hnext hlast)

theorem WellFormed.nodup_relations {r : Record} (h : r.WellFormed) :
    (KeyMap.keys r.relations).Nodup :=
  (h r (.self r)).nodup_keys

theorem WellFormed.project {r : Record} (h : r.WellFormed) (names : List String) :
    (r.project names).WellFormed := by
  intro last hlast
  cases hlast with
  | self => exact h r (.self r)
  | step he hnext hlast => exact h last (.step he hnext hlast)

theorem wellFormed_ofColumns (columns : KeyMap Json) : (ofColumns columns).WellFormed := by
  intro last hlast
  cases hlast with
  | self => exact List.Pairwise.nil
  | step he _ _ => cases he

theorem WellFormed.setRelation {r : Record} (h : r.WellFormed) {value : Related}
    (hvalue : ∀ next ∈ value.records, next.WellFormed) (name : String) :
    (r.setRelation name value).WellFormed := by
  intro last hlast
  cases hlast with
  | self => exact KeyMap.ordered_put (h r (.self r)) name value
  | step he hnext hlast =>
    rcases KeyMap.mem_put he with rfl | he
    · exact hvalue _ hnext last hlast
    · exact h last (.step he hnext hlast)

/-- What holds of a record when it holds of all records that its relations lead to holds of
every record. -/
@[elab_as_elim]
theorem induct {motive : Record → Prop}
    (row : ∀ r : Record, (∀ e ∈ r.relations, ∀ next ∈ e.2.records, motive next) → motive r)
    (r : Record) : motive r :=
  -- of a value, a list and an entry: what is to be proved holds of all records in it
  @Related.rec_1 (fun v => ∀ next ∈ v.records, motive next) motive
    (fun rs => ∀ r ∈ rs, motive r) (fun es => ∀ e ∈ es, ∀ next ∈ e.2.records, motive next)
    (fun e => ∀ next ∈ e.2.records, motive next)
    (List.forall_mem_nil _) (fun _ hr => List.forall_mem_singleton.mpr hr) (fun _ hrs => hrs)
    (fun _ => List.forall_mem_nil _) (fun columns relations h => row ⟨columns, relations⟩ h)
    (List.forall_mem_nil _) (fun _ _ hr hrest => List.forall_mem_cons.mpr ⟨hr, hrest⟩)
    (List.forall_mem_nil _) (fun _ _ he hrest => List.forall_mem_cons.mpr ⟨he, hrest⟩)
    (fun _ _ hv => hv) r

theorem reachesPlain_iff {r : Record} {j : Json} :
    r.ReachesPlain j ↔
      ∃ e ∈ r.relations, e.2 = .plain j ∨ ∃ next ∈ e.2.records, next.ReachesPlain j := by
  constructor
  · rintro ⟨last, hlast, name, hname⟩
    cases hlast with
    | self => exact ⟨_, hname, .inl rfl⟩
    | step he hnext hlast => exact ⟨_, he, .inr ⟨_, hnext, last, hlast, name, hname⟩⟩
  · rintro ⟨e, he, hplain | ⟨next, hnext, last, hlast, hname⟩⟩
    · obtain ⟨name, v⟩ := e
      subst hplain
      exact ⟨r, .self r, name, he⟩
    · exact ⟨last, .step he hnext hlast, hname⟩

theorem reachesPlain_setRelation_ofColumns (columns : KeyMap Json) (name : String)
    (value : Related) (j : Json) :
    ((ofColumns columns).setRelation name value).ReachesPlain j ↔
      value = .plain j ∨ ∃ next ∈ value.records, next.ReachesPlain j := by
  rw [reachesPlain_iff]
  simp [setRelation, ofColumns, KeyMap.put]

end Record

-- ---------------------------------------------------------------------------
-- Records of a store
-- ---------------------------------------------------------------------------

theorem Cardinality.mem_of_mem_related {c : Cardinality} {rows : List Record} {r : Record}
    (h : r ∈ (c.related rows).records) : r ∈ rows := by
  match c, rows with
  | .one, [] => cases h
  | .one, row :: _ =>
    obtain rfl := List.mem_singleton.mp h
    exact List.mem_cons_self
  | .many, _ => exact h

theorem mem_of_mem_joined {r : Relation} {candidates : List Record} {record row : Record}
    (h : row ∈ joined r candidates record) : row ∈ candidates := by
  unfold joined at h
  split at h
  · exact (List.mem_filter.mp h).1
  · cases h

namespace Store

variable {s : Store} (hs : s.Bare)
include hs

theorem wellFormed_of_bare {table : String} {row : Record} (h : row ∈ s.rows table) :
    row.WellFormed := by
  obtain ⟨members, rfl⟩ := hs table row h
  exact Record.wellFormed_ofColumns members

theorem wellFormed_loaded {row : Record} (h : row.WellFormed) (schema : Schema)
    (names : List String) : (s.loaded schema names row).WellFormed := by
  induction names generalizing row with
  | nil => exact h
  | cons name rest ih =>
    cases hr : schema.relation? name with
    | none =>
      rw [loaded_cons_none s schema hr]
      exact ih h
    | some r =>
      rw [loaded_cons_some s schema hr]
      refine ih (h.setRelation (fun next hnext => ?_) name)
      exact wellFormed_of_bare hs (mem_of_mem_joined (Cardinality.mem_of_mem_related hnext))

/-- Whatever a store of JSON rows answers is well-formed. -/
theorem wellFormed_answer (schema : Schema) (stmt : Statement) :
    ∀ r ∈ s.answer schema stmt, r.WellFormed := by
  rw [answer_eq_map]
  refine List.forall_mem_map.mpr fun row hrow => wellFormed_loaded hs ?_ schema _
  have hrow := wellFormed_of_bare hs (mem_rows_of_shown hrow)
  split
  · exact hrow
  · exact hrow.project _

end Store

-- ---------------------------------------------------------------------------
-- Shown and serialized side by side
-- ---------------------------------------------------------------------------

theorem shapeRelations_eq (relations : List (String × Related)) :
    shapeRelations relations = relations.map fun e => (e.1, e.2.shape) := by
  induction relations with
  | nil => rfl
  | cons e rest ih => rw [shapeRelations, ih, List.map_cons]

theorem relationsToJson_eq (relations : List (String × Related)) :
    relationsToJson relations = relations.map fun e => (e.1, e.2.toJson) := by
  induction relations with
  | nil => rfl
  | cons e rest ih => rw [relationsToJson, ih, List.map_cons]

theorem recordsToJson_eq (rs : List Record) : recordsToJson rs = rs.map Record.toJson := by
  induction rs with
  | nil => rfl
  | cons r rest ih => rw [recordsToJson, ih, List.map_cons]

namespace Record

/-- The members of the object that a record becomes when its relations become JSON values. -/
def overlaid (r : Record) (f : Related → Json) : KeyMap Json :=
  KeyMap.overlay r.columns (r.relations.map fun e => (e.1, f e.2))

theorem dump_eq (r : Record) : r.dump = .object (r.overlaid Related.shape) := by
  obtain ⟨columns, relations⟩ := r
  rw [Record.dump, shapeRelations_eq]
  rfl

theorem toJson_eq (r : Record) : r.toJson = .object (r.overlaid Related.toJson) := by
  obtain ⟨columns, relations⟩ := r
  rw [Record.toJson, relationsToJson_eq]
  rfl

theorem toJson_ofColumns (columns : KeyMap Json) : (ofColumns columns).toJson = .object columns :=
  toJson_eq _

section
variable {r : Record} (h : (KeyMap.keys r.relations).Nodup)
include h

/-- A relation takes the place of a column of its name. -/
theorem get?_overlaid (f : Related → Json) (k : String) :
    (r.overlaid f).get? k = ((r.relation? k).map f).or (r.get? k) := by
  rw [overlaid, KeyMap.get?_overlay (by rwa [KeyMap.keys_map]), KeyMap.get?_map]
  rfl

theorem overlaid_eq_iff (f g : Related → Json) :
    r.overlaid f = r.overlaid g ↔ ∀ e ∈ r.relations, f e.2 = g e.2 := by
  constructor
  · intro hsame e he
    have hrelation : r.relation? e.1 = some e.2 := KeyMap.get?_of_mem h he
    have hmember := congrArg (KeyMap.get? · e.1) hsame
    simpa [get?_overlaid h, hrelation] using hmember
  · intro hall
    have hmap : (r.relations.map fun e => (e.1, f e.2)) = r.relations.map fun e => (e.1, g e.2) :=
      List.map_congr_left fun e he => by rw [hall e he]
    rw [overlaid, hmap, overlaid]

end

end Record

theorem Related.shape_eq_toJson_iff (v : Related) :
    v.shape = v.toJson ↔
      (∀ r ∈ v.records, r.dump = r.toJson) ∧ ∀ j, v = .plain j → ∃ s, j = .string s := by
  cases v with
  | null => simp [shape, toJson, records]
  | one r => simp [shape, toJson, records]
  | many rs => simp [shape, toJson, records, dumpAll_eq, recordsToJson_eq, List.map_inj_left]
  | plain j => cases j <;> simp [shape, toJson, records]

namespace Record

/-- A record is shown as it is serialized just when only texts stand where a relation below
it leads to a plain value. -/
theorem dump_eq_toJson_iff {r : Record} (h : r.WellFormed) :
    r.dump = r.toJson ↔ ∀ j, r.ReachesPlain j → ∃ s, j = .string s := by
  induction r using induct with
  | row r ih =>
    have hbelow (e) (he : e ∈ r.relations) (next) (hnext : next ∈ e.2.records) :=
      ih e he next hnext (h.of_related he hnext)
    rw [dump_eq, toJson_eq, Json.object.injEq, overlaid_eq_iff h.nodup_relations]
    constructor
    · intro hall j hj
      obtain ⟨e, he, hplain | ⟨next, hnext, hj⟩⟩ := reachesPlain_iff.mp hj
      · exact ((Related.shape_eq_toJson_iff e.2).mp (hall e he)).2 j hplain
      · have hsame := ((Related.shape_eq_toJson_iff e.2).mp (hall e he)).1 next hnext
        exact (hbelow e he next hnext).mp hsame j hj
    · intro hall e he
      refine (Related.shape_eq_toJson_iff e.2).mpr ⟨fun next hnext => ?_, fun j hplain => ?_⟩
      · exact (hbelow e he next hnext).mpr fun j hj =>
          hall j (reachesPlain_iff.mpr ⟨e, he, .inr ⟨next, hnext, hj⟩⟩)
      · exact hall j (reachesPlain_iff.mpr ⟨e, he, .inl hplain⟩)

end Record

-- ---------------------------------------------------------------------------
-- Related values from JSON
-- ---------------------------------------------------------------------------

/-- Null, an object, a list of objects or a text: what a related value is made of. -/
def Json.isRelated : Json → Bool
  | .null | .object _ | .string _ => true
  | .array items => items.all Json.isObject
  | _ => false

/-- A list of objects is read as records that become these objects again; no other list is
read. -/
theorem objectRows?_cases (items : List Json) :
    (∃ rows, objectRows? items = some rows ∧ items.all Json.isObject = true ∧
        rows.map Record.dump = items ∧ rows.map Record.toJson = items) ∨
      (objectRows? items = none ∧ items.all Json.isObject = false) := by
  induction items with
  | nil => exact .inl ⟨[], rfl, rfl, rfl, rfl⟩
  | cons item rest ih =>
    cases item with
    | object members =>
      rcases ih with ⟨rows, hrows, hall, hdump, hjson⟩ | ⟨hnone, hall⟩
      · refine .inl ⟨Record.ofColumns members :: rows, ?_, ?_, ?_, ?_⟩
        · rw [objectRows?, hrows]
          rfl
        · simpa [Json.isObject] using hall
        · rw [List.map_cons, Record.dump_ofColumns, hdump]
        · rw [List.map_cons, Record.toJson_ofColumns, hjson]
      · refine .inr ⟨?_, ?_⟩
        · rw [objectRows?, hnone]
          rfl
        · simpa [Json.isObject] using hall
    | _ => exact .inr ⟨rfl, rfl⟩

namespace Related

theorem toJson_ofJson (j : Json) : (ofJson j).toJson = j := by
  cases j with
  | array items =>
    rcases objectRows?_cases items with ⟨rows, hrows, -, -, hjson⟩ | ⟨hnone, -⟩
    · rw [ofJson, hrows]
      simp only [toJson, recordsToJson_eq, hjson]
    · rw [ofJson, hnone]
      simp only [toJson]
  | object members => simp only [ofJson, toJson, Record.toJson_ofColumns]
  | _ => simp only [ofJson, toJson]

theorem shape_ofJson (j : Json) :
    (ofJson j).shape = if j.isRelated then j else .string j.text := by
  cases j with
  | array items =>
    rcases objectRows?_cases items with ⟨rows, hrows, hall, hdump, -⟩ | ⟨hnone, hall⟩
    · rw [ofJson, hrows]
      simp [shape, dumpAll_eq, hdump, Json.isRelated, hall]
    · rw [ofJson, hnone]
      simp [shape, Json.isRelated, hall]
  | object members => simp [ofJson, shape, Record.dump_ofColumns, Json.isRelated]
  | _ => simp [ofJson, shape, Json.isRelated]

end Related

-- ---------------------------------------------------------------------------
-- Agreement
-- ---------------------------------------------------------------------------

namespace Record

/-- Shown whole, a record is the object it serializes into, unless a relation at some depth
leads to a plain value that is no text. A relation takes the place of a column of its name in
both. Every JSON value serializes into itself when read as a related value, and is shown as
itself or as its text. -/
theorem shape_agrees_with_toJson {r : Record} (h : r.WellFormed) (schema : Schema) :
    (r.shape schema .empty = r.toJson ↔ ∀ j, r.ReachesPlain j → ∃ s, j = .string s) ∧
      (∃ shown serialized : KeyMap Json,
        r.shape schema .empty = .object shown ∧ r.toJson = .object serialized ∧
          ∀ k, shown.get? k = ((r.relation? k).map Related.shape).or (r.get? k) ∧
            serialized.get? k = ((r.relation? k).map Related.toJson).or (r.get? k)) ∧
      ∀ j, (Related.ofJson j).toJson = j ∧
        (Related.ofJson j).shape = if j.isRelated then j else .string j.text := by
  have hshape : r.shape schema .empty = r.dump := rfl
  rw [hshape]
  refine ⟨dump_eq_toJson_iff h, ?_, fun j => ⟨Related.toJson_ofJson j, Related.shape_ofJson j⟩⟩
  exact ⟨_, _, dump_eq r, toJson_eq r, fun k =>
    ⟨get?_overlaid h.nodup_relations _ k, get?_overlaid h.nodup_relations _ k⟩⟩

/-- A team in place of a column of that name: the sponsor in it differs when it is a number
and is the same when it is a text. -/
theorem shape_agrees_with_toJson_sponsor :
    let sponsored (j : Json) : Record :=
      (ofColumns [("id", .int 1), ("team", .int 10)]).setRelation "team"
        (.one ((Sample.teamRow 10 "Z-Force" "Sister").setRelation "sponsor" (.plain j)))
    (∀ j, (sponsored j).WellFormed) ∧
      (sponsored (.int 42)).shape Sample.heroSchema .empty ≠ (sponsored (.int 42)).toJson ∧
      (sponsored (.string "raw")).shape Sample.heroSchema .empty =
        (sponsored (.string "raw")).toJson := by
  intro sponsored
  have hform (j : Json) : (sponsored j).WellFormed := by
    refine (wellFormed_ofColumns _).setRelation (List.forall_mem_singleton.mpr ?_) _
    exact (wellFormed_ofColumns _).setRelation (List.forall_mem_nil _) _
  have hplain (j k : Json) : (sponsored j).ReachesPlain k ↔ k = j := by
    simp [sponsored, Sample.teamRow, reachesPlain_setRelation_ofColumns, Related.records,
      eq_comm]
  refine ⟨hform, fun hsame => ?_, ?_⟩
  · obtain ⟨s, hs⟩ := (shape_agrees_with_toJson (hform (.int 42)) Sample.heroSchema).1.mp hsame
      (.int 42) ((hplain _ _).mpr rfl)
    cases hs
  · exact (shape_agrees_with_toJson (hform (.string "raw")) Sample.heroSchema).1.mpr
      fun j hj => ⟨"raw", (hplain _ _).mp hj⟩

end Record

end RecordQuery
