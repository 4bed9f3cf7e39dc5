import RecordQuery.Predicate.Evaluation
import RecordQuery.Proofs.Collection.Fields
import RecordQuery.Proofs.Record.Lookup

/-!
# Joins

Loading a relation is the join of each record with the candidates, one by one: the groups that
the candidates are put in lose, repeat and reorder none of them. It does not matter whether all
candidates are given or only those that some record asks for by its key.
-/

namespace RecordQuery

-- ---------------------------------------------------------------------------
-- Keys
-- ---------------------------------------------------------------------------

/-- The text of a value as a key: a string itself, or the JSON text of another value. -/
def Json.keyText : Json → String
  | .string s => s
  | j => j.text

theorem joinKey?_get? {record : Record} {field key : String} :
    joinKey? (record.get? field) = some key ↔
      (column record.columns field).isNull = false ∧
        (column record.columns field).keyText = key := by
  unfold Record.get? column
  cases KeyMap.get? record.columns field with
  | none => simp [joinKey?, Json.isNull]
  | some v => cases v <;> simp [joinKey?, Json.isNull, Json.keyText]

namespace Relation

variable (r : Relation)

/-- The two columns that the relation names have values, and the texts of the two are equal. -/
structure Joins (record candidate : Record) : Prop where
  localValue : (column record.columns r.localKey).isNull = false
  remoteValue : (column candidate.columns r.remoteKey).isNull = false
  sameText : (column record.columns r.localKey).keyText =
    (column candidate.columns r.remoteKey).keyText

theorem joins_iff {record candidate : Record} : r.Joins record candidate ↔
    ∃ key, joinKey? (record.get? r.localKey) = some key ∧
      joinKey? (candidate.get? r.remoteKey) = some key := by
  simp only [joinKey?_get?]
  constructor
  · rintro ⟨hlocal, hremote, htext⟩
    exact ⟨_, ⟨hlocal, htext⟩, hremote, rfl⟩
  · rintro ⟨key, ⟨hlocal, htext⟩, hremote, rfl⟩
    exact ⟨hlocal, hremote, htext⟩

instance (record candidate : Record) : Decidable (r.Joins record candidate) :=
  decidable_of_iff
    ((column record.columns r.localKey).isNull = false ∧
      (column candidate.columns r.remoteKey).isNull = false ∧
      (column record.columns r.localKey).keyText =
        (column candidate.columns r.remoteKey).keyText)
    ⟨fun ⟨hlocal, hremote, htext⟩ => ⟨hlocal, hremote, htext⟩,
      fun ⟨hlocal, hremote, htext⟩ => ⟨hlocal, hremote, htext⟩⟩

end Relation

theorem joined_eq (r : Relation) (candidates : List Record) (record : Record) :
    joined r candidates record = candidates.filter (r.Joins record ·) := by
  unfold joined
  cases hkey : joinKey? (record.get? r.localKey) with
  | none => simp [r.joins_iff, hkey]
  | some key =>
    refine List.filter_congr fun candidate _ => ?_
    simp [r.joins_iff, hkey, beq_eq_decide]

-- ---------------------------------------------------------------------------
-- The keys that are asked for
-- ---------------------------------------------------------------------------

theorem localKeys_eq (records : List Record) (r : Relation) :
    localKeys records r =
      (records.filterMap fun record => joinKey? (record.get? r.localKey)).foldl
        OutputFields.addOnce [] := by
  rw [List.foldl_filterMap]
  unfold localKeys
  congr 1
  funext keys record
  cases joinKey? (record.get? r.localKey) <;> rfl

theorem nodup_localKeys (records : List Record) (r : Relation) : (localKeys records r).Nodup := by
  rw [localKeys_eq]
  exact OutputFields.nodup_foldl_addOnce List.nodup_nil

theorem mem_localKeys {records : List Record} {r : Relation} {key : String} :
    key ∈ localKeys records r ↔
      ∃ record ∈ records, joinKey? (record.get? r.localKey) = some key := by
  simp [localKeys_eq, OutputFields.mem_foldl_addOnce]

/-- The key of the candidate is one of these. -/
def Relation.remoteIn (r : Relation) (keys : List String) (candidate : Record) : Bool :=
  (joinKey? (candidate.get? r.remoteKey)).any keys.contains

/-- A candidate that a record is joined to has a key that is asked for. -/
theorem Relation.Joins.remoteIn {r : Relation} {records : List Record} {record candidate : Record}
    (h : r.Joins record candidate) (hrecord : record ∈ records) :
    r.remoteIn (localKeys records r) candidate = true := by
  obtain ⟨key, hlocal, hremote⟩ := r.joins_iff.mp h
  have hkey : key ∈ localKeys records r := mem_localKeys.mpr ⟨record, hrecord, hlocal⟩
  simp [Relation.remoteIn, hremote, hkey]

theorem joined_remoteIn {r : Relation} {records : List Record} {record : Record}
    (hrecord : record ∈ records) (candidates : List Record) :
    joined r (candidates.filter (r.remoteIn (localKeys records r))) record =
      joined r candidates record := by
  rw [joined_eq, joined_eq, List.filter_filter]
  refine List.filter_congr fun candidate _ => ?_
  rw [Bool.and_eq_left_iff_imp, decide_eq_true_eq]
  exact fun h => h.remoteIn hrecord

-- ---------------------------------------------------------------------------
-- Records with a relation
-- ---------------------------------------------------------------------------

/-- A record before and after the relation is loaded. -/
structure Attached (name : String) (r : Relation) (candidates : List Record)
    (before after : Record) : Prop where
  columns : after.columns = before.columns
  others : ∀ other, other ≠ name → after.relation? other = before.relation? other
  /-- All candidates that the record is joined to, or the first of them, or null. -/
  loaded : after.relation? name = some (
    let rows := candidates.filter (r.Joins before ·)
    match r.cardinality with
    | .many => .many rows
    | .one => (rows.head?.map .one).getD .null)

theorem attached_setRelation (name : String) (r : Relation) (candidates : List Record)
    (record : Record) :
    Attached name r candidates record
      (record.setRelation name (r.cardinality.related (joined r candidates record))) where
  columns := rfl
  others other hother := by rw [Record.relation?_setRelation, if_neg hother]
  loaded := by
    rw [Record.relation?_setRelation, if_pos rfl, joined_eq]
    cases r.cardinality with
    | many => rfl
    | one => cases candidates.filter (r.Joins record ·) <;> rfl

theorem KeyMap.put_put (m : KeyMap α) (k : String) (v w : α) :
    put (put m k v) k w = put m k w := by
  induction m with
  | nil => simp [put]
  | cons e rest ih =>
    obtain ⟨k', v'⟩ := e
    by_cases heq : k = k'
    · simp [put, heq]
    · by_cases hlt : k < k' <;> simp [put, heq, hlt, ih]

theorem Record.setRelation_setRelation (record : Record) (name : String) (v w : Related) :
    (record.setRelation name v).setRelation name w = record.setRelation name w := by
  simp [setRelation, KeyMap.put_put]

/-- Loading a relation keeps the records, their columns and their other relations, and joins
each with the candidates in their order. The keys asked for are the records' own, each once; the
candidates with one of them are enough, and loading a second time changes nothing. -/
theorem attach_exact_join (name : String) (r : Relation) (candidates records : List Record) :
    List.Forall₂ (Attached name r candidates) records (attach name r candidates records) ∧
    attach name r (candidates.filter (r.remoteIn (localKeys records r))) records =
      attach name r candidates records ∧
    (localKeys records r).Nodup ∧
    (∀ key, key ∈ localKeys records r ↔ ∃ record ∈ records,
      (column record.columns r.localKey).isNull = false ∧
        (column record.columns r.localKey).keyText = key) ∧
    attach name r candidates (attach name r candidates records) =
      attach name r candidates records := by
  refine ⟨?_, ?_, nodup_localKeys records r, fun key => ?_, ?_⟩
  · rw [attach_eq, List.forall₂_map_right_iff, List.forall₂_same]
    exact fun record _ => attached_setRelation name r candidates record
  · rw [attach_eq, attach_eq]
    refine List.map_congr_left fun record hrecord => ?_
    rw [joined_remoteIn hrecord]
  · simp only [mem_localKeys, joinKey?_get?]
  · simp only [attach_eq, List.map_map]
    refine List.map_congr_left fun record _ => ?_
    -- the columns are the same after the first time, and with them the rows joined
    have hjoined (value : Related) :
        joined r candidates (record.setRelation name value) = joined r candidates record :=
      joined_congr (Record.get?_setRelation ..) candidates
    rw [Function.comp_apply, hjoined, Record.setRelation_setRelation]

end RecordQuery
