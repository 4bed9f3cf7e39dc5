import RecordQuery.Proofs.Collection.View

/-!
# Selections that narrow

A selection that names a field leaves nothing in an item but the primary keys and what it
names. A selection that names no field is no selection: every row is shown whole.
-/

namespace RecordQuery

theorem OutputFields.eq_empty_of_isEmpty {fields : OutputFields} (h : fields.isEmpty = true) :
    fields = .empty := by
  obtain ⟨columns, relations⟩ := fields
  simp only [isEmpty, Bool.and_eq_true, List.isEmpty_iff] at h
  obtain ⟨rfl, rfl⟩ := h
  rfl

/-- The item has no members but primary keys and some of the names. -/
def KeyMap.Within (schema : Schema) (names : List String) (item : KeyMap Json) : Prop :=
  ∀ key ∈ KeyMap.keys item, key ∈ schema.primaryKeys ∨ key ∈ names

namespace Collection

theorem Shows.within {s : Store} {schema : Schema} {names : List String} {row item : KeyMap Json}
    (h : Shows s schema names row item) : item.Within schema names := by
  intro key hkey
  by_contra hother
  obtain ⟨hprimary, hname⟩ := not_or.mp hother
  obtain ⟨e, he, rfl⟩ := List.mem_map.mp hkey
  have hnone := h.other e.1 hprimary fun hfield => hname hfield.1
  rw [KeyMap.get?_of_mem h.ordered.nodup_keys he] at hnone
  cases hnone

section
variable {c : Collection} {s : Store} {q : Query} {compiled : CompiledQuery}
  (hcompile : c.compile (q.request c) = .ok compiled)
include hcompile

/-- A selection that names no field is no selection. -/
theorem answer_of_unknown
    (h : ¬∃ name ∈ (q.request c).selection.names, (c.schema.field? name).isSome) :
    q.answer c s = q.unselected.answer c s := by
  have hfields : OutputFields.ofSelection c.schema (q.request c).selection = .empty := by
    refine OutputFields.eq_empty_of_isEmpty ?_
    rw [← Bool.not_eq_false]
    exact mt OutputFields.isEmpty_ofSelection.mp h
  obtain ⟨ps, -, keys, -, w, -, hcompiled⟩ := compile_ok.mp hcompile
  have hsame : (⟨compiled.statement.unselected, .empty⟩ : CompiledQuery) = compiled := by
    rw [← hcompiled, hfields]
    rfl
  rw [Query.answer_eq hcompile, Query.answer_eq (Query.compile_unselected hcompile), hsame,
    Query.counted_unselected]

variable {w : Window} {rows : List (KeyMap Json)} (hw : compiled.statement.window = some w)
  (hrows : s.answer c.schema compiled.statement.unselected = rows.map Record.ofColumns)
include hrows

theorem answer_unselected_rows :
    q.unselected.answer c s =
      if s.offline then .error (.store Store.offlineError)
      else .ok (Paged.toJson ⟨(c.page compiled q.counted s).count, rows.map .object⟩) := by
  rw [Query.answer_eq (Query.compile_unselected hcompile), page, hrows, shapePaged_empty,
    Query.counted_unselected]
  rfl

include hw

/-- With a selection that names a field, every row is shown by its item. -/
theorem answer_of_known
    (h : ∃ name ∈ (q.request c).selection.names, (c.schema.field? name).isSome) :
    q.answer c s =
      if s.offline then .error (.store Store.offlineError)
      else .ok (Paged.toJson ⟨(c.page compiled q.counted s).count,
        (rows.map (c.item s (.ofSelection c.schema (q.request c).selection))).map .object⟩) := by
  have hfields := OutputFields.isEmpty_ofSelection.mpr h
  rw [Query.answer_eq hcompile]
  obtain ⟨ps, -, keys, -, w, -, rfl⟩ := compile_ok.mp hcompile
  rw [page, answer_eq_map_unselected hw, hrows, shapePaged_fields hfields]
  simp only [List.map_map]
  rfl

end

/-- The items of an answer have no members but primary keys and requested names just when
one of the names is a field, or the whole rows have no others already. Where no name is a
field, the whole rows are the items. -/
theorem selection_narrows_iff (c : Collection) (s : Store) (q : Query) (compiled : CompiledQuery)
    (hs : s.Bare) (hcompile : c.compile (q.request c) = .ok compiled) :
    ∃ (count : Int) (rows items : List (KeyMap Json)),
      (q.unselected.answer c s =
        if s.offline then .error (.store Store.offlineError)
        else .ok (Paged.toJson ⟨count, rows.map .object⟩)) ∧
      (q.answer c s =
        if s.offline then .error (.store Store.offlineError)
        else .ok (Paged.toJson ⟨count, items.map .object⟩)) ∧
      ((∀ item ∈ items, item.Within c.schema (q.request c).selection.names) ↔
        (∃ name ∈ (q.request c).selection.names, (c.schema.field? name).isSome) ∨
          ∀ row ∈ rows, row.Within c.schema (q.request c).selection.names) ∧
      ((∀ name ∈ (q.request c).selection.names, c.schema.field? name = none) → items = rows) := by
  obtain ⟨w, hw⟩ : ∃ w, compiled.statement.window = some w := by
    obtain ⟨ps, -, keys, -, w, -, rfl⟩ := compile_ok.mp hcompile
    exact ⟨w, rfl⟩
  obtain ⟨rows, hrows⟩ := answer_unselected_bare hw hs c.schema
  have hunselected := answer_unselected_rows hcompile hrows
  by_cases hknown : ∃ name ∈ (q.request c).selection.names, (c.schema.field? name).isSome
  · refine ⟨_, rows, _, hunselected, answer_of_known hcompile hw hrows hknown, ?_, ?_⟩
    · refine ⟨fun _ => .inl hknown, fun _ => List.forall_mem_map.mpr fun row _ => ?_⟩
      exact (shows_item c hs (OutputFields.isEmpty_ofSelection.mpr hknown) row).within
    · intro hnone
      obtain ⟨name, hname, hsome⟩ := hknown
      simp [hnone name hname] at hsome
  · refine ⟨_, rows, rows, hunselected, ?_, ?_, fun _ => rfl⟩
    · rw [answer_of_unknown hcompile hknown, hunselected]
    · exact (or_iff_right hknown).symm

/-- The heroes, shown by their names. -/
theorem selection_narrows_heroes :
    let c : Collection := ⟨"Hero", Sample.heroSchema, {}⟩
    let s := Store.empty.final [.insertMany "hero" (Sample.heroes.map Record.toJson)]
    let q : Query := .flat { fields := "nickname, name, nickname" } none
    ∃ (count : Int) (items : List (KeyMap Json)),
      q.answer c s = .ok (Paged.toJson ⟨count, items.map .object⟩) ∧
      ∀ item ∈ items, item.Within c.schema ["nickname", "name", "nickname"] := by
  intro c s q
  have hs : s.Bare := Store.bare_empty.final (by simp)
  obtain ⟨count, rows, items, -, hanswer, hwithin, -⟩ := selection_narrows_iff c s q _ hs rfl
  exact ⟨count, items, hanswer, hwithin.mpr (.inl ⟨"name", by decide, by decide⟩)⟩

/-- A selection of one name that is no field shows a column nobody asked for. -/
theorem unknown_name_widens :
    let c : Collection :=
      ⟨"Item", Schema.empty "Item" "item" |>.primaryKey "id" .integer |>.column "secret" .text, {}⟩
    let row : KeyMap Json := [("id", .int 1), ("secret", .string "x")]
    let s := Store.empty.final [.insert "item" (.object row)]
    let q : Query := .flat { fields := "nickname" } none
    s.Bare ∧ (∃ compiled, c.compile (q.request c) = .ok compiled) ∧
      (q.request c).selection.names = ["nickname"] ∧
      q.answer c s = .ok (Paged.toJson ⟨-1, [.object row]⟩) ∧
      ¬row.Within c.schema ["nickname"] := by
  intro c row s q
  have hs : s.Bare := Store.bare_empty.final (by simp)
  have hanswer : q.answer c s = .ok (Paged.toJson ⟨-1, [.object row]⟩) := by
    rw [Query.answer_eq rfl, page, Store.answer_eq _ _ _ rfl, Store.sorted,
      List.mergeSort_of_pairwise]
    · rfl
    · exact List.pairwise_of_forall fun _ _ => rfl
  refine ⟨hs, ⟨_, rfl⟩, by decide, hanswer, fun hwithin => ?_⟩
  exact absurd (hwithin "secret" (by decide)) (by decide)

end Collection

end RecordQuery
