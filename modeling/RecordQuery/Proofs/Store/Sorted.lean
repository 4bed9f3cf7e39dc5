import RecordQuery.Proofs.Json.SortOrder
import RecordQuery.Proofs.Store.Answer
import RecordQuery.Sample.Heroes

/-!
# Sorted rows

Rows are ordered by the places of their sort columns, one key after the other. The order is a
total preorder, and the sort by it is stable: rows that no key tells apart stay in the order
in which they were inserted.
-/

namespace RecordQuery.Store

-- ---------------------------------------------------------------------------
-- The order of rows
-- ---------------------------------------------------------------------------

/-- An order of the values of a function is an order of its arguments. -/
theorem transCmp_on (cmp : α → α → Ordering) [Std.TransCmp cmp] (f : β → α) :
    Std.TransCmp fun a b => cmp (f a) (f b) where
  eq_swap := Std.OrientedCmp.eq_swap
  isLE_trans := Std.TransCmp.isLE_trans

theorem keyOrder_desc (field : String) :
    keyOrder ⟨field, .desc⟩ = fun a b => keyOrder ⟨field, .asc⟩ b a := by
  funext a b
  exact Std.OrientedCmp.eq_swap.symm

instance (k : SortKey) : Std.TransCmp (keyOrder k) := by
  obtain ⟨field, order⟩ := k
  have hasc : Std.TransCmp (keyOrder ⟨field, .asc⟩) :=
    transCmp_on Json.sortOrder fun r : Record => r.get? field
  cases order with
  | asc => exact hasc
  | desc =>
    rw [keyOrder_desc]
    exact .opposite

instance (keys : List SortKey) : Std.TransCmp (rowOrder keys) := by
  induction keys with
  | nil => exact { eq_swap := rfl, isLE_trans := fun _ _ => rfl }
  | cons k rest ih =>
    exact inferInstanceAs (Std.TransCmp (compareLex (keyOrder k) (rowOrder rest)))

/-- A row after another under the first key is after it altogether. -/
theorem keyOrder_ne_gt {k : SortKey} {rest : List SortKey} {a b : Record}
    (h : rowOrder (k :: rest) a b ≠ .gt) : keyOrder k a b ≠ .gt := by
  intro hgt
  rw [rowOrder, hgt] at h
  exact h rfl

theorem present?_get? {r : Record} {field : String} :
    Json.present? (r.get? field) = none ↔ column r.columns field = .null := by
  unfold Record.get? column
  cases KeyMap.get? r.columns field with
  | none => simp [Json.present?]
  | some v => cases v <;> simp [Json.present?]

/-- No row without value in the column is followed by one with a value. -/
theorem null_of_keyOrder {field : String} {a b : Record}
    (h : keyOrder ⟨field, .asc⟩ a b ≠ .gt) (ha : column a.columns field = .null) :
    column b.columns field = .null := by
  rw [← present?_get?] at ha ⊢
  cases hb : Json.present? (b.get? field) with
  | none => rfl
  | some v => exact absurd (by simp [keyOrder, Json.sortOrder, ha, hb]) h

-- ---------------------------------------------------------------------------
-- The sort
-- ---------------------------------------------------------------------------

section
variable (keys : List SortKey)

theorem rowOrder_le_trans {a b c : Record} (hab : rowOrder keys a b ≠ .gt)
    (hbc : rowOrder keys b c ≠ .gt) : rowOrder keys a c ≠ .gt := by
  rw [ne_eq, ← Ordering.isLE_iff_ne_gt] at hab hbc ⊢
  exact Std.TransCmp.isLE_trans hab hbc

theorem rowOrder_le_total (a b : Record) : rowOrder keys a b ≠ .gt ∨ rowOrder keys b a ≠ .gt := by
  have hswap : rowOrder keys b a = (rowOrder keys a b).swap := Std.OrientedCmp.eq_swap
  rw [hswap]
  cases rowOrder keys a b <;> simp

theorem sublist_sorted {part rows : List Record} (h : part.Sublist rows)
    (hpart : part.Pairwise fun a b => rowOrder keys a b ≠ .gt) :
    part.Sublist (sorted keys rows) := by
  refine List.sublist_mergeSort ?_ ?_ (hpart.imp bne_iff_ne.mpr) h
  · simpa using fun a b c => rowOrder_le_trans keys
  · simpa using rowOrder_le_total keys

theorem sorted_pairwise (rows : List Record) :
    (sorted keys rows).Pairwise fun a b => rowOrder keys a b ≠ .gt := by
  refine (List.pairwise_mergeSort ?_ ?_ rows).imp bne_iff_ne.mp
  · simpa using fun a b c => rowOrder_le_trans keys
  · simpa using rowOrder_le_total keys

/-- The rows that compare equal to a given one are in their old order. -/
theorem filter_sorted (rows : List Record) (a : Record) :
    (sorted keys rows).filter (rowOrder keys a · == .eq) =
      rows.filter (rowOrder keys a · == .eq) := by
  have hpairwise : (rows.filter (rowOrder keys a · == .eq)).Pairwise
      fun b c => rowOrder keys b c ≠ .gt := by
    refine List.pairwise_of_forall_mem_list fun b hb c hc => ?_
    rw [List.mem_filter, beq_iff_eq] at hb hc
    rw [← Std.TransCmp.congr_left hb.2, hc.2]
    nofun
  have hsub := (sublist_sorted keys List.filter_sublist hpairwise).filter (rowOrder keys a · == .eq)
  rw [List.filter_filter] at hsub
  simp only [Bool.and_self] at hsub
  exact (hsub.eq_of_length ((sorted_perm keys rows).filter _).length_eq.symm).symm

end

/-- Rows compare as in a total preorder. Without a window an online store answers a statement
with its matching rows sorted in that order, equal ones as they were inserted, those without
value in the first sort column at the end, or at the start where the key descends. -/
theorem fetched_sorted_stably (keys : List SortKey) :
    ((∀ a, rowOrder keys a a = .eq) ∧
      (∀ a b, rowOrder keys b a = (rowOrder keys a b).swap) ∧
      ∀ a b c, rowOrder keys a b ≠ .gt → rowOrder keys b c ≠ .gt → rowOrder keys a c ≠ .gt) ∧
    ∀ (s : Store) (schema : Schema) (stmt : Statement), s.offline = false →
      stmt.orderBy = keys → stmt.window = none →
      ∃ rows : List Record,
        ((fetch schema stmt).runOn s).1 =
          .ok (rows.map (s.present schema stmt.columns stmt.relations)) ∧
        (stmt.columns = [] → stmt.relations = [] →
          ∀ r, s.present schema stmt.columns stmt.relations r = r) ∧
        rows.Perm (s.selected stmt.table stmt.predicates) ∧
        (rows.Pairwise fun a b => rowOrder keys a b ≠ .gt) ∧
        (∀ a, rows.filter (rowOrder keys a · == .eq) =
          (s.selected stmt.table stmt.predicates).filter (rowOrder keys a · == .eq)) ∧
        ∀ field rest,
          (keys = ⟨field, .asc⟩ :: rest → rows.Pairwise fun a b =>
            column a.columns field = .null → column b.columns field = .null) ∧
          (keys = ⟨field, .desc⟩ :: rest → rows.Pairwise fun a b =>
            column b.columns field = .null → column a.columns field = .null) := by
  refine ⟨⟨fun a => Std.ReflCmp.compare_self, fun a b => Std.OrientedCmp.eq_swap,
    fun a b c => rowOrder_le_trans keys⟩, ?_⟩
  rintro s schema stmt honline rfl hwindow
  have hpairwise := sorted_pairwise stmt.orderBy (s.selected stmt.table stmt.predicates)
  refine ⟨sorted stmt.orderBy (s.selected stmt.table stmt.predicates), ?_, ?_, sorted_perm _ _,
    hpairwise, filter_sorted _ _, fun field rest => ⟨fun hkeys => ?_, fun hkeys => ?_⟩⟩
  · rw [runOn_fetch, honline, answer_eq_map, shown, hwindow, matching_eq]
    rfl
  · intro hcolumns hrelations r
    rw [hcolumns, hrelations]
    rfl
  · refine hpairwise.imp fun h => ?_
    rw [hkeys] at h
    exact null_of_keyOrder (keyOrder_ne_gt h)
  · refine hpairwise.imp fun h => ?_
    rw [hkeys] at h
    have hkey := keyOrder_ne_gt h
    rw [keyOrder_desc] at hkey
    exact null_of_keyOrder hkey

/-- The heroes by team, the one without a team first; those of one team stay in their order. -/
theorem fetched_sorted_stably_heroes :
    let stmt : Statement := { table := "hero", orderBy := [⟨"team_id", .desc⟩] }
    let first : Record := .ofColumns [("team_id", .word 1)]
    ∃ rows : List Record,
      ((fetch Sample.heroSchema stmt).runOn Sample.store).1 = .ok rows ∧
      rows.Perm Sample.heroes ∧
      (rows.Pairwise fun a b =>
        column b.columns "team_id" = .null → column a.columns "team_id" = .null) ∧
      (rows.filter (rowOrder stmt.orderBy first · == .eq)).map (joinKey? <| ·.get? "id") =
        [some "1", some "2", some "6"] := by
  intro stmt first
  obtain ⟨rows, hfetch, hpresent, hperm, -, hstable, hnull⟩ :=
    (fetched_sorted_stably stmt.orderBy).2 Sample.store Sample.heroSchema stmt rfl rfl rfl
  refine ⟨rows, ?_, hperm, (hnull "team_id" []).2 rfl, ?_⟩
  · rw [hfetch, List.map_congr_left fun r _ => hpresent rfl rfl r, List.map_id']
  · rw [hstable first]
    decide +kernel

end RecordQuery.Store
