import RecordQuery.Proofs.Json.OneRank
import RecordQuery.Proofs.Predicate.Membership
import RecordQuery.Proofs.Record.Lookup
import RecordQuery.Proofs.Store.Sorted

/-!
# Ranges of sorted rows

In a sorted result the rows on one side of a value stand together at one end, as long as the
column and the value are scalars of one rank. So a page can be asked for by the last value seen
as well as by its number.
-/

namespace RecordQuery

-- ---------------------------------------------------------------------------
-- Ends of a list
-- ---------------------------------------------------------------------------

section
variable {p : α → Bool} {xs : List α}

theorem filter_prefix (h : xs.Pairwise fun a b => p b = true → p a = true) :
    xs.filter p <+: xs := by
  induction xs with
  | nil => exact List.prefix_rfl
  | cons x rest ih =>
    obtain ⟨hx, hrest⟩ := List.pairwise_cons.mp h
    by_cases hp : p x = true
    · rw [List.filter_cons_of_pos hp, List.prefix_cons_inj]
      exact ih hrest
    · -- none of the others can have the property
      have hnone : rest.filter p = [] :=
        List.filter_eq_nil_iff.mpr fun y hy hpy => hp (hx y hy hpy)
      rw [List.filter_cons_of_neg hp, hnone]
      exact List.nil_prefix

theorem filter_suffix (h : xs.Pairwise fun a b => p a = true → p b = true) :
    xs.filter p <:+ xs := by
  rw [← List.reverse_prefix, ← List.filter_reverse]
  exact filter_prefix (List.pairwise_reverse.mpr h)

end

-- ---------------------------------------------------------------------------
-- One row and a value
-- ---------------------------------------------------------------------------

section
variable {p q v : Json.SortPlace} {op : Comparison} (h : (compare p q).isLE = true)
include h

theorem Comparison.accepts_below (hop : op ∈ [Comparison.lt, .le])
    (hq : op.accepts (Ord.compare q v) = true) : op.accepts (Ord.compare p v) = true := by
  simp only [List.mem_cons, List.not_mem_nil, or_false] at hop
  obtain rfl | rfl := hop
  · rw [accepts, beq_iff_eq] at hq ⊢
    exact Std.TransCmp.lt_of_isLE_of_lt h hq
  · rw [accepts, bne_iff_ne, ne_eq, ← Ordering.isLE_iff_ne_gt] at hq ⊢
    exact Std.TransCmp.isLE_trans h hq

theorem Comparison.accepts_above (hop : op ∈ [Comparison.gt, .ge])
    (hp : op.accepts (Ord.compare p v) = true) : op.accepts (Ord.compare q v) = true := by
  rw [← Std.OrientedCmp.isGE_iff_isLE] at h
  simp only [List.mem_cons, List.not_mem_nil, or_false] at hop
  obtain rfl | rfl := hop
  · rw [accepts, beq_iff_eq] at hp ⊢
    exact Std.TransCmp.gt_of_isGE_of_gt h hp
  · rw [accepts, bne_iff_ne, ne_eq, ← Ordering.isGE_iff_ne_lt] at hp ⊢
    exact Std.TransCmp.isGE_trans h hp

end

theorem Predicate.holds_compare_of_rank {row : KeyMap Json} {field : String} {v : Json}
    (hv : v.isScalar = true) (hrank : (column row field).sortRank = v.sortRank)
    (op : Comparison) :
    (compare field op v).holds row =
      op.accepts (Ord.compare (column row field).filterPlace v.filterPlace) := by
  have hcolumn := Json.isScalar_of_rank hv hrank.symm
  have hnull {j : Json} (hj : j.isScalar = true) : j.isNull = false := by
    cases j with
    | null => cases hj
    | _ => rfl
  rw [holds, Comparison.holds_eq_any (hnull hcolumn) (hnull hv),
    Json.filterOrder?_of_rank hcolumn hrank, Option.any_some]

namespace Store

/-- The rows that a comparison of the column with the value finds. -/
def within (field : String) (op : Comparison) (v : Json) (rows : List Record) : List Record :=
  rows.filter fun r => (Predicate.compare field op v).holds r.columns

/-- In ascending order the rows below the value come first and those above it last, in descending
order it is the other way round. -/
inductive RangesAtEnds (field : String) (v : Json) (rows : List Record) : SortOrder → Prop
  | asc : (∀ op ∈ [Comparison.lt, .le], within field op v rows <+: rows) →
      (∀ op ∈ [Comparison.gt, .ge], within field op v rows <:+ rows) → RangesAtEnds field v rows .asc
  | desc : (∀ op ∈ [Comparison.lt, .le], within field op v rows <:+ rows) →
      (∀ op ∈ [Comparison.gt, .ge], within field op v rows <+: rows) →
      RangesAtEnds field v rows .desc

/-- The place of a row in a sort by a column with a value. -/
theorem sortPlace?_get? {r : Record} {field : String}
    (h : (column r.columns field).isScalar = true) :
    Json.sortPlace? (r.get? field) = (column r.columns field).sortPlace := by
  unfold column at h ⊢
  unfold Record.get?
  cases hget : KeyMap.get? r.columns field with
  | none => simp [hget, Json.isScalar] at h
  | some v =>
    rw [hget] at h
    cases v with
    | null => cases h
    | _ => rfl

section
variable {field : String} {v : Json} (hv : v.isScalar = true) {r t : Record}
  (hr : (column r.columns field).sortRank = v.sortRank)
  (ht : (column t.columns field).sortRank = v.sortRank)
include hv hr ht

theorem filterPlace_isLE_of_keyOrder (h : keyOrder ⟨field, .asc⟩ r t ≠ .gt) :
    (compare (column r.columns field).filterPlace (column t.columns field).filterPlace).isLE =
      true := by
  have hrs := Json.isScalar_of_rank hv hr.symm
  have hts := Json.isScalar_of_rank hv ht.symm
  refine Json.filterPlace_isLE hrs (hr.trans ht.symm) ?_
  rw [Ordering.isLE_iff_ne_gt, ← sortPlace?_get? hrs, ← sortPlace?_get? hts, ← Json.sortOrder_eq]
  exact h

/-- With a row below the value are all rows that are not sorted after it. -/
theorem holds_below (h : keyOrder ⟨field, .asc⟩ r t ≠ .gt) {op : Comparison}
    (hop : op ∈ [Comparison.lt, .le])
    (hholds : (Predicate.compare field op v).holds t.columns = true) :
    (Predicate.compare field op v).holds r.columns = true := by
  rw [Predicate.holds_compare_of_rank hv ht] at hholds
  rw [Predicate.holds_compare_of_rank hv hr]
  exact Comparison.accepts_below (filterPlace_isLE_of_keyOrder hv hr ht h) hop hholds

theorem holds_above (h : keyOrder ⟨field, .asc⟩ r t ≠ .gt) {op : Comparison}
    (hop : op ∈ [Comparison.gt, .ge])
    (hholds : (Predicate.compare field op v).holds r.columns = true) :
    (Predicate.compare field op v).holds t.columns = true := by
  rw [Predicate.holds_compare_of_rank hv hr] at hholds
  rw [Predicate.holds_compare_of_rank hv ht]
  exact Comparison.accepts_above (filterPlace_isLE_of_keyOrder hv hr ht h) hop hholds

end

-- ---------------------------------------------------------------------------
-- A result and a value
-- ---------------------------------------------------------------------------

theorem rangesAtEnds_of_pairwise {field : String} {order : SortOrder} {v : Json}
    {rows : List Record} (hv : v.isScalar = true)
    (hrank : ∀ r ∈ rows, (column r.columns field).sortRank = v.sortRank)
    (h : rows.Pairwise fun r t => keyOrder ⟨field, order⟩ r t ≠ .gt) :
    RangesAtEnds field v rows order := by
  cases order with
  | asc =>
    refine .asc ?_ ?_
    · intro op hop
      refine filter_prefix (h.imp_of_mem ?_)
      intro r t hr ht hrt
      exact holds_below hv (hrank r hr) (hrank t ht) hrt hop
    · intro op hop
      refine filter_suffix (h.imp_of_mem ?_)
      intro r t hr ht hrt
      exact holds_above hv (hrank r hr) (hrank t ht) hrt hop
  | desc =>
    rw [keyOrder_desc] at h
    refine .desc ?_ ?_
    · intro op hop
      refine filter_suffix (h.imp_of_mem ?_)
      intro r t hr ht htr
      exact holds_below hv (hrank t ht) (hrank r hr) htr hop
    · intro op hop
      refine filter_prefix (h.imp_of_mem ?_)
      intro r t hr ht htr
      exact holds_above hv (hrank t ht) (hrank r hr) htr hop

/-- A column that is answered is the one of the row. -/
theorem get?_present_of_answered {s : Store} {schema : Schema} {columns relations : List String}
    {field : String} (h : columns = [] ∨ field ∈ columns) (r : Record) :
    (s.present schema columns relations r).get? field = r.get? field := by
  rcases h with rfl | h
  · exact get?_loaded ..
  · exact get?_present h

/-- On scalars of one rank a filter never contradicts the sort: what it puts strictly below or
above, the sort puts there too. So in a result sorted first by a column whose values are of the
rank of the given one, the rows below that one are at one end and the rows above it at the
other. -/
theorem ranges_at_ends (field : String) (v : Json) :
    (∀ a b : Json, a.isScalar = true → a.sortRank = b.sortRank → ∀ o ≠ .eq,
      a.filterOrder? b = some o → Json.sortOrder (some a) (some b) = o) ∧
    ∀ (s : Store) (schema : Schema) (stmt : Statement) (order : SortOrder) (rest : List SortKey),
      s.offline = false → stmt.orderBy = ⟨field, order⟩ :: rest → v.isScalar = true →
      (∀ r ∈ s.rows stmt.table, (column r.columns field).sortRank = v.sortRank) →
        RangesAtEnds field v (s.shown stmt) order ∧
        ∃ answer, ((fetch schema stmt).runOn s).1 = .ok answer ∧
          answer = (s.shown stmt).map (s.present schema stmt.columns stmt.relations) ∧
          (stmt.columns = [] ∨ field ∈ stmt.columns → RangesAtEnds field v answer order) := by
  constructor
  · intro a b ha hrank o ho h
    rw [Json.filterOrder?_of_rank ha hrank, Option.some.injEq] at h
    rw [Json.sortOrder_of_rank ha hrank]
    cases o with
    | eq => exact absurd rfl ho
    | lt => exact Json.sortPlace_lt ha hrank h
    | gt => exact Json.sortPlace_gt ha hrank h
  · intro s schema stmt order rest honline horder hv hrank
    have hkey : (s.shown stmt).Pairwise fun r t => keyOrder ⟨field, order⟩ r t ≠ .gt := by
      have hsorted := sorted_pairwise stmt.orderBy (s.matching stmt)
      refine (hsorted.sublist (shown_sublist s stmt)).imp fun h => ?_
      rw [horder] at h
      exact keyOrder_ne_gt h
    have hshown : ∀ r ∈ s.shown stmt, (column r.columns field).sortRank = v.sortRank :=
      fun r hr => hrank r (mem_rows_of_shown hr)
    refine ⟨rangesAtEnds_of_pairwise hv hshown hkey, _, ?_, rfl, fun hfield => ?_⟩
    · rw [runOn_fetch, honline, answer_eq_map]
      rfl
    · have hget (r : Record) : (s.present schema stmt.columns stmt.relations r).get? field =
          r.get? field := get?_present_of_answered hfield r
      refine rangesAtEnds_of_pairwise hv ?_ (List.pairwise_map.mpr (hkey.imp fun h => ?_))
      · rw [List.forall_mem_map]
        intro r hr
        have hcolumn : column (s.present schema stmt.columns stmt.relations r).columns field =
            column r.columns field := congrArg (fun v : Option Json => v.getD .null) (hget r)
        rw [hcolumn, hshown r hr]
      · rwa [keyOrder, hget, hget]

/-- The first four heroes by time, latest first: those past a time that is written in another
way than theirs come first. -/
theorem ranges_at_ends_heroes :
    let stmt : Statement :=
      { table := "hero", columns := ["id", "create_time"]
        orderBy := [⟨"create_time", .desc⟩, ⟨"id", .asc⟩], window := some ⟨1, 4⟩ }
    let time := Json.string "2024-09-03 12:00:00"
    (∀ r ∈ Sample.store.rows "hero", (column r.columns "create_time").sortRank = time.sortRank) ∧
      ∃ answer, ((fetch Sample.heroSchema stmt).runOn Sample.store).1 = .ok answer ∧
        within "create_time" .gt time answer <+: answer ∧
        within "create_time" .le time answer <:+ answer := by
  intro stmt time
  have hrank : ∀ r ∈ Sample.store.rows "hero",
      (column r.columns "create_time").sortRank = time.sortRank := by decide +kernel
  obtain ⟨-, answer, hfetch, -, hends⟩ := (ranges_at_ends "create_time" time).2 Sample.store
    Sample.heroSchema stmt .desc [⟨"id", .asc⟩] rfl rfl rfl hrank
  refine ⟨hrank, answer, hfetch, ?_⟩
  cases hends (.inr (by simp [stmt])) with
  | desc hbelow habove => exact ⟨habove .gt (by simp), hbelow .le (by simp)⟩

end Store

end RecordQuery
