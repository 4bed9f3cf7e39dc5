import RecordQuery.Proofs.Number.Rounding
import RecordQuery.Proofs.Predicate.Membership
import RecordQuery.Proofs.Store.Sorted

/-!
# Integers in filters and sorts

Integers meet as binary64 numbers. What a filter or a sort makes of two of them is exact
where rounding to 53 significant bits keeps them apart, and takes them for one where it does
not; their order is never turned round.
-/

namespace RecordQuery

open Binary64 (rounded)

-- ---------------------------------------------------------------------------
-- Two integers
-- ---------------------------------------------------------------------------

namespace Json.Integer

def toJson (a : Integer) : Json := .number (.int a)

/-- Different integers are still different when rounded. -/
def Apart (a b : Integer) : Prop := a = b ∨ rounded a.val ≠ rounded b.val

variable {a b : Integer}

theorem val_inj : a.val = b.val ↔ a = b := by
  obtain ⟨i, _, _⟩ := a
  obtain ⟨j, _, _⟩ := b
  simp

theorem compare_rounded (h : a.Apart b) :
    compare (rounded a.val) (rounded b.val) = compare a.val b.val := by
  rcases h with rfl | hne
  · simp
  · have hab := Binary64.rounded_mono (i := a.val) (j := b.val)
    have hba := Binary64.rounded_mono (i := b.val) (j := a.val)
    exact Binary64.compare_congr (by omega) (by omega)

theorem rounded_eq_of_not_apart (h : ¬ a.Apart b) : rounded a.val = rounded b.val := by
  rw [Apart, not_or, not_not] at h
  exact h.2

/-- Up to `2 ^ 53`, and at a distance past the widest step, no two integers become one. -/
theorem apart_of_near_or_far
    (h : (a.val.natAbs ≤ 2 ^ 53 ∧ b.val.natAbs ≤ 2 ^ 53) ∨ 2048 < (a.val - b.val).natAbs) :
    a.Apart b := by
  rw [Apart, ← val_inj]
  rcases h with ⟨ha, hb⟩ | hfar
  · rw [Binary64.rounded_of_natAbs_le ha, Binary64.rounded_of_natAbs_le hb]
    omega
  · have ha := Binary64.rounded_close (i := a.val) (by have := a.lower; have := a.upper; omega)
    have hb := Binary64.rounded_close (i := b.val) (by have := b.lower; have := b.upper; omega)
    omega

/-- A list seems to hold an integer exactly if it does, or holds none that becomes one with it. -/
theorem exists_rounded_iff_mem {bs : List Integer} :
    ((∃ b ∈ bs, rounded a.val = rounded b.val) ↔ a ∈ bs) ↔ a ∈ bs ∨ ∀ b ∈ bs, a.Apart b := by
  constructor
  · intro h
    by_cases hmem : a ∈ bs
    · exact .inl hmem
    · exact .inr fun b hb => .inr fun heq => hmem (h.mp ⟨b, hb, heq⟩)
  · rintro (hmem | hapart)
    · exact ⟨fun _ => hmem, fun _ => ⟨a, hmem, rfl⟩⟩
    · refine ⟨fun ⟨b, hb, heq⟩ => ?_, fun hmem => ⟨a, hmem, rfl⟩⟩
      rcases hapart b hb with rfl | hne
      · exact hb
      · exact absurd heq hne

theorem filterOrder?_toJson :
    a.toJson.filterOrder? b.toJson = some (compare (rounded a.val) (rounded b.val)) :=
  congrArg some (Binary64.compare_key_ofInt a.natAbs_le b.natAbs_le)

theorem filterEq_toJson : a.toJson.filterEq b.toJson = true ↔ rounded a.val = rounded b.val := by
  rw [filterEq, filterOrder?_toJson, beq_iff_eq, Option.some.injEq, Int.compare_eq_eq]

theorem sortOrder_toJson :
    sortOrder (some a.toJson) (some b.toJson) = compare (rounded a.val) (rounded b.val) :=
  Binary64.compare_totalKey_ofInt a.natAbs_le b.natAbs_le

end Json.Integer

open Json (Integer)

-- ---------------------------------------------------------------------------
-- Filters
-- ---------------------------------------------------------------------------

namespace Predicate

variable {row : KeyMap Json} {field : String} {a : Integer}
  (hcolumn : column row field = a.toJson)
include hcolumn

theorem holds_compare_toJson (op : Comparison) (b : Integer) :
    (compare field op b.toJson).holds row =
      op.accepts (Ord.compare (rounded a.val) (rounded b.val)) := by
  have ha : a.toJson.isNull = false := rfl
  have hb : b.toJson.isNull = false := rfl
  rw [holds, hcolumn, Comparison.holds_eq_any ha hb, Integer.filterOrder?_toJson, Option.any_some]

theorem compare_exact_iff (b : Integer) :
    (∀ op, (compare field op b.toJson).holds row = op.accepts (Ord.compare a.val b.val)) ↔
      a.Apart b := by
  simp only [holds_compare_toJson hcolumn]
  constructor
  · intro h
    have heq := h .eq
    rw [Comparison.accepts, Comparison.accepts, Bool.eq_iff_iff, beq_iff_eq, beq_iff_eq,
      Int.compare_eq_eq, Int.compare_eq_eq, Integer.val_inj] at heq
    rw [Integer.Apart, ne_eq, heq]
    exact Decidable.em (a = b)
  · intro h op
    rw [Integer.compare_rounded h]

/-- Integers that become one are taken for equal by every comparison. -/
theorem holds_compare_of_not_apart {b : Integer} (h : ¬ a.Apart b) (op : Comparison) :
    (compare field op b.toJson).holds row = op.accepts .eq := by
  rw [holds_compare_toJson hcolumn, Integer.rounded_eq_of_not_apart h, Std.ReflOrd.compare_self]

theorem oneOf_iff_rounded (bs : List Integer) :
    (oneOf field (bs.map Integer.toJson)).holds row = true ↔
      ∃ b ∈ bs, rounded a.val = rounded b.val := by
  have ha : a.toJson.isNull = false := rfl
  simp [holds_oneOf, hcolumn, ha, Integer.filterEq_toJson]

theorem noneOf_iff_rounded (bs : List Integer) :
    (noneOf field (bs.map Integer.toJson)).holds row = true ↔
      ¬ ∃ b ∈ bs, rounded a.val = rounded b.val := by
  have ha : a.toJson.isNull = false := rfl
  simp [holds_noneOf, hcolumn, ha, ← Bool.not_eq_true, Integer.filterEq_toJson]

theorem oneOf_exact_iff (bs : List Integer) :
    ((oneOf field (bs.map Integer.toJson)).holds row = true ↔ a ∈ bs) ↔
      a ∈ bs ∨ ∀ b ∈ bs, a.Apart b := by
  rw [oneOf_iff_rounded hcolumn, Integer.exists_rounded_iff_mem]

theorem noneOf_exact_iff (bs : List Integer) :
    ((noneOf field (bs.map Integer.toJson)).holds row = true ↔ a ∉ bs) ↔
      a ∈ bs ∨ ∀ b ∈ bs, a.Apart b := by
  rw [noneOf_iff_rounded hcolumn, not_iff_not, Integer.exists_rounded_iff_mem]

end Predicate

-- ---------------------------------------------------------------------------
-- Sorts
-- ---------------------------------------------------------------------------

namespace Store

theorem get?_of_column {r : Record} {field : String} {a : Integer}
    (h : column r.columns field = a.toJson) : r.get? field = some a.toJson := by
  unfold column at h
  unfold Record.get?
  cases hget : KeyMap.get? r.columns field with
  | none => rw [hget] at h; cases h
  | some v => rw [hget] at h; exact congrArg some h

section
variable {field : String} {rest : List SortKey} {r t : Record} {a b : Integer}
  (hr : column r.columns field = a.toJson) (ht : column t.columns field = b.toJson)
include hr ht

theorem keyOrder_toJson :
    keyOrder ⟨field, .asc⟩ r t = compare (rounded a.val) (rounded b.val) := by
  rw [keyOrder, get?_of_column hr, get?_of_column ht, Integer.sortOrder_toJson]

theorem rowOrder_of_not_apart (h : ¬ a.Apart b) :
    rowOrder (⟨field, .asc⟩ :: rest) r t = rowOrder rest r t := by
  rw [rowOrder, keyOrder_toJson hr ht, Integer.rounded_eq_of_not_apart h,
    Std.ReflOrd.compare_self]
  rfl

theorem le_of_rowOrder (h : a.Apart b) (hle : rowOrder (⟨field, .asc⟩ :: rest) r t ≠ .gt) :
    a.val ≤ b.val := by
  have hkey := keyOrder_ne_gt hle
  rw [keyOrder_toJson hr ht, Integer.compare_rounded h, ne_eq, Int.compare_eq_gt] at hkey
  omega

end

/-- What filters and ascending sorts make of integers is exact where rounding keeps them apart:
all comparisons with an integer, the memberships of a column in a list that holds its value or
only integers apart from it, and the order of two rows. Integers that become one are equal to
every comparison, and their rows are left to the sort keys that follow. -/
theorem integers_exact_where_apart (field : String) (a : Integer) :
    (∀ row : KeyMap Json, column row field = a.toJson →
      (∀ b : Integer,
        ((∀ op, (Predicate.compare field op b.toJson).holds row =
          op.accepts (compare a.val b.val)) ↔ a.Apart b) ∧
        (¬ a.Apart b → ∀ op, (Predicate.compare field op b.toJson).holds row =
          op.accepts .eq)) ∧
      ∀ bs : List Integer,
        (((Predicate.oneOf field (bs.map Integer.toJson)).holds row = true ↔ a ∈ bs) ↔
          a ∈ bs ∨ ∀ b ∈ bs, a.Apart b) ∧
        (((Predicate.noneOf field (bs.map Integer.toJson)).holds row = true ↔ a ∉ bs) ↔
          a ∈ bs ∨ ∀ b ∈ bs, a.Apart b)) ∧
    (∀ rest : List SortKey,
      (∀ (r t : Record) (b : Integer), column r.columns field = a.toJson →
        column t.columns field = b.toJson → ¬ a.Apart b →
          rowOrder (⟨field, .asc⟩ :: rest) r t = rowOrder rest r t) ∧
      ∀ rows : List Record, (sorted (⟨field, .asc⟩ :: rest) rows).Pairwise fun r t =>
        ∀ b : Integer, column r.columns field = a.toJson → column t.columns field = b.toJson →
          a.Apart b → a.val ≤ b.val) ∧
    ∀ b : Integer,
      (a.val.natAbs ≤ 2 ^ 53 ∧ b.val.natAbs ≤ 2 ^ 53) ∨ 2048 < (a.val - b.val).natAbs →
        a.Apart b := by
  refine ⟨fun row hcolumn => ⟨fun b => ⟨?_, ?_⟩, fun bs => ⟨?_, ?_⟩⟩,
    fun rest => ⟨?_, fun rows => ?_⟩, fun b => Integer.apart_of_near_or_far⟩
  · exact Predicate.compare_exact_iff hcolumn b
  · exact Predicate.holds_compare_of_not_apart hcolumn
  · exact Predicate.oneOf_exact_iff hcolumn bs
  · exact Predicate.noneOf_exact_iff hcolumn bs
  · intro r t b hr ht h
    exact rowOrder_of_not_apart hr ht h
  · refine (sorted_pairwise _ rows).imp ?_
    intro r t hle b hr ht h
    exact le_of_rowOrder hr ht h hle

/-- `2 ^ 53` and its successor become one, so each is found for the other, and an ascending
sort leaves the greater before the smaller. -/
theorem neighbours_meet :
    let a : Integer := ⟨2 ^ 53, by decide, by decide⟩
    let b : Integer := ⟨2 ^ 53 + 1, by decide, by decide⟩
    let row (i : Integer) : Record := .ofColumns [("id", i.toJson)]
    a.val < b.val ∧
      (Predicate.compare "id" .eq b.toJson).holds (row a).columns = true ∧
      (Predicate.compare "id" .ne b.toJson).holds (row a).columns = false ∧
      (Predicate.compare "id" .lt b.toJson).holds (row a).columns = false ∧
      (Predicate.oneOf "id" [b.toJson]).holds (row a).columns = true ∧
      (Predicate.noneOf "id" [b.toJson]).holds (row a).columns = false ∧
      sorted [⟨"id", .asc⟩] [row b, row a] = [row b, row a] := by
  refine ⟨by decide, by decide +kernel, by decide +kernel, by decide +kernel,
    by decide +kernel, by decide +kernel, List.mergeSort_of_pairwise ?_⟩
  decide +kernel

/-- The least and the greatest integer are apart, and so are `2 ^ 53` and its predecessor. -/
theorem integers_exact_where_apart_extremes :
    let least : Integer := ⟨-2 ^ 63, by decide, by decide⟩
    let greatest : Integer := ⟨2 ^ 64 - 1, by decide, by decide⟩
    let a : Integer := ⟨2 ^ 53 - 1, by decide, by decide⟩
    let b : Integer := ⟨2 ^ 53, by decide, by decide⟩
    let row (i : Integer) : KeyMap Json := [("id", i.toJson)]
    (∀ op, (Predicate.compare "id" op greatest.toJson).holds (row least) = op.accepts .lt) ∧
      ((Predicate.noneOf "id" [b.toJson, least.toJson]).holds (row a) = true) ∧
      (sorted [⟨"id", .asc⟩] [.ofColumns (row b), .ofColumns (row a)]).Pairwise fun r t =>
        column r.columns "id" = b.toJson → column t.columns "id" ≠ a.toJson := by
  intro least greatest a b row
  obtain ⟨hleast, -, hfar⟩ := integers_exact_where_apart "id" least
  obtain ⟨ha, -, hnear⟩ := integers_exact_where_apart "id" a
  obtain ⟨-, hsort, hback⟩ := integers_exact_where_apart "id" b
  refine ⟨?_, ?_, ?_⟩
  · exact ((hleast (row least) rfl).1 greatest).1.mpr (hfar greatest (.inr (by decide)))
  · refine (((ha (row a) rfl).2 [b, least]).2.mpr (.inr ?_)).mpr (by decide)
    rw [List.forall_mem_cons, List.forall_mem_singleton]
    exact ⟨hnear b (.inl (by decide)), hnear least (.inr (by decide))⟩
  · refine ((hsort []).2 _).imp ?_
    intro r t hle hr ht
    exact absurd (hle a hr ht (hback a (.inl (by decide)))) (by decide)

end Store

end RecordQuery
