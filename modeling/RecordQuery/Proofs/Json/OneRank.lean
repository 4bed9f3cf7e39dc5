import RecordQuery.Proofs.Json.FilterOrder
import RecordQuery.Proofs.Json.SortOrder

/-!
# Scalars of one rank

Filters compare two scalars of one rank as a sort places them, except that the two zeros are one
number to a filter. So a filter never puts a value below another that a sort places after it.
-/

namespace RecordQuery

/-- A float that a filter takes for less comes before in a sort. -/
theorem Binary64.totalKey_lt_of_key_lt {x y : Binary64} (h : x.key < y.key) :
    x.totalKey < y.totalKey := by
  unfold key at h
  unfold totalKey
  cases hx : x.negative <;> cases hy : y.negative <;>
    simp only [hx, hy, if_true, Bool.false_eq_true, if_false] at h ⊢ <;> omega

namespace Json

/-- The place of a value among those of its rank as filters see it. -/
def filterPlace : Json → SortPlace
  | .number n => { rank := 2, number := n.toBinary64.key }
  | v => v.sortPlace

@[simp] theorem filterPlace_bool (b : Bool) :
    (Json.bool b).filterPlace = (Json.bool b).sortPlace := rfl

@[simp] theorem filterPlace_string (s : String) :
    (Json.string s).filterPlace = (Json.string s).sortPlace := rfl

theorem sortRank_string (s : String) :
    3 ≤ (Json.string s).sortRank ∧ (Json.string s).sortRank ≤ 4 := by
  by_cases h : (Instant.parse? s).isSome <;> simp [sortRank, h]

section
variable {a b : Json} (ha : a.isScalar = true) (hrank : a.sortRank = b.sortRank)
include ha hrank

/-- Scalars of one rank are of one kind. -/
theorem scalars_of_rank :
    (∃ x y, a = .bool x ∧ b = .bool y) ∨ (∃ m n, a = .number m ∧ b = .number n) ∨
      ∃ s t, a = .string s ∧ b = .string t := by
  cases a with
  | bool x =>
    cases b with
    | bool y => exact .inl ⟨x, y, rfl, rfl⟩
    | string t =>
      have ht := sortRank_string t
      rw [← hrank] at ht
      simp [sortRank] at ht
    | _ => exact absurd hrank (by simp [sortRank])
  | number m =>
    cases b with
    | number n => exact .inr (.inl ⟨m, n, rfl, rfl⟩)
    | string t =>
      have ht := sortRank_string t
      rw [← hrank] at ht
      simp [sortRank] at ht
    | _ => exact absurd hrank (by simp [sortRank])
  | string s =>
    cases b with
    | string t => exact .inr (.inr ⟨s, t, rfl, rfl⟩)
    | _ =>
      have hs := sortRank_string s
      rw [hrank] at hs
      simp [sortRank] at hs
  | _ => cases ha

theorem isScalar_of_rank : b.isScalar = true := by
  obtain ⟨x, y, rfl, rfl⟩ | ⟨m, n, rfl, rfl⟩ | ⟨s, t, rfl, rfl⟩ := scalars_of_rank ha hrank
  all_goals rfl

theorem filterOrder?_of_rank :
    a.filterOrder? b = some (compare a.filterPlace b.filterPlace) := by
  obtain ⟨x, y, rfl, rfl⟩ | ⟨m, n, rfl, rfl⟩ | ⟨s, t, rfl, rfl⟩ := scalars_of_rank ha hrank
  · cases x <;> cases y <;> rfl
  · simp [filterOrder?, filterPlace, SortPlace.compare_eq, Number.order]
  · simp [filterOrder?, textOrder_eq hrank]

/-- What a filter puts below comes before in a sort. -/
theorem sortPlace_lt (h : compare a.filterPlace b.filterPlace = .lt) :
    compare a.sortPlace b.sortPlace = .lt := by
  obtain ⟨x, y, rfl, rfl⟩ | ⟨m, n, rfl, rfl⟩ | ⟨s, t, rfl, rfl⟩ := scalars_of_rank ha hrank
  · simpa using h
  · simp only [filterPlace, sortPlace, SortPlace.compare_eq, Std.ReflOrd.compare_self,
      Ordering.eq_then, Ordering.then_eq, Int.compare_eq_lt] at h ⊢
    exact Binary64.totalKey_lt_of_key_lt h
  · simpa using h

theorem sortPlace_gt (h : compare a.filterPlace b.filterPlace = .gt) :
    compare a.sortPlace b.sortPlace = .gt := by
  rw [Std.OrientedCmp.gt_iff_lt] at h ⊢
  exact sortPlace_lt (isScalar_of_rank ha hrank) hrank.symm h

theorem filterPlace_isLE (h : (compare a.sortPlace b.sortPlace).isLE = true) :
    (compare a.filterPlace b.filterPlace).isLE = true := by
  rw [Ordering.isLE_iff_ne_gt] at h ⊢
  exact mt (sortPlace_gt ha hrank) h

theorem sortOrder_of_rank :
    sortOrder (some a) (some b) = compare a.sortPlace b.sortPlace := by
  obtain ⟨x, y, rfl, rfl⟩ | ⟨m, n, rfl, rfl⟩ | ⟨s, t, rfl, rfl⟩ := scalars_of_rank ha hrank
  all_goals exact sortOrder_eq ..

end

end Json

end RecordQuery
