import RecordQuery.Predicate.Evaluation
import RecordQuery.Proofs.Json.FilterOrder

/-!
# Equality and membership

A membership is a disjunction of equalities and an exclusion the denial of all of them.
Inequality is stricter than the denial of equality: it also asks that the column can be
compared with the value. So the exclusion of a value and inequality with it part where the two
cannot be compared.
-/

namespace RecordQuery

theorem Comparison.holds_eq {actual v : Json} (ha : actual.isNull = false)
    (hv : v.isNull = false) : Comparison.eq.holds actual v = actual.filterEq v := by
  rw [Comparison.holds_eq_any ha hv, Json.filterEq]
  cases actual.filterOrder? v <;> rfl

theorem Comparison.holds_ne {actual v : Json} (ha : actual.isNull = false)
    (hv : v.isNull = false) :
    Comparison.ne.holds actual v = true ↔ actual.Comparable v ∧ actual.filterEq v = false := by
  rw [← Json.filterOrder?_isSome, Comparison.holds_eq_any ha hv, Json.filterEq]
  cases actual.filterOrder? v <;> simp [Comparison.accepts]

namespace Predicate

variable {row : KeyMap Json} {field : String}

theorem holds_oneOf {values : List Json} :
    (oneOf field values).holds row = true ↔
      (column row field).isNull = false ∧
        ∃ v ∈ values, (column row field).filterEq v = true := by
  simp [holds]

theorem holds_noneOf {values : List Json} :
    (noneOf field values).holds row = true ↔
      (column row field).isNull = false ∧
        ∀ v ∈ values, (column row field).filterEq v = false := by
  simp [holds]

section
variable (hcolumn : (column row field).isNull = false)
include hcolumn

theorem oneOf_iff_eq {values : List Json} (hvalues : ∀ v ∈ values, v.isNull = false) :
    (oneOf field values).holds row = true ↔
      ∃ v ∈ values, (compare field .eq v).holds row = true := by
  rw [holds_oneOf, and_iff_right hcolumn]
  refine exists_congr fun v => and_congr_right fun hv => ?_
  rw [holds, Comparison.holds_eq hcolumn (hvalues v hv)]

theorem noneOf_iff_eq {values : List Json} (hvalues : ∀ v ∈ values, v.isNull = false) :
    (noneOf field values).holds row = true ↔
      ∀ v ∈ values, ¬ (compare field .eq v).holds row = true := by
  rw [holds_noneOf, and_iff_right hcolumn]
  refine forall₂_congr fun v hv => ?_
  rw [holds, Comparison.holds_eq hcolumn (hvalues v hv), Bool.not_eq_true]

theorem ne_iff_eq {v : Json} (hv : v.isNull = false) :
    (compare field .ne v).holds row = true ↔
      (column row field).Comparable v ∧ ¬ (compare field .eq v).holds row = true := by
  rw [holds, Comparison.holds_ne hcolumn hv, holds, Comparison.holds_eq hcolumn hv,
    Bool.not_eq_true]

/-- A value that equals the column can be compared with it. -/
theorem comparable_of_eq {v : Json} (hv : v.isNull = false)
    (h : (compare field .eq v).holds row = true) : (column row field).Comparable v := by
  rw [holds, Comparison.holds_eq hcolumn hv, Json.filterEq, beq_iff_eq] at h
  rw [← Json.filterOrder?_isSome, h]
  rfl

/-- An exclusion and the inequalities part where some value cannot be compared with the column
and none equals it. -/
theorem noneOf_iff_ne {values : List Json} (hvalues : ∀ v ∈ values, v.isNull = false) :
    ((noneOf field values).holds row = true ↔
        ∀ v ∈ values, (compare field .ne v).holds row = true) ↔
      (∀ v ∈ values, (column row field).Comparable v) ∨
        ∃ v ∈ values, (compare field .eq v).holds row = true := by
  have hne : (∀ v ∈ values, (compare field .ne v).holds row = true) ↔
      ∀ v ∈ values, (column row field).Comparable v ∧ ¬ (compare field .eq v).holds row = true :=
    forall₂_congr fun v hv => ne_iff_eq hcolumn (hvalues v hv)
  rw [noneOf_iff_eq hcolumn hvalues, hne]
  constructor
  · intro h
    by_cases heq : ∃ v ∈ values, (compare field .eq v).holds row = true
    · exact .inr heq
    · exact .inl fun v hv => (h.mp (fun w hw he => heq ⟨w, hw, he⟩) v hv).1
  · rintro (hall | ⟨v, hv, heq⟩)
    · exact ⟨fun h v hv => ⟨hall v hv, h v hv⟩, fun h v hv => (h v hv).2⟩
    · exact ⟨fun h => absurd heq (h v hv), fun h => absurd heq (h v hv).2⟩

end

/-- On a column that is not null a membership is the disjunction of the equalities, and an
exclusion denies each of them. Inequality with a value is the denial of equality, and the
exclusion of the value, exactly where the column can be compared with it; the exclusion of
several values is the conjunction of the inequalities exactly where it can be compared with
each of them or equals one. -/
theorem memberships_follow_equality (row : KeyMap Json) (field : String)
    (hcolumn : (column row field).isNull = false) :
    (∀ v, v.isNull = false →
      (((compare field .ne v).holds row = true ↔ ¬ (compare field .eq v).holds row = true) ↔
        (column row field).Comparable v) ∧
      ((oneOf field [v]).holds row = true ↔ (compare field .eq v).holds row = true) ∧
      (((noneOf field [v]).holds row = true ↔ (compare field .ne v).holds row = true) ↔
        (column row field).Comparable v)) ∧
    ∀ vs, (∀ v ∈ vs, v.isNull = false) →
      ((oneOf field vs).holds row = true ↔
        ∃ v ∈ vs, (compare field .eq v).holds row = true) ∧
      ((noneOf field vs).holds row = true ↔
        ∀ v ∈ vs, ¬ (compare field .eq v).holds row = true) ∧
      (((noneOf field vs).holds row = true ↔
          ∀ v ∈ vs, (compare field .ne v).holds row = true) ↔
        (∀ v ∈ vs, (column row field).Comparable v) ∨
          ∃ v ∈ vs, (compare field .eq v).holds row = true) := by
  refine ⟨fun v hv => ⟨?_, ?_, ?_⟩, fun vs hvs =>
    ⟨oneOf_iff_eq hcolumn hvs, noneOf_iff_eq hcolumn hvs, noneOf_iff_ne hcolumn hvs⟩⟩
  · rw [ne_iff_eq hcolumn hv]
    constructor
    · intro h
      by_cases heq : (compare field .eq v).holds row = true
      · exact comparable_of_eq hcolumn hv heq
      · exact (h.mpr heq).1
    · intro h
      exact and_iff_right h
  · simpa using oneOf_iff_eq hcolumn (List.forall_mem_singleton.mpr hv)
  · have hlist := noneOf_iff_ne hcolumn (List.forall_mem_singleton.mpr hv)
    simp only [List.mem_singleton, forall_eq, exists_eq_left] at hlist
    exact hlist.trans (or_iff_left_of_imp (comparable_of_eq hcolumn hv))

/-- A number cannot be compared with a text that is no numeral: neither equality nor inequality
holds, and the exclusion does. -/
theorem ne_differs_from_noneOf :
    let row : KeyMap Json := [("name", .string "n1")]
    (column row "name").isNull = false ∧
      (compare "name" .eq (.word 42)).holds row = false ∧
      (compare "name" .ne (.word 42)).holds row = false ∧
      (noneOf "name" [.word 42]).holds row = true := by
  decide +kernel

/-- Of two values one cannot be compared with the column, but the other equals it, so the
exclusion and the inequalities agree; the first value alone shows the difference. -/
theorem memberships_follow_equality_beside_equal :
    let row : KeyMap Json := [("age", .word 18)]
    (((noneOf "age" [.string "n1", .string " 18"]).holds row = true ↔
        ∀ v ∈ [Json.string "n1", .string " 18"], (compare "age" .ne v).holds row = true)) ∧
      ¬ (((noneOf "age" [.string "n1"]).holds row = true ↔
        (compare "age" .ne (.string "n1")).holds row = true)) := by
  intro row
  have hcolumn : (column row "age").isNull = false := rfl
  have hequal : (compare "age" .eq (.string " 18")).holds row = true := by decide +kernel
  have hapart : ((column row "age").filterOrder? (.string "n1")).isSome = false := by
    decide +kernel
  constructor
  · refine ((memberships_follow_equality row "age" hcolumn).2 _ ?_).2.2.mpr ?_
    · simp [Json.isNull]
    · exact .inr ⟨_, by simp, hequal⟩
  · rw [((memberships_follow_equality row "age" hcolumn).1 (.string "n1") rfl).2.2,
      ← Json.filterOrder?_isSome, hapart]
    exact Bool.false_ne_true

end Predicate

end RecordQuery
