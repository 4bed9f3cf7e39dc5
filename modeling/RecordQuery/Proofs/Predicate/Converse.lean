import RecordQuery.Predicate.Evaluation
import RecordQuery.Proofs.Json.EitherSide

/-!
# Comparisons and their converses

To exchange the sides of a comparison is to take its converse: less becomes greater, and equality
stays. The comparisons that allow equality are the strict ones or equality, and of less, equal and
greater no two hold together.
-/

namespace RecordQuery

namespace Comparison

/-- The comparison that says the same of the values with their sides exchanged. -/
def converse : Comparison → Comparison
  | eq => eq
  | ne => ne
  | lt => gt
  | gt => lt
  | le => ge
  | ge => le

theorem converse_accepts_swap (op : Comparison) (o : Ordering) :
    op.converse.accepts o.swap = op.accepts o := by
  cases op <;> cases o <;> rfl

theorem le_accepts (o : Ordering) : le.accepts o = (lt.accepts o || eq.accepts o) := by
  cases o <;> rfl

/-- An order is accepted by no two of less, equal and greater. -/
theorem accepts_exclusive (o : Ordering) :
    [lt, eq, gt].Pairwise fun op other => ¬ (op.accepts o = true ∧ other.accepts o = true) := by
  cases o <;> decide

section
variable {a b : Json} (ha : a.isNull = false) (hb : b.isNull = false)
include ha hb

theorem holds_converse (op : Comparison) : op.holds a b = op.converse.holds b a := by
  rw [holds_eq_any ha hb, holds_eq_any hb ha, Json.filterOrder?_swap a b, Option.any_map]
  simp only [converse_accepts_swap]

theorem le_holds : le.holds a b = (lt.holds a b || eq.holds a b) := by
  simp only [holds_eq_any ha hb]
  cases a.filterOrder? b with
  | none => rfl
  | some o => exact le_accepts o

theorem ge_holds : ge.holds a b = (gt.holds a b || eq.holds a b) := by
  calc ge.holds a b = le.holds b a := holds_converse ha hb ge
    _ = (lt.holds b a || eq.holds b a) := le_holds hb ha
    _ = (gt.holds a b || eq.holds a b) := by
      rw [holds_converse ha hb gt, holds_converse ha hb eq, converse, converse]

theorem holds_exclusive :
    [lt, eq, gt].Pairwise fun op other => ¬ (op.holds a b = true ∧ other.holds a b = true) := by
  simp only [holds_eq_any ha hb]
  cases a.filterOrder? b with
  | none => exact List.pairwise_of_forall fun _ _ h => Bool.noConfusion h.1
  | some o => exact accepts_exclusive o

end

/-- The order that a filter finds between two values is turned round when they are exchanged, and
there is none one way where there is none the other way. Every value equals itself. So a
comparison of two values holds exactly when its converse holds of them exchanged; less or equal is
less or is equal, and so for greater; and of less, equal and greater no two hold together. -/
theorem filter_order_oriented (a b : Json) :
    b.filterOrder? a = (a.filterOrder? b).map Ordering.swap ∧
      a.filterOrder? a = some .eq ∧
      (a.isNull = false → b.isNull = false →
        (∀ op : Comparison, op.holds a b = op.converse.holds b a) ∧
        le.holds a b = (lt.holds a b || eq.holds a b) ∧
        ge.holds a b = (gt.holds a b || eq.holds a b) ∧
        [lt, eq, gt].Pairwise fun op other =>
          ¬ (op.holds a b = true ∧ other.holds a b = true)) := by
  refine ⟨Json.filterOrder?_swap a b, Json.filterOrder?_self a, fun ha hb => ⟨?_, ?_, ?_, ?_⟩⟩
  · exact holds_converse ha hb
  · exact le_holds ha hb
  · exact ge_holds ha hb
  · exact holds_exclusive ha hb

/-- A text that denotes infinity is greater than the greatest integer, and the integer is less than
the text. -/
theorem filter_order_oriented_infinity :
    let a : Json := .string " 1e999"
    let b : Json := .int 18446744073709551615
    (a.isNull = false ∧ b.isNull = false) ∧ a.filterOrder? b = some .gt ∧
      b.filterOrder? a = some .lt ∧ lt.holds b a = true ∧ ge.holds a b = true ∧
      eq.holds a b = false := by
  intro a b
  have hgt : a.filterOrder? b = some .gt := by decide +kernel
  have hholds : gt.holds a b = true := by decide +kernel
  obtain ⟨hswap, -, hnull⟩ := filter_order_oriented a b
  obtain ⟨hconverse, -, hge, hexclusive⟩ := hnull rfl rfl
  refine ⟨⟨rfl, rfl⟩, hgt, ?_, ?_, ?_, ?_⟩
  · rw [hswap, hgt]
    rfl
  · rw [← hholds]
    exact (hconverse gt).symm
  · rw [hge, hholds]
    rfl
  · rw [← Bool.not_eq_true]
    intro heq
    simp [hholds, heq] at hexclusive

end Comparison

end RecordQuery
