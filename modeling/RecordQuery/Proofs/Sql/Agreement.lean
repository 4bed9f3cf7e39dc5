import RecordQuery.Proofs.Predicate.Membership
import RecordQuery.Proofs.Sql.Condition

/-!
# The store against SQL

A predicate holds of a row where the condition it is written as is true, except for
exclusions: SQL leaves the exclusion of a list unknown when null is in the list and no value
equals the column, and finds the exclusion of an empty list true of a null column, and the
store decides both the other way. `Settled` is the exact condition under which the two agree.
-/

namespace RecordQuery

namespace SqlCondition

theorem compared_eq (actual v : Json) :
    compared .eq actual v =
      if actual.isNull || v.isNull then .unknown else .ofBool (actual.filterEq v) := by
  unfold compared Json.filterEq
  cases actual.filterOrder? v <;> rfl

theorem compared_eq_yes {actual v : Json} :
    compared .eq actual v = .yes ↔ actual.isNull = false ∧ actual.filterEq v = true := by
  rw [compared_eq]
  cases ha : actual.isNull with
  | true => simp
  | false =>
    cases hv : v.isNull with
    | true => simp [Json.filterEq_null ha hv]
    | false => simp

theorem compared_eq_no {actual v : Json} :
    compared .eq actual v = .no ↔
      actual.isNull = false ∧ v.isNull = false ∧ actual.filterEq v = false := by
  rw [compared_eq]
  cases actual.isNull <;> cases v.isNull <;> simp

theorem present_eq_yes {actual : Json} {holds : Bool} :
    present actual holds = .yes ↔ actual.isNull = false ∧ holds = true := by
  unfold present
  cases actual.isNull <;> simp

end SqlCondition

theorem Comparison.holds_iff_compared {op : Comparison} {actual expected : Json}
    (h : expected.isNull = false) :
    op.holds actual expected = true ↔ SqlCondition.compared op actual expected = .yes := by
  unfold Comparison.holds SqlCondition.compared
  cases actual.isNull with
  | true => simp [h]
  | false => cases actual.filterOrder? expected <;> simp [h]

namespace Predicate

open SqlCondition (compared_eq_yes compared_eq_no present_eq_yes)

-- ---------------------------------------------------------------------------
-- Exclusions
-- ---------------------------------------------------------------------------

mutual

/-- The columns and lists of the exclusions in a predicate. -/
def exclusions : Predicate → List (String × List Json)
  | .noneOf field values => [(field, values)]
  | .and operands => exclusionsAll operands
  | .or operands => exclusionsAll operands
  | _ => []

def exclusionsAll : List Predicate → List (String × List Json)
  | [] => []
  | p :: rest => exclusions p ++ exclusionsAll rest

end

theorem mem_exclusionsAll {e : String × List Json} {ps : List Predicate} :
    e ∈ exclusionsAll ps ↔ ∃ p ∈ ps, e ∈ p.exclusions := by
  induction ps with
  | nil => simp [exclusionsAll]
  | cons p rest ih => simp [exclusionsAll, ih]

theorem forall_exclusionsAll {P : String × List Json → Prop} {ps : List Predicate} :
    (∀ e ∈ exclusionsAll ps, P e) ↔ ∀ p ∈ ps, ∀ e ∈ p.exclusions, P e := by
  constructor
  · exact fun h p hp e he => h e (mem_exclusionsAll.mpr ⟨p, hp, he⟩)
  · intro h e he
    obtain ⟨p, hp, he⟩ := mem_exclusionsAll.mp he
    exact h p hp e he

/-- Null does not come between the column and the list: an empty list is not held against
a null column, and a list with null in it has a value equal to the column. -/
def Settled (row : KeyMap Json) (field : String) (values : List Json) : Prop :=
  (values = [] → (column row field).isNull = false) ∧
    ((column row field).isNull = false → (∃ v ∈ values, v.isNull = true) →
      ∃ v ∈ values, (column row field).filterEq v = true)

theorem truth_inList {row : KeyMap Json} {field : String} {values : List Json} :
    (SqlCondition.inList field values).truth row = .yes ↔
      (column row field).isNull = false ∧
        ∃ v ∈ values, (column row field).filterEq v = true := by
  simp only [SqlCondition.truth, Truth.any_eq_yes, List.mem_map]
  constructor
  · rintro ⟨_, ⟨v, hv, rfl⟩, h⟩
    obtain ⟨ha, heq⟩ := compared_eq_yes.mp h
    exact ⟨ha, v, hv, heq⟩
  · rintro ⟨ha, v, hv, heq⟩
    exact ⟨_, ⟨v, hv, rfl⟩, compared_eq_yes.mpr ⟨ha, heq⟩⟩

theorem truth_not_inList {row : KeyMap Json} {field : String} {values : List Json} :
    (SqlCondition.not (.inList field values)).truth row = .yes ↔
      ∀ v ∈ values, (column row field).isNull = false ∧ v.isNull = false ∧
        (column row field).filterEq v = false := by
  simp only [SqlCondition.truth, Truth.not_eq_yes, Truth.any_eq_no, List.forall_mem_map,
    compared_eq_no]

/-- One exclusion agrees with SQL exactly when it is settled. -/
theorem noneOf_agrees_iff {row : KeyMap Json} {field : String} {values : List Json} :
    ((noneOf field values).holds row = true ↔
      (noneOf field values).condition.truth row = .yes) ↔ Settled row field values := by
  rw [holds_noneOf]
  by_cases hne : values = []
  · subst hne
    simp [condition, SqlCondition.truth, Settled]
  have hcondition : (noneOf field values).condition = .not (.inList field values) := by
    simp [condition, hne]
  rw [hcondition, truth_not_inList]
  cases ha : (column row field).isNull with
  | true =>
    obtain ⟨v, hv⟩ := List.exists_mem_of_ne_nil values hne
    refine iff_of_true (iff_of_false (by simp) fun h => ?_) ⟨fun h => absurd h hne, by simp [ha]⟩
    exact absurd (h v hv).1 (by simp)
  | false =>
    constructor
    · intro hagree
      refine ⟨fun h => absurd h hne, ?_⟩
      rintro - ⟨v, hv, hnull⟩
      -- were no value equal, the store would accept the row and SQL would not
      refine Decidable.byContradiction fun hnone => ?_
      have hall : ∀ u ∈ values, (column row field).filterEq u = false := fun u hu =>
        Bool.eq_false_iff.mpr fun heq => hnone ⟨u, hu, heq⟩
      have := (hagree.mp ⟨rfl, hall⟩ v hv).2.1
      simp [hnull] at this
    · intro hsettled
      constructor
      · rintro ⟨_, hall⟩ v hv
        refine ⟨rfl, Bool.eq_false_iff.mpr fun hnull => ?_, hall v hv⟩
        obtain ⟨u, hu, heq⟩ := hsettled.2 ha ⟨v, hv, hnull⟩
        simp [hall u hu] at heq
      · intro h
        exact ⟨rfl, fun v hv => (h v hv).2.2⟩

-- ---------------------------------------------------------------------------
-- All predicates
-- ---------------------------------------------------------------------------

theorem truth_grouped_and {row : KeyMap Json} {cs : List SqlCondition} :
    (grouped .and true cs).truth row = .yes ↔ ∀ c ∈ cs, c.truth row = .yes := by
  match cs with
  | [] => simp [grouped, SqlCondition.truth]
  | [c] => simp [grouped]
  | c :: d :: rest =>
    simp [grouped, SqlCondition.truth, SqlCondition.truths_eq, Truth.all_eq_yes]

theorem truth_grouped_or {row : KeyMap Json} {cs : List SqlCondition} :
    (grouped .or false cs).truth row = .yes ↔ ∃ c ∈ cs, c.truth row = .yes := by
  match cs with
  | [] => simp [grouped, SqlCondition.truth]
  | [c] => simp [grouped]
  | c :: d :: rest =>
    simp only [grouped, SqlCondition.truth, SqlCondition.truths_eq, Truth.any_eq_yes,
      List.mem_map]
    constructor
    · rintro ⟨_, ⟨e, he, rfl⟩, h⟩
      exact ⟨e, he, h⟩
    · rintro ⟨e, he, h⟩
      exact ⟨_, ⟨e, he, rfl⟩, h⟩

theorem holds_iff_truth {row : KeyMap Json} {p : Predicate}
    (h : ∀ e ∈ p.exclusions, Settled row e.1 e.2) :
    p.holds row = true ↔ p.condition.truth row = .yes := by
  induction p with
  | compare field op value =>
    cases hnull : value.isNull with
    | false => simp [condition, holds, SqlCondition.truth, hnull, Comparison.holds_iff_compared]
    | true =>
      cases op <;>
        simp [condition, nullTest, holds, Comparison.holds, SqlCondition.truth, hnull]
  | oneOf field values =>
    by_cases hne : values = []
    · subst hne
      simp [condition, holds, SqlCondition.truth]
    · have hcondition : (oneOf field values).condition = .inList field values := by
        simp [condition, hne]
      rw [hcondition, truth_inList]
      simp [holds]
  | noneOf field values =>
    exact noneOf_agrees_iff.mpr (h (field, values) (by simp [exclusions]))
  | holdsText field text =>
    rw [condition, SqlCondition.truth, present_eq_yes]
    refine ⟨fun hh => ⟨?_, hh⟩, And.right⟩
    rw [holds] at hh
    cases hcol : column row field <;> simp [hcol, Json.same] at hh <;> rfl
  | like field pattern =>
    rw [condition, SqlCondition.truth, present_eq_yes]
    refine ⟨fun hh => ⟨?_, hh⟩, And.right⟩
    rw [holds] at hh
    cases hcol : column row field <;> simp [hcol, Json.patternText] at hh <;> rfl
  | and operands ih =>
    rw [exclusions, forall_exclusionsAll] at h
    rw [condition, conditions_eq, truth_grouped_and, List.forall_mem_map, holds, allHold_eq,
      List.all_eq_true]
    exact forall_congr' fun p => forall_congr' fun hp => ih p hp (h p hp)
  | or operands ih =>
    rw [exclusions, forall_exclusionsAll] at h
    rw [condition, conditions_eq, truth_grouped_or, holds, anyHolds_eq, List.any_eq_true]
    constructor
    · rintro ⟨p, hp, hh⟩
      exact ⟨_, List.mem_map_of_mem hp, (ih p hp (h p hp)).mp hh⟩
    · rintro ⟨_, hc, hh⟩
      obtain ⟨p, hp, rfl⟩ := List.mem_map.mp hc
      exact ⟨p, hp, (ih p hp (h p hp)).mpr hh⟩

-- ---------------------------------------------------------------------------
-- What the store decides
-- ---------------------------------------------------------------------------

mutual

/-- Every exclusion without null in its list; that of nothing asks for a column. -/
def nullFree : Predicate → Predicate
  | .noneOf field values =>
    let values := values.filter (!·.isNull)
    if values.isEmpty then .compare field .ne .null else .noneOf field values
  | .and operands => .and (nullFreeAll operands)
  | .or operands => .or (nullFreeAll operands)
  | p => p

def nullFreeAll : List Predicate → List Predicate
  | [] => []
  | p :: rest => nullFree p :: nullFreeAll rest

end

theorem nullFreeAll_eq (ps : List Predicate) : nullFreeAll ps = ps.map nullFree := by
  induction ps with
  | nil => rfl
  | cons p rest ih => simp [nullFreeAll, ih]

theorem settled_nullFree (row : KeyMap Json) (p : Predicate) :
    ∀ e ∈ p.nullFree.exclusions, Settled row e.1 e.2 := by
  induction p with
  | noneOf field values =>
    simp only [nullFree]
    split
    · simp [exclusions]
    · next hne =>
      simp only [exclusions, List.mem_singleton, forall_eq]
      refine ⟨fun h => absurd h (by simpa using hne), ?_⟩
      rintro - ⟨v, hv, hnull⟩
      simp [hnull] at hv
  | and operands ih =>
    rw [nullFree, exclusions, forall_exclusionsAll, nullFreeAll_eq, List.forall_mem_map]
    exact ih
  | or operands ih =>
    rw [nullFree, exclusions, forall_exclusionsAll, nullFreeAll_eq, List.forall_mem_map]
    exact ih
  | _ => simp [nullFree, exclusions]

theorem holds_ne_null {row : KeyMap Json} {field : String} :
    (compare field .ne .null).holds row = true ↔ (column row field).isNull = false := by
  rw [holds, Comparison.holds, if_pos (by rfl), Bool.not_eq_true']

theorem holds_nullFree (row : KeyMap Json) (p : Predicate) :
    p.nullFree.holds row = p.holds row := by
  induction p with
  | noneOf field values =>
    have hall (ha : (column row field).isNull = false) :
        (∀ v ∈ values.filter (!·.isNull), (column row field).filterEq v = false) ↔
          ∀ v ∈ values, (column row field).filterEq v = false := by
      refine ⟨fun h v hv => ?_, fun h v hv => h v (List.mem_filter.mp hv).1⟩
      cases hnull : v.isNull with
      | true => exact Json.filterEq_null ha hnull
      | false => exact h v (List.mem_filter.mpr ⟨hv, by simp [hnull]⟩)
    rw [Bool.eq_iff_iff, holds_noneOf]
    simp only [nullFree]
    split
    · next hempty =>
      rw [List.isEmpty_iff] at hempty
      rw [hempty] at hall
      rw [holds_ne_null, ← and_congr_right hall]
      simp
    · rw [holds_noneOf]
      exact and_congr_right hall
  | and operands ih =>
    rw [nullFree, holds, holds, allHold_eq, allHold_eq, nullFreeAll_eq, Bool.eq_iff_iff,
      List.all_eq_true, List.all_eq_true, List.forall_mem_map]
    exact forall_congr' fun p => forall_congr' fun hp => by rw [ih p hp]
  | or operands ih =>
    rw [nullFree, holds, holds, anyHolds_eq, anyHolds_eq, nullFreeAll_eq, List.any_map,
      Bool.eq_iff_iff, List.any_eq_true, List.any_eq_true]
    exact exists_congr fun p => and_congr_right fun hp => by rw [Function.comp, ih p hp]
  | _ => rw [nullFree] <;> simp

/-- How a predicate is written, with literals and with bound arguments, is one condition. The
store finds the predicate to hold of a row exactly when the condition of `nullFree` is true,
and so the predicate's own condition where all its exclusions are settled. A single exclusion
that is not settled is answered differently. -/
theorem agrees_with_sql_iff_settled (p : Predicate) (row : KeyMap Json) :
    p.sql = p.condition.template.text ∧
    (∀ schema q, p.bind schema q = p.condition.template.bind schema q) ∧
    (p.holds row = true ↔ p.nullFree.condition.truth row = .yes) ∧
    ((∀ e ∈ p.exclusions, Settled row e.1 e.2) →
      (p.holds row = true ↔ p.condition.truth row = .yes)) ∧
    ∀ field values, p = .noneOf field values →
      ((p.holds row = true ↔ p.condition.truth row = .yes) ↔ Settled row field values) := by
  refine ⟨(text_condition p).symm, fun schema q => (bind_condition p schema q).symm, ?_,
    holds_iff_truth, ?_⟩
  · rw [← holds_nullFree]
    exact holds_iff_truth (settled_nullFree row p)
  · rintro field values rfl
    exact noneOf_agrees_iff

/-- The exclusion of null from a list is unknown in SQL, and the store accepts the row; the
exclusion of an empty list is true in SQL, and the store refuses a null column. -/
theorem noneOf_differs_from_sql :
    let row : KeyMap Json := [("age", .word 1), ("team_id", .null)]
    ((noneOf "age" [.null]).sql = "NOT (age IN (NULL))" ∧
      (noneOf "age" [.null]).holds row = true ∧
      (noneOf "age" [.null]).condition.truth row = .unknown) ∧
    (noneOf "team_id" []).sql = "1=1" ∧
      (noneOf "team_id" []).holds row = false ∧
      (noneOf "team_id" []).condition.truth row = .yes := by
  decide

/-- An exclusion within a disjunction, settled by a value that equals the column. -/
theorem agrees_with_sql_iff_settled_beside_null :
    let row : KeyMap Json := [("age", .word 1), ("team_id", .null)]
    let p := Predicate.or [noneOf "age" [.null, .word 1], compare "team_id" .eq .null]
    (∀ e ∈ p.exclusions, Settled row e.1 e.2) ∧
      (p.holds row = true ↔ p.condition.truth row = .yes) := by
  intro row p
  have hsettled : ∀ e ∈ p.exclusions, Settled row e.1 e.2 := by
    intro e he
    obtain rfl : e = ("age", [.null, .word 1]) := by
      simpa [p, exclusions, exclusionsAll] using he
    exact ⟨nofun, fun _ _ => ⟨.word 1, by simp, by decide +kernel⟩⟩
  exact ⟨hsettled, (agrees_with_sql_iff_settled p row).2.2.2.1 hsettled⟩

end Predicate

end RecordQuery
