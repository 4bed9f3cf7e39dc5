import Mathlib.Data.List.Forall2
import RecordQuery.Predicate.Evaluation
import RecordQuery.Proofs.Number.Integers

/-!
# Literals and their texts

Typed JSON has integers and truth values where a query string has their texts. A literal may
be exchanged for its text wherever the column is null, absent or of the literal's kind: a
predicate holds of the same rows before and after.
-/

namespace RecordQuery

namespace Json

/-- The integers and truth values, each with the text that stands for it. -/
inductive Spelled : Json → String → Prop
  | integer (i : Integer) : Spelled (.number (.int i)) (toString i.val)
  | boolean (b : Bool) : Spelled (.bool b) (boolText b)

/-- The value of a column is null or of the literal's kind. -/
def meets : Json → Json → Bool
  | .null, _ => true
  | .number _, .number _ => true
  | .bool _, .bool _ => true
  | _, _ => false

/-- A column's value is ordered against both in the same way, or against neither. -/
structure Interchangeable (actual v w : Json) : Prop where
  isNull : v.isNull = w.isNull
  order : actual.isNull = false → actual.filterOrder? v = actual.filterOrder? w

theorem Interchangeable.refl (actual v : Json) : Interchangeable actual v v :=
  ⟨rfl, fun _ => rfl⟩

theorem Spelled.isNull {v : Json} {s : String} (h : Spelled v s) : v.isNull = false := by
  cases h <;> rfl

/-- The float that the text denotes is the one that the integer is rounded to. -/
theorem Number.orderText?_toString (x : Number) (i : Integer) :
    x.orderText? (toString i.val) = some (x.order (.int i)) := by
  rw [orderText?, Numeral.trim_toString, i.real?_toString]
  rfl

theorem truth?_boolText (b : Bool) : truth? (boolText b) = some b := by
  cases b <;> decide +kernel

theorem Spelled.interchangeable {actual v : Json} {s : String} (h : Spelled v s)
    (hmeets : actual.meets v = true) : Interchangeable actual v (.string s) := by
  refine ⟨h.isNull, fun hactual => ?_⟩
  cases h with
  | integer i =>
    cases actual with
    | null => cases hactual
    | number x => exact (x.orderText?_toString i).symm
    | _ => cases hmeets
  | boolean b =>
    cases actual with
    | null => cases hactual
    | bool a =>
      show _ = (truth? (boolText b)).map _
      rw [truth?_boolText]
      rfl
    | _ => cases hmeets

namespace Interchangeable

theorem map_filterEq {actual : Json} {vs ws : List Json} (hactual : actual.isNull = false)
    (h : List.Forall₂ (Interchangeable actual) vs ws) :
    vs.map actual.filterEq = ws.map actual.filterEq := by
  induction h with
  | nil => rfl
  | @cons v w _ _ hv _ ih =>
    have hhead : actual.filterEq v = actual.filterEq w := by
      rw [filterEq, filterEq, hv.order hactual]
    rw [List.map_cons, List.map_cons, hhead, ih]

end Interchangeable

end Json

-- ---------------------------------------------------------------------------
-- One comparison
-- ---------------------------------------------------------------------------

namespace Predicate

variable {row : KeyMap Json} {field : String}

theorem holds_compare_congr {v w : Json} (op : Comparison)
    (h : (column row field).Interchangeable v w) :
    (compare field op v).holds row = (compare field op w).holds row := by
  simp only [holds, Comparison.holds, h.isNull]
  split
  · rfl
  · cases hactual : (column row field).isNull with
    | true => rfl
    | false => rw [h.order hactual]

theorem holds_oneOf_congr {vs ws : List Json}
    (h : List.Forall₂ (column row field).Interchangeable vs ws) :
    (oneOf field vs).holds row = (oneOf field ws).holds row := by
  simp only [holds]
  cases hactual : (column row field).isNull with
  | true => rfl
  | false =>
    have hmap := Json.Interchangeable.map_filterEq hactual h
    simpa [List.any_map] using congrArg (List.any · id) hmap

theorem holds_noneOf_congr {vs ws : List Json}
    (h : List.Forall₂ (column row field).Interchangeable vs ws) :
    (noneOf field vs).holds row = (noneOf field ws).holds row := by
  simp only [holds]
  cases hactual : (column row field).isNull with
  | true => rfl
  | false =>
    have hmap := Json.Interchangeable.map_filterEq hactual h
    simpa [List.all_map, Function.comp_def] using congrArg (List.all · (!·)) hmap

end Predicate

-- ---------------------------------------------------------------------------
-- Predicates
-- ---------------------------------------------------------------------------

/-- A value that a column is compared with stays, or it is a literal of the column's kind and
becomes its text. -/
inductive Json.Retyped (actual : Json) : Json → Json → Prop
  | same (v : Json) : Retyped actual v v
  | text {v : Json} {s : String} : Spelled v s → actual.meets v → Retyped actual v (.string s)

theorem Json.Retyped.interchangeable {actual v w : Json} (h : Json.Retyped actual v w) :
    actual.Interchangeable v w := by
  cases h with
  | same => exact .refl actual v
  | text hspelled hmeets => exact hspelled.interchangeable hmeets

namespace Predicate

/-- Any of the literals in the comparisons and memberships have become texts, where the row's
column is null or of the literal's kind. -/
inductive Retyped (row : KeyMap Json) : Predicate → Predicate → Prop
  | compare (field : String) (op : Comparison) {v w : Json} :
    Json.Retyped (column row field) v w → Retyped row (.compare field op v) (.compare field op w)
  | oneOf (field : String) {vs ws : List Json} :
    List.Forall₂ (Json.Retyped (column row field)) vs ws →
      Retyped row (.oneOf field vs) (.oneOf field ws)
  | noneOf (field : String) {vs ws : List Json} :
    List.Forall₂ (Json.Retyped (column row field)) vs ws →
      Retyped row (.noneOf field vs) (.noneOf field ws)
  | holdsText (field text : String) : Retyped row (.holdsText field text) (.holdsText field text)
  | like (field pattern : String) : Retyped row (.like field pattern) (.like field pattern)
  | and {ps qs : List Predicate} :
    List.Forall₂ (Retyped row) ps qs → Retyped row (.and ps) (.and qs)
  | or {ps qs : List Predicate} :
    List.Forall₂ (Retyped row) ps qs → Retyped row (.or ps) (.or qs)

variable {row : KeyMap Json}

theorem Retyped.map_holds {ps qs : List Predicate} (h : List.Forall₂ (Retyped row) ps qs)
    (ih : ∀ p ∈ ps, ∀ q, p.Retyped row q → p.holds row = q.holds row) :
    ps.map (holds row) = qs.map (holds row) := by
  induction h with
  | nil => rfl
  | cons hp _ ihrest =>
    obtain ⟨ihp, ihps⟩ := List.forall_mem_cons.mp ih
    rw [List.map_cons, List.map_cons, ihp _ hp, ihrest ihps]

/-- Whatever stands around a literal and whatever around its text, they hold of the row alike. -/
theorem Retyped.holds_eq {p q : Predicate} (h : p.Retyped row q) : p.holds row = q.holds row := by
  induction p generalizing q with
  | compare field op v =>
    cases h with
    | compare _ _ hv => exact holds_compare_congr op hv.interchangeable
  | oneOf field vs =>
    cases h with
    | oneOf _ hvs => exact holds_oneOf_congr (hvs.imp fun _ _ hv => hv.interchangeable)
  | noneOf field vs =>
    cases h with
    | noneOf _ hvs => exact holds_noneOf_congr (hvs.imp fun _ _ hv => hv.interchangeable)
  | holdsText field text =>
    cases h
    rfl
  | like field pattern =>
    cases h
    rfl
  | and ps ih =>
    cases h with
    | and hps =>
      have hmap := Retyped.map_holds hps fun p hp q => ih p hp
      simpa [holds, allHold_eq, List.all_map] using congrArg (List.all · id) hmap
  | or ps ih =>
    cases h with
    | or hps =>
      have hmap := Retyped.map_holds hps fun p hp q => ih p hp
      simpa [holds, anyHolds_eq, List.any_map] using congrArg (List.any · id) hmap

end Predicate

end RecordQuery
