import RecordQuery.Json.Order
import RecordQuery.Predicate.Basic

/-!
# Evaluating predicates

A predicate holds of a row or not. An absent column is null, and null compares with
nothing: only a test for null itself, equality or inequality with null, sees it.
-/

namespace RecordQuery

def Comparison.accepts : Comparison → Ordering → Bool
  | .eq, o => o == .eq
  | .ne, o => o != .eq
  | .lt, o => o == .lt
  | .gt, o => o == .gt
  | .le, o => o != .gt
  | .ge, o => o != .lt

/-- The comparison of a column's value with a given one. -/
def Comparison.holds (op : Comparison) (actual expected : Json) : Bool :=
  if expected.isNull then
    match op with
    | .eq => actual.isNull
    | .ne => !actual.isNull
    | _ => false
  else if actual.isNull then false
  else
    match actual.filterOrder? expected with
    | some o => op.accepts o
    | none => false

/-- Between values a comparison asks for an order that it accepts. -/
theorem Comparison.holds_eq_any {actual expected : Json} (ha : actual.isNull = false)
    (hv : expected.isNull = false) (op : Comparison) :
    op.holds actual expected = (actual.filterOrder? expected).any op.accepts := by
  unfold holds
  rw [if_neg (by simp [hv]), if_neg (by simp [ha])]
  cases actual.filterOrder? expected <;> rfl

def Json.filterEq (actual expected : Json) : Bool := actual.filterOrder? expected == some .eq

theorem Json.filterEq_null {actual v : Json} (ha : actual.isNull = false)
    (hv : v.isNull = true) : actual.filterEq v = false := by
  cases v <;> simp [Json.isNull] at hv
  cases actual <;> simp [Json.isNull] at ha <;> rfl

def column (row : KeyMap Json) (field : String) : Json := (KeyMap.get? row field).getD .null

/-- The text that a pattern is matched against. -/
def Json.patternText : Json → Option String
  | .null => none
  | .string s => some s
  | j => some j.text

namespace Predicate

mutual

def holds (row : KeyMap Json) : Predicate → Bool
  | .compare field op value => op.holds (column row field) value
  | .oneOf field values =>
    let actual := column row field
    !actual.isNull && values.any actual.filterEq
  | .noneOf field values =>
    let actual := column row field
    !actual.isNull && values.all fun v => !actual.filterEq v
  | .holdsText field text =>
    match column row field with
    | .array items => items.any fun item => item.same (.string text)
    | j => j.same (.string text)
  | .like field pattern =>
    match (column row field).patternText with
    | some text => Pattern.accepts pattern text
    | none => false
  | .and operands => allHold row operands
  | .or operands => anyHolds row operands

def allHold (row : KeyMap Json) : List Predicate → Bool
  | [] => true
  | p :: rest => holds row p && allHold row rest

def anyHolds (row : KeyMap Json) : List Predicate → Bool
  | [] => false
  | p :: rest => holds row p || anyHolds row rest

end

theorem allHold_eq (row : KeyMap Json) (ps : List Predicate) :
    allHold row ps = ps.all (holds row) := by
  induction ps with
  | nil => rfl
  | cons p rest ih => simp [allHold, ih]

theorem anyHolds_eq (row : KeyMap Json) (ps : List Predicate) :
    anyHolds row ps = ps.any (holds row) := by
  induction ps with
  | nil => rfl
  | cons p rest ih => simp [anyHolds, ih]

theorem holds_conjunction (row : KeyMap Json) (ps : List Predicate) :
    (conjunction ps).holds row = ps.all (·.holds row) := by
  match ps with
  | [] => rfl
  | [p] => simp [conjunction]
  | p :: q :: rest => simp [conjunction, holds, allHold_eq]

theorem holds_disjunction (row : KeyMap Json) (ps : List Predicate) :
    (disjunction ps).holds row = ps.any (·.holds row) := by
  match ps with
  | [] => rfl
  | [p] => simp [disjunction]
  | p :: q :: rest => simp [disjunction, holds, anyHolds_eq]

end Predicate

end RecordQuery
