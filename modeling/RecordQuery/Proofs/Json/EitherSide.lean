import RecordQuery.Proofs.Json.FilterOrder
import RecordQuery.Proofs.Json.SortOrder

/-!
# Comparing from either side

A filter compares two values alike whichever of them stands first: exchanging them turns the order
round, and values that cannot be compared one way cannot be compared the other way. A text beside a
number is the number that it denotes, and beside a truth value the truth value that it is a word
for, on either side. Every value equals itself.
-/

namespace RecordQuery

open Binary64 (Extended)

/-- Nothing is ordered with NaN from either side. -/
theorem Binary64.Extended.compare?_swap (x y : Extended) :
    y.compare? x = (x.compare? y).map Ordering.swap := by
  unfold Extended.compare?
  cases x.key? with
  | none => cases y.key? <;> rfl
  | some i =>
    cases y.key? with
    | none => rfl
    | some j => exact congrArg some Std.OrientedOrd.eq_swap

namespace Json

-- ---------------------------------------------------------------------------
-- Structural equality
-- ---------------------------------------------------------------------------

theorem Number.same_refl (n : Number) : n.same n = true := by
  cases n <;> exact beq_self_eq_true _

theorem Number.same_comm (m n : Number) : m.same n = n.same m := by
  cases m <;> cases n
  case int.int i j => exact Bool.beq_comm
  case float.float x y => exact Bool.beq_comm
  all_goals rfl

theorem sameItems_refl {items : List Json} (h : ∀ v ∈ items, v.same v = true) :
    sameItems items items = true := by
  induction items with
  | nil => rfl
  | cons v rest ih =>
    obtain ⟨hv, hrest⟩ := List.forall_mem_cons.mp h
    rw [sameItems, hv, ih hrest, Bool.and_self]

theorem sameMembers_refl {members : List (String × Json)}
    (h : ∀ m ∈ members, m.2.same m.2 = true) : sameMembers members members = true := by
  induction members with
  | nil => rfl
  | cons m rest ih =>
    obtain ⟨hm, hrest⟩ := List.forall_mem_cons.mp h
    rw [sameMembers, beq_self_eq_true, hm, ih hrest, Bool.and_self, Bool.and_self]

theorem same_refl (v : Json) : v.same v = true := by
  induction v using induct with
  | null => rfl
  | bool b => exact beq_self_eq_true b
  | number n => exact n.same_refl
  | string s => exact beq_self_eq_true s
  | array items ih => exact sameItems_refl ih
  | object members ih => exact sameMembers_refl ih

theorem sameItems_comm {xs : List Json} (h : ∀ v ∈ xs, ∀ w : Json, v.same w = w.same v)
    (ys : List Json) : sameItems xs ys = sameItems ys xs := by
  induction xs generalizing ys with
  | nil => cases ys <;> rfl
  | cons x xs ih =>
    obtain ⟨hx, hxs⟩ := List.forall_mem_cons.mp h
    cases ys with
    | nil => rfl
    | cons y ys => rw [sameItems, sameItems, hx y, ih hxs ys]

theorem sameMembers_comm {ms : List (String × Json)}
    (h : ∀ m ∈ ms, ∀ w : Json, m.2.same w = w.same m.2) (ns : List (String × Json)) :
    sameMembers ms ns = sameMembers ns ms := by
  induction ms generalizing ns with
  | nil => cases ns <;> rfl
  | cons m ms ih =>
    obtain ⟨hm, hms⟩ := List.forall_mem_cons.mp h
    cases ns with
    | nil => rfl
    | cons n ns => rw [sameMembers, sameMembers, hm n.2, ih hms ns, Bool.beq_comm]

theorem same_comm (v w : Json) : v.same w = w.same v := by
  induction v using induct generalizing w with
  | null => cases w <;> rfl
  | bool b =>
    cases w with
    | bool c => exact Bool.beq_comm
    | _ => rfl
  | number n =>
    cases w with
    | number m => exact n.same_comm m
    | _ => rfl
  | string s =>
    cases w with
    | string t => exact Bool.beq_comm
    | _ => rfl
  | array items ih =>
    cases w with
    | array others => exact sameItems_comm ih others
    | _ => rfl
  | object members ih =>
    cases w with
    | object others => exact sameMembers_comm ih others
    | _ => rfl

-- ---------------------------------------------------------------------------
-- What a value is beside another
-- ---------------------------------------------------------------------------

/-- The number that a value is taken for beside a number. -/
def asNumber? : Json → Option Extended
  | .number x => some (.finite x.toBinary64)
  | .string s => Numeral.real? (Text.trim s)
  | _ => none

/-- The truth value that a value is taken for beside a truth value. -/
def asTruth? : Json → Option Bool
  | .bool b => some b
  | .string s => truth? s
  | _ => none

theorem filterOrder?_number_left (x : Number) (v : Json) :
    (Json.number x).filterOrder? v =
      v.asNumber?.bind fun y => Extended.compare? (.finite x.toBinary64) y := by
  cases v <;> rfl

theorem filterOrder?_number_right (v : Json) (y : Number) :
    v.filterOrder? (.number y) =
      v.asNumber?.bind fun x => x.compare? (.finite y.toBinary64) := by
  cases v with
  | string s =>
    rw [filterOrder?, Number.orderText?, asNumber?]
    cases Numeral.real? (Text.trim s) with
    | none => rfl
    | some x => exact (Extended.compare?_swap (.finite y.toBinary64) x).symm
  | _ => rfl

theorem filterOrder?_truth_left (a : Bool) (v : Json) :
    (Json.bool a).filterOrder? v = v.asTruth?.map fun b => compare a b := by
  cases v <;> rfl

theorem filterOrder?_truth_right (v : Json) (b : Bool) :
    v.filterOrder? (.bool b) = v.asTruth?.map fun a => compare a b := by
  cases v <;> rfl

-- ---------------------------------------------------------------------------
-- The order from the other side
-- ---------------------------------------------------------------------------

theorem filterOrder?_number_swap (x : Number) (v : Json) :
    v.filterOrder? (.number x) = ((Json.number x).filterOrder? v).map Ordering.swap := by
  rw [filterOrder?_number_left, filterOrder?_number_right]
  cases v.asNumber? with
  | none => rfl
  | some y => exact Extended.compare?_swap _ y

theorem filterOrder?_truth_swap (a : Bool) (v : Json) :
    v.filterOrder? (.bool a) = ((Json.bool a).filterOrder? v).map Ordering.swap := by
  rw [filterOrder?_truth_left, filterOrder?_truth_right]
  cases v.asTruth? with
  | none => rfl
  | some b => exact congrArg some Std.OrientedOrd.eq_swap

/-- A text that denotes an instant meets one that does not as a text, from either side. -/
instance : Std.OrientedCmp textOrder where
  eq_swap := by
    intro s t
    unfold textOrder
    cases Instant.parse? s with
    | none => cases Instant.parse? t <;> exact Std.OrientedOrd.eq_swap
    | some x =>
      cases Instant.parse? t with
      | none => exact Std.OrientedOrd.eq_swap
      | some y => exact (Std.OrientedOrd.eq_swap : compare x y = (compare y x).swap)

/-- Other values are equal or cannot be compared. -/
theorem filterOrder?_other {a b : Json} (h : a.isScalar = false ∨ b.isScalar = false) :
    a.filterOrder? b = if a.same b then some .eq else none := by
  cases a <;> cases b <;> simp [isScalar] at h <;> simp [filterOrder?]

theorem filterOrder?_other_swap {a b : Json} (h : a.isScalar = false ∨ b.isScalar = false) :
    b.filterOrder? a = (a.filterOrder? b).map Ordering.swap := by
  rw [filterOrder?_other h, filterOrder?_other h.symm, same_comm]
  split <;> rfl

/-- Turned round twice, an order is itself. -/
theorem filterOrder?_swap_symm {a b : Json}
    (h : b.filterOrder? a = (a.filterOrder? b).map Ordering.swap) :
    a.filterOrder? b = (b.filterOrder? a).map Ordering.swap := by
  rw [h, Option.map_map]
  cases a.filterOrder? b with
  | none => rfl
  | some o => exact congrArg some Ordering.swap_swap.symm

theorem filterOrder?_swap (a b : Json) :
    b.filterOrder? a = (a.filterOrder? b).map Ordering.swap := by
  cases a with
  | number x => exact filterOrder?_number_swap x b
  | bool x => exact filterOrder?_truth_swap x b
  | string s =>
    cases b with
    | number y => exact filterOrder?_swap_symm (filterOrder?_number_swap y _)
    | bool y => exact filterOrder?_swap_symm (filterOrder?_truth_swap y _)
    | string t => exact congrArg some Std.OrientedCmp.eq_swap
    | null | array | object => exact filterOrder?_other_swap (.inr rfl)
  | null | array | object => exact filterOrder?_other_swap (.inl rfl)

theorem filterOrder?_self (v : Json) : v.filterOrder? v = some .eq := by
  cases v with
  | number n => exact congrArg some Std.ReflOrd.compare_self
  | bool b => exact congrArg some Std.ReflOrd.compare_self
  | string s => exact congrArg some Std.ReflCmp.compare_self
  | null | array | object => rw [filterOrder?_other (.inl rfl), same_refl, if_pos rfl]

end Json

end RecordQuery
