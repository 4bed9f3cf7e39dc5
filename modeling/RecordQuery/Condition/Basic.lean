import RecordQuery.Operator

/-!
# Condition trees

A tree node is a leaf, one operator applied to one field, or a group with an optional
branch of nodes that must all hold and an optional branch of which one must hold. The
written form of a leaf has the members `field`, `operator` and `value`, that of a group
`and_` and `or_`; either can also be an array of these values in that order.
-/

namespace RecordQuery

structure Leaf where
  field : String
  operator : Operator
  value : Json

inductive Condition
  | leaf (l : Leaf)
  | group (all any : Option (List Condition))

namespace Condition

instance : Inhabited Condition := ⟨.group none none⟩

/-- Induction over a tree: an absent branch has no nodes. -/
@[elab_as_elim, induction_eliminator]
theorem induct {motive : Condition → Prop} (leaf : ∀ l, motive (.leaf l))
    (group : ∀ all any, (∀ n ∈ all.getD [], motive n) → (∀ n ∈ any.getD [], motive n) →
      motive (.group all any)) (c : Condition) : motive c :=
  @Condition.rec motive (fun branch => ∀ n ∈ branch.getD [], motive n)
    (fun nodes => ∀ n ∈ nodes, motive n) leaf group (by simp) (fun _ h => h) (by simp)
    (fun _ _ hn hrest => List.forall_mem_cons.mpr ⟨hn, hrest⟩) c

def allOf (nodes : List Condition) : Condition := .group (some nodes) none

def anyOf (nodes : List Condition) : Condition := .group none (some nodes)

-- ---------------------------------------------------------------------------
-- Writing
-- ---------------------------------------------------------------------------

mutual

def toJson : Condition → Json
  | .leaf l =>
    .object [("field", .string l.field), ("operator", l.operator.toJson), ("value", l.value)]
  | .group all any => .object (branchToJson "and_" all ++ branchToJson "or_" any)

/-- A branch that is absent is left out. -/
def branchToJson (name : String) : Option (List Condition) → List (String × Json)
  | none => []
  | some nodes => [(name, .array (nodesToJson nodes))]

def nodesToJson : List Condition → List Json
  | [] => []
  | n :: rest => toJson n :: nodesToJson rest

end

-- ---------------------------------------------------------------------------
-- Reading
-- ---------------------------------------------------------------------------

/-- The operator may be missing and is equality then; the other members are required. -/
def leafOfMembers? (members : KeyMap Json) : Option Leaf := do
  if !members.all (fun m => m.1 == "field" || m.1 == "operator" || m.1 == "value") then none
  else
    let .string field ← KeyMap.get? members "field" | none
    let value ← KeyMap.get? members "value"
    match KeyMap.get? members "operator" with
    | none => some ⟨field, .eq, value⟩
    | some op => return ⟨field, ← Operator.ofJson? op, value⟩

def leafOfItems? : List Json → Option Leaf
  | [.string field, op, value] => do return ⟨field, ← Operator.ofJson? op, value⟩
  | _ => none

def leafOfJson? : Json → Option Leaf
  | .object members => leafOfMembers? members
  | .array items => leafOfItems? items
  | _ => none

mutual

/-- A value is first tried as a leaf and then as a group. -/
def ofJson? : Json → Option Condition
  | .object members =>
    match leafOfMembers? members with
    | some l => some (.leaf l)
    | none => groupOfMembers? members none none
  | .array items =>
    match leafOfItems? items with
    | some l => some (.leaf l)
    | none => groupOfItems? items
  | _ => none

/-- The branches among the members, added to those already found. -/
def groupOfMembers? : List (String × Json) → Option (List Condition) →
    Option (List Condition) → Option Condition
  | [], all, any => some (.group all any)
  | (name, j) :: rest, all, any =>
    match branchOfJson? j with
    | none => none
    | some branch =>
      if name = "and_" then groupOfMembers? rest branch any
      else if name = "or_" then groupOfMembers? rest all branch
      else none

def groupOfItems? : List Json → Option Condition
  | [] => some (.group none none)
  | [all] => (branchOfJson? all).map fun all => .group all none
  | [all, any] =>
    match branchOfJson? all, branchOfJson? any with
    | some all, some any => some (.group all any)
    | _, _ => none
  | _ => none

/-- Null is an absent branch. -/
def branchOfJson? : Json → Option (Option (List Condition))
  | .null => some none
  | .array items => (nodesOfJson? items).map some
  | _ => none

def nodesOfJson? : List Json → Option (List Condition)
  | [] => some []
  | j :: rest =>
    match ofJson? j, nodesOfJson? rest with
    | some n, some ns => some (n :: ns)
    | _, _ => none

end

/-- A value read as a group alone. -/
def groupOfJson? : Json → Option Condition
  | .object members => groupOfMembers? members none none
  | .array items => groupOfItems? items
  | _ => none

end Condition

end RecordQuery
