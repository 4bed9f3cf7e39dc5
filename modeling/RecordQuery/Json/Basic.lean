import RecordQuery.KeyMap
import RecordQuery.Number.Binary64

/-!
# JSON values

A number is an integer of 64 bits, with or without sign, or a binary64 number: `1` and
`1.0` are different values. Object members stand in increasing order of their names;
the reader builds objects with `KeyMap.put`, which keeps that order.
-/

namespace RecordQuery

namespace Json

structure Integer where
  val : Int
  lower : -0x8000000000000000 ≤ val
  upper : val < 0x10000000000000000
  deriving DecidableEq

inductive Number
  | int (i : Integer)
  | float (x : Binary64)
  deriving DecidableEq

end Json

inductive Json
  | null
  | bool (b : Bool)
  | number (n : Json.Number)
  | string (s : String)
  | array (items : List Json)
  | object (members : List (String × Json))

namespace Json

instance : Inhabited Json := ⟨.null⟩

@[elab_as_elim]
theorem induct {motive : Json → Prop} (null : motive .null) (bool : ∀ b, motive (.bool b))
    (number : ∀ n, motive (.number n)) (string : ∀ s, motive (.string s))
    (array : ∀ items, (∀ v ∈ items, motive v) → motive (.array items))
    (object : ∀ members, (∀ m ∈ members, motive m.2) → motive (.object members))
    (v : Json) : motive v :=
  @Json.rec motive (fun items => ∀ v ∈ items, motive v) (fun members => ∀ m ∈ members, motive m.2)
    (fun m => motive m.2) null bool number string array object
    nofun (fun _ _ hv hrest => List.forall_mem_cons.mpr ⟨hv, hrest⟩)
    nofun (fun _ _ hm hrest => List.forall_mem_cons.mpr ⟨hm, hrest⟩)
    (fun _ _ hv => hv) v

theorem Integer.natAbs_le (i : Integer) : i.val.natAbs ≤ 0x10000000000000000 := by
  have := i.lower
  have := i.upper
  omega

/-- The number as binary64, integers rounded to the nearest. -/
def Number.toBinary64 : Number → Binary64
  | .int i => Binary64.ofInt i.val i.natAbs_le
  | .float x => x

/-- Equal in kind and in value; the two float zeros are equal. -/
def Number.same : Number → Number → Bool
  | .int i, .int j => i.val == j.val
  | .float x, .float y => x.key == y.key
  | _, _ => false

/-- An integer outside 64 bits becomes the nearest float. -/
def Number.ofInt? (i : Int) : Option Number :=
  if h : -0x8000000000000000 ≤ i ∧ i < 0x10000000000000000 then some (.int ⟨i, h.1, h.2⟩)
  else
    match Binary64.Extended.ofDecimal (i < 0) i.natAbs 0 with
    | .finite x => some (.float x)
    | _ => none

def Number.ofWord (w : UInt32) : Number :=
  .int ⟨w.toNat, by omega, by have := w.toNat_lt; omega⟩

def word (w : UInt32) : Json := .number (.ofWord w)

/-- An integer as JSON; null when it is beyond every float. -/
def int (i : Int) : Json :=
  match Number.ofInt? i with
  | some n => .number n
  | none => .null

def isNull : Json → Bool
  | .null => true
  | _ => false

def isObject : Json → Bool
  | .object _ => true
  | _ => false

def strings (names : List String) : Json := .array (names.map .string)

/-- The object with these members, in whatever order they are given. -/
def ofMembers (members : List (String × Json)) : Json := .object (KeyMap.ofEntries members)

mutual

/-- Structural equality, numbers compared by kind and value. -/
def same : Json → Json → Bool
  | .null, .null => true
  | .bool a, .bool b => a == b
  | .number m, .number n => m.same n
  | .string s, .string t => s == t
  | .array xs, .array ys => sameItems xs ys
  | .object ms, .object ns => sameMembers ms ns
  | _, _ => false

def sameItems : List Json → List Json → Bool
  | [], [] => true
  | x :: xs, y :: ys => same x y && sameItems xs ys
  | _, _ => false

def sameMembers : List (String × Json) → List (String × Json) → Bool
  | [], [] => true
  | (k, x) :: ms, (l, y) :: ns => k == l && same x y && sameMembers ms ns
  | _, _ => false

end

end Json

end RecordQuery
