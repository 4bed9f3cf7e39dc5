import RecordQuery.Json.Basic

/-!
# Records in JSON

A record is written as an object of its fields or as an array of them in the order of
declaration. `fill?` brings both to one form: the values in that order, nothing where
the default is meant. An array may leave out closing fields that have a default.
-/

namespace RecordQuery.Json

/-- What a field without value means: an error, null (in an object only), or its default. -/
inductive Presence
  | required
  | nullable
  | defaulted
  deriving DecidableEq

structure Slot where
  name : String
  presence : Presence

def Slot.fill? (slot : Slot) (members : KeyMap Json) : Option (Option Json) :=
  match KeyMap.get? members slot.name, slot.presence with
  | some v, _ => some (some v)
  | none, .required => none
  | none, .nullable => some (some .null)
  | none, .defaulted => some none

def fillItems? : List Slot → List Json → Option (List (Option Json))
  | [], [] => some []
  | [], _ :: _ => none
  | slot :: slots, [] =>
    if slot.presence = .defaulted then (fillItems? slots []).map (none :: ·) else none
  | _ :: slots, x :: xs => (fillItems? slots xs).map (some x :: ·)

/-- A closed record has no members but its fields; an open one ignores others. -/
def fill? (slots : List Slot) (closed : Bool) : Json → Option (List (Option Json))
  | .object members =>
    if closed && members.any (fun m => !slots.any (·.name == m.1)) then none
    else slots.mapM (·.fill? members)
  | .array items => fillItems? slots items
  | _ => none

def word? : Json → Option UInt32
  | .number (.int i) =>
    if 0 ≤ i.val ∧ i.val < UInt32.size then some (UInt32.ofNat i.val.toNat) else none
  | _ => none

def string? : Json → Option String
  | .string s => some s
  | _ => none

def bool? : Json → Option Bool
  | .bool b => some b
  | _ => none

/-- An integer in the range of 64 bits with sign. -/
def int64? : Json → Option Int
  | .number (.int i) => if i.val < 0x8000000000000000 then some i.val else none
  | _ => none

def items? : Json → Option (List Json)
  | .array items => some items
  | _ => none

/-- Null stands for nothing; any other value has to be read. -/
def optional? (read : Json → Option α) : Json → Option (Option α)
  | .null => some none
  | j => (read j).map some

/-- The value of a field, or the default where none was given. -/
def orDefault? (read : Json → Option α) (default : α) : Option Json → Option α
  | none => some default
  | some j => read j

end RecordQuery.Json
