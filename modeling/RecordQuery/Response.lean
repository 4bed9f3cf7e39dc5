import RecordQuery.Json.Layout
import RecordQuery.Error

/-!
# Responses

A page of items with the number of all matching rows, or `-1` where it was not asked
for, and the envelope in which an answer or an error is sent.
-/

namespace RecordQuery

structure Paged (α : Type) where
  count : Int
  items : List α

namespace Paged

/-- The count of a page whose total was not asked for. -/
def notCounted : Int := -1

def isCounted (p : Paged α) : Bool := p.count != notCounted

def map (f : α → β) (p : Paged α) : Paged β := ⟨p.count, p.items.map f⟩

def toJson (p : Paged Json) : Json :=
  .ofMembers [("count", .int p.count), ("items", .array p.items)]

theorem toJson_eq_iff {p p' : Paged Json} :
    p.toJson = p'.toJson ↔ Json.int p.count = Json.int p'.count ∧ p.items = p'.items := by
  have hlt : ¬"items" < "count" := by decide
  simp [toJson, Json.ofMembers, KeyMap.ofEntries, KeyMap.put, hlt]

def slots : List Json.Slot := [⟨"count", .required⟩, ⟨"items", .required⟩]

def ofJson? (j : Json) : Option (Paged Json) := do
  match ← Json.fill? slots false j with
  | [some count, some items] => return ⟨← count.int64?, ← items.items?⟩
  | _ => none

end Paged

structure Envelope where
  code : UInt16
  message : String
  data : Option Json

namespace Envelope

def ok (data : Json) : Envelope := ⟨200, "success", some data⟩

def ofError (e : QueryError) : Envelope := ⟨UInt16.ofNat e.status, e.message, none⟩

def toJson (r : Envelope) : Json :=
  .ofMembers
    [("code", .int r.code.toNat), ("message", .string r.message),
      ("data", r.data.getD .null)]

def code? : Json → Option UInt16
  | .number (.int i) =>
    if 0 ≤ i.val ∧ i.val < UInt16.size then some (UInt16.ofNat i.val.toNat) else none
  | _ => none

def slots : List Json.Slot :=
  [⟨"code", .required⟩, ⟨"message", .required⟩, ⟨"data", .nullable⟩]

/-- Null data is absent data. -/
def ofJson? (j : Json) : Option Envelope := do
  match ← Json.fill? slots false j with
  | [some code, some message, some data] =>
    return ⟨← code? code, ← message.string?, ← Json.optional? some data⟩
  | _ => none

end Envelope

end RecordQuery
