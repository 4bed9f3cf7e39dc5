import RecordQuery.Instant.Reader
import RecordQuery.Json.Text
import RecordQuery.Number.Numeral
import RecordQuery.Text.Lowercase

/-!
# Comparing values

`filterOrder?` compares as a typed column does after its texts are cast: a text meets a
number as a numeral and a truth value as a word, and two texts that both denote
instants compare as instants. Other pairs are equal or not comparable.
`sortOrder` is total: null comes last, then values of one rank compare among themselves.
-/

namespace RecordQuery.Json

/-- The truth value that a word stands for, blanks and letter case aside. -/
def truth? (s : String) : Option Bool :=
  let word := Text.lowerAscii (Text.trim s)
  if word = "true" ∨ word = "1" then some true
  else if word = "false" ∨ word = "0" then some false
  else none

/-- Two texts: as instants if both denote one, otherwise by code points. -/
def textOrder (s t : String) : Ordering :=
  match Instant.parse? s, Instant.parse? t with
  | some a, some b => a.order b
  | _, _ => compare s t

def Number.order (x y : Number) : Ordering := compare x.toBinary64.key y.toBinary64.key

/-- A number against a numeral; nothing when the text is none or denotes NaN. -/
def Number.orderText? (x : Number) (s : String) : Option Ordering := do
  Binary64.Extended.compare? (.finite x.toBinary64) (← Numeral.real? (Text.trim s))

def filterOrder? : Json → Json → Option Ordering
  | .number x, .number y => some (x.order y)
  | .number x, .string s => x.orderText? s
  | .string s, .number y => (y.orderText? s).map Ordering.swap
  | .bool a, .bool b => some (compare a b)
  | .bool a, .string s => (truth? s).map fun b => compare a b
  | .string s, .bool b => (truth? s).map fun a => compare a b
  | .string s, .string t => some (textOrder s t)
  | a, b => if a.same b then some .eq else none

/-- The place of a value's kind in sorted order; instants come before other texts. -/
def sortRank : Json → Nat
  | .null => 0
  | .bool _ => 1
  | .number _ => 2
  | .string s => if (Instant.parse? s).isSome then 3 else 4
  | .array _ => 5
  | .object _ => 6

/-- The order of values of one rank: negative zero before zero, lists and objects by
their JSON text. -/
def rankOrder : Json → Json → Ordering
  | .bool a, .bool b => compare a b
  | .number x, .number y => compare x.toBinary64.totalKey y.toBinary64.totalKey
  | .string s, .string t => textOrder s t
  | a, b => compare a.text b.text

/-- A column that is absent counts as null. -/
def present? : Option Json → Option Json
  | some .null => none
  | v => v

def sortOrder (a b : Option Json) : Ordering :=
  match present? a, present? b with
  | none, none => .eq
  | none, some _ => .gt
  | some _, none => .lt
  | some x, some y => (compare x.sortRank y.sortRank).then (rankOrder x y)

end RecordQuery.Json
