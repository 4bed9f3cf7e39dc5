import RecordQuery.Json.Order

/-!
# Values that can be compared

A filter compares values of one kind, a number with a numeral and a truth value with a word
for one. Lists and objects are equal to themselves and compare with nothing else.
-/

namespace RecordQuery.Json

/-- Texts, numbers and truth values. -/
def isScalar : Json → Bool
  | .string _ => true
  | .number _ => true
  | .bool _ => true
  | _ => false

/-- The text denotes a number, possibly an infinite one. -/
def IsNumeral (s : String) : Prop := ∃ x, Numeral.real? (Text.trim s) = some x ∧ x ≠ .nan

inductive Comparable : Json → Json → Prop
  | numbers (x y : Number) : Comparable (.number x) (.number y)
  | truths (a b : Bool) : Comparable (.bool a) (.bool b)
  | texts (s t : String) : Comparable (.string s) (.string t)
  | numeral (x : Number) {s : String} : IsNumeral s → Comparable (.number x) (.string s)
  | ofNumeral {s : String} (x : Number) : IsNumeral s → Comparable (.string s) (.number x)
  | word (a : Bool) {s : String} : (truth? s).isSome → Comparable (.bool a) (.string s)
  | ofWord {s : String} (a : Bool) : (truth? s).isSome → Comparable (.string s) (.bool a)
  | nulls : Comparable .null .null
  | lists {xs ys : List Json} : sameItems xs ys = true → Comparable (.array xs) (.array ys)
  | objects {ms ns : List (String × Json)} :
    sameMembers ms ns = true → Comparable (.object ms) (.object ns)

theorem Number.orderText?_isSome {x : Number} {s : String} :
    (x.orderText? s).isSome = true ↔ IsNumeral s := by
  unfold orderText? IsNumeral
  cases Numeral.real? (Text.trim s) with
  | none => simp
  | some y => cases y <;> simp [Binary64.Extended.compare?, Binary64.Extended.key?]

theorem filterOrder?_isSome {a b : Json} :
    (a.filterOrder? b).isSome = true ↔ a.Comparable b := by
  constructor
  · intro h
    cases a <;> cases b
    case number.number x y => exact .numbers x y
    case bool.bool a b => exact .truths a b
    case string.string s t => exact .texts s t
    case number.string x s => exact .numeral x (Number.orderText?_isSome.mp h)
    case string.number s x =>
      exact .ofNumeral x (Number.orderText?_isSome.mp (by simpa [filterOrder?] using h))
    case bool.string a s => exact .word a (by simpa [filterOrder?] using h)
    case string.bool s a => exact .ofWord a (by simpa [filterOrder?] using h)
    case null.null => exact .nulls
    case array.array xs ys =>
      refine .lists (Decidable.byContradiction fun hne => ?_)
      simp [filterOrder?, same, hne] at h
    case object.object ms ns =>
      refine .objects (Decidable.byContradiction fun hne => ?_)
      simp [filterOrder?, same, hne] at h
    -- values of two other kinds are never the same
    all_goals simp [filterOrder?, same] at h
  · intro h
    cases h with
    | numbers x y => rfl
    | truths a b => rfl
    | texts s t => rfl
    | numeral x hs => exact Number.orderText?_isSome.mpr hs
    | ofNumeral x hs => simpa [filterOrder?] using Number.orderText?_isSome.mpr hs
    | word a hs => simpa [filterOrder?] using hs
    | ofWord a hs => simpa [filterOrder?] using hs
    | nulls => rfl
    | lists h => simp [filterOrder?, same, h]
    | objects h => simp [filterOrder?, same, h]

end RecordQuery.Json
