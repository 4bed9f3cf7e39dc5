import RecordQuery.Json.Order

/-!
# Values in sorted order

Every value has a place: its rank, and within the rank a number, an instant or a text. The
order in which values are sorted is the lexicographic order of their places, so it is a total
preorder, whatever kinds of values are mixed.
-/

namespace RecordQuery

instance : Ord Instant := ⟨Instant.order⟩

instance : Std.TransOrd Instant :=
  inferInstanceAs <| Std.TransCmp <|
    compareLex (compareOn Instant.day) (compareLex (compareOn Instant.second) (compareOn Instant.nano))

namespace Json

/-- The parts that do not concern a value are the same for all values of its rank. -/
structure SortPlace where
  rank : Nat
  number : Int := 0
  instant : Instant := ⟨0, 0, 0⟩
  text : String := ""

namespace SortPlace

instance : Ord SortPlace :=
  ⟨compareLex (compareOn rank) (compareLex (compareOn number)
    (compareLex (compareOn instant) (compareOn text)))⟩

instance : Std.TransOrd SortPlace :=
  inferInstanceAs <| Std.TransCmp <|
    compareLex (compareOn rank) (compareLex (compareOn number)
      (compareLex (compareOn instant) (compareOn text)))

theorem compare_eq (p q : SortPlace) :
    compare p q = (compare p.rank q.rank).then ((compare p.number q.number).then
      ((compare p.instant q.instant).then (compare p.text q.text))) := rfl

end SortPlace

/-- A text that denotes an instant stands where the instant does. -/
def sortPlace : Json → SortPlace
  | .null => { rank := 0 }
  | .bool b => { rank := 1, number := if b then 1 else 0 }
  | .number n => { rank := 2, number := n.toBinary64.totalKey }
  | .string s =>
    match Instant.parse? s with
    | some t => { rank := 3, instant := t }
    | none => { rank := 4, text := s }
  | .array items => { rank := 5, text := (Json.array items).text }
  | .object members => { rank := 6, text := (Json.object members).text }

theorem sortPlace_of_instant {s : String} {t : Instant} (h : Instant.parse? s = some t) :
    (Json.string s).sortPlace = { rank := 3, instant := t } := by
  simp [sortPlace, h]

theorem sortPlace_of_text {s : String} (h : Instant.parse? s = none) :
    (Json.string s).sortPlace = { rank := 4, text := s } := by
  simp [sortPlace, h]

theorem rank_sortPlace (v : Json) : v.sortPlace.rank = v.sortRank := by
  cases v with
  | string s =>
    cases h : Instant.parse? s with
    | some t => simp [sortPlace_of_instant h, sortRank, h]
    | none => simp [sortPlace_of_text h, sortRank, h]
  | _ => rfl

theorem textOrder_eq {s t : String}
    (h : (Json.string s).sortRank = (Json.string t).sortRank) :
    textOrder s t = compare (Json.string s).sortPlace (Json.string t).sortPlace := by
  simp only [sortRank] at h
  cases hs : Instant.parse? s with
  | some a =>
    cases ht : Instant.parse? t with
    | some b =>
      simp only [sortPlace_of_instant hs, sortPlace_of_instant ht, SortPlace.compare_eq, textOrder,
        hs, ht]
      show a.order b = (a.order b).then .eq
      simp
    | none => simp [hs, ht] at h
  | none =>
    cases ht : Instant.parse? t with
    | some b => simp [hs, ht] at h
    | none =>
      simp [sortPlace_of_text hs, sortPlace_of_text ht, SortPlace.compare_eq, textOrder, hs, ht]

theorem rankOrder_eq {x y : Json} (h : x.sortRank = y.sortRank) :
    rankOrder x y = compare x.sortPlace y.sortPlace := by
  cases x <;> cases y
  case string.string s t => exact textOrder_eq h
  case bool.bool a b => cases a <;> cases b <;> rfl
  case number.number m n => simp [rankOrder, sortPlace, SortPlace.compare_eq]
  case null.null => rfl
  case array.array xs ys => simp [rankOrder, sortPlace, SortPlace.compare_eq]
  case object.object ms ns => simp [rankOrder, sortPlace, SortPlace.compare_eq]
  all_goals
    -- values of two kinds never have one rank
    simp only [sortRank] at h
    grind

/-- A column without value comes after all values. -/
def sortPlace? (v : Option Json) : SortPlace :=
  match present? v with
  | some v => v.sortPlace
  | none => { rank := 7 }

theorem sortOrder_eq (a b : Option Json) : sortOrder a b = compare (sortPlace? a) (sortPlace? b) := by
  have hlt (v : Json) : v.sortPlace.rank < 7 := by
    rw [rank_sortPlace]
    unfold sortRank
    grind
  unfold sortOrder sortPlace?
  cases present? a with
  | none =>
    cases present? b with
    | none => rfl
    | some y => simp [SortPlace.compare_eq, Nat.compare_eq_gt.mpr (hlt y)]
  | some x =>
    cases present? b with
    | none => simp [SortPlace.compare_eq, Nat.compare_eq_lt.mpr (hlt x)]
    | some y =>
      by_cases h : x.sortRank = y.sortRank
      · simp [h, rankOrder_eq h]
      · have hne : compare x.sortRank y.sortRank ≠ .eq := fun he => h (Nat.compare_eq_eq.mp he)
        simp only [SortPlace.compare_eq, rank_sortPlace]
        cases hc : compare x.sortRank y.sortRank with
        | eq => exact absurd hc hne
        | lt => rfl
        | gt => rfl

instance : Std.TransCmp sortOrder := by
  have heq : sortOrder = compareOn sortPlace? := funext fun a => funext fun b => sortOrder_eq a b
  rw [heq]
  infer_instance

end Json

end RecordQuery
