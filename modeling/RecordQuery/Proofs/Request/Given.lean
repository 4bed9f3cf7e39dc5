import RecordQuery.Proofs.Collection.Query
import RecordQuery.Proofs.Request.Written

/-!
# What a query was given

A query is made from pairs, from an object or from an array of its fields. What it was given
no page is for the first page, and one that was given no page size has none.
-/

namespace RecordQuery

-- ---------------------------------------------------------------------------
-- Records in JSON
-- ---------------------------------------------------------------------------

namespace Json

/-- The fields that a record in JSON has values for, those of an array by their positions. -/
def given (slots : List Slot) : Json → List String
  | .object members => KeyMap.keys members
  | .array items => (slots.map Slot.name).take items.length
  | _ => []

theorem fillItems?_beyond {slots : List Slot} {items : List Json} {values : List (Option Json)}
    (h : fillItems? slots items = some values) {i : Nat} (hi : i < slots.length)
    (hitems : items.length ≤ i) : values[i]? = some none := by
  induction slots generalizing items values i with
  | nil => cases hi
  | cons slot rest ih =>
    cases items with
    | nil =>
      rw [fillItems?] at h
      split at h
      · obtain ⟨others, hothers, rfl⟩ := Option.map_eq_some_iff.mp h
        cases i with
        | zero => rfl
        | succ i => exact ih hothers (Nat.lt_of_succ_lt_succ hi) (Nat.zero_le i)
      · cases h
    | cons x xs =>
      obtain ⟨others, hothers, rfl⟩ := Option.map_eq_some_iff.mp h
      cases i with
      | zero => cases hitems
      | succ i => exact ih hothers (Nat.lt_of_succ_lt_succ hi) (Nat.le_of_succ_le_succ hitems)

/-- The fields that no value is given for are filled with nothing. -/
theorem fill?_not_given {slots : List Slot} {closed : Bool} {j : Json}
    {values : List (Option Json)} (hslots : ∀ slot ∈ slots, slot.presence = .defaulted)
    (h : fill? slots closed j = some values) {i : Nat} {slot : Slot} (hi : slots[i]? = some slot)
    (hname : slot.name ∉ j.given slots) : values[i]? = some none := by
  cases j with
  | object members =>
    rw [fill?] at h
    split at h
    · cases h
    · rw [mapM_fill? hslots, Option.some.injEq] at h
      rw [← h, List.getElem?_map, hi, Option.map_some, KeyMap.get?_of_not_mem hname]
  | array items =>
    obtain ⟨hlt, -⟩ := List.getElem?_eq_some_iff.mp hi
    refine fillItems?_beyond h hlt (Nat.not_lt.mp fun hgiven => hname ?_)
    have hplace : ((slots.map Slot.name).take items.length)[i]? = some slot.name := by
      rw [List.getElem?_take_of_lt hgiven, List.getElem?_map, hi, Option.map_some]
    exact List.mem_of_getElem? hplace
  | _ => cases h

/-- What is read of a field without value is the default. -/
theorem default_of_not_given {slots : List Slot} {closed : Bool} {j : Json}
    {values : List (Option Json)} (hslots : ∀ slot ∈ slots, slot.presence = .defaulted)
    (h : fill? slots closed j = some values) (i : Nat) {slot : Slot}
    (hi : slots[i]? = some slot) (hname : slot.name ∉ j.given slots) {value : Option Json}
    (hvalue : values[i]? = some value) {read : Json → Option α} {default a : α}
    (hread : orDefault? read default value = some a) : a = default := by
  rw [fill?_not_given hslots h hi hname, Option.some.injEq] at hvalue
  subst hvalue
  exact (Option.some_inj.mp hread).symm

end Json

-- ---------------------------------------------------------------------------
-- Queries
-- ---------------------------------------------------------------------------

namespace FlatQuery

theorem takePair_window {q q' : FlatQuery} {key value : String}
    (h : q.takePair key value = .ok q') :
    (key ≠ "page" → q'.page = q.page) ∧ (key ≠ "page_size" → q'.pageSize = q.pageSize) := by
  unfold takePair at h
  split at h
  · next hkey =>
    obtain ⟨n, -, hq⟩ := bind_ok.mp h
    obtain rfl := pure_ok.mp hq
    exact ⟨fun hne => absurd hkey hne, fun _ => rfl⟩
  · split at h
    · next hkey =>
      obtain ⟨n, -, hq⟩ := bind_ok.mp h
      obtain rfl := pure_ok.mp hq
      exact ⟨fun _ => rfl, fun hne => absurd hkey hne⟩
    · grind [bind_ok, pure_ok, withParam]

theorem takePairs_window {q q' : FlatQuery} {pairs : List (String × String)}
    (h : q.takePairs pairs = .ok q') :
    ("page" ∉ pairs.map Prod.fst → q'.page = q.page) ∧
      ("page_size" ∉ pairs.map Prod.fst → q'.pageSize = q.pageSize) := by
  induction pairs generalizing q with
  | nil =>
    cases h
    exact ⟨fun _ => rfl, fun _ => rfl⟩
  | cons pair rest ih =>
    obtain ⟨key, value⟩ := pair
    obtain ⟨q₁, hq₁, hrest⟩ := bind_ok.mp h
    obtain ⟨hpage, hsize⟩ := takePair_window hq₁
    obtain ⟨hpages, hsizes⟩ := ih hrest
    simp only [List.map_cons, List.mem_cons, not_or]
    exact ⟨fun ⟨hkey, hkeys⟩ => (hpages hkeys).trans (hpage (Ne.symm hkey)),
      fun ⟨hkey, hkeys⟩ => (hsizes hkeys).trans (hsize (Ne.symm hkey))⟩

theorem presence_slots : ∀ slot ∈ slots, slot.presence = .defaulted := by
  simp [slots]

theorem ofJson?_window {j : Json} {q : FlatQuery} (h : ofJson? j = some q) :
    ("page" ∉ j.given slots → q.page = 1) ∧ ("page_size" ∉ j.given slots → q.pageSize = none) := by
  cases j with
  | object members =>
    simp only [ofJson?, Option.bind_eq_bind, Option.bind_eq_some_iff] at h
    obtain ⟨values, hfill, h⟩ := h
    split at h
    · simp only [Option.bind_eq_some_iff, Option.pure_def, Option.some_inj] at h
      obtain ⟨page, hpage, size, hsize, -, -, -, -, -, -, -, -, rfl⟩ := h
      exact ⟨fun hname => Json.default_of_not_given presence_slots hfill 0 rfl hname rfl hpage,
        fun hname => Json.default_of_not_given presence_slots hfill 1 rfl hname rfl hsize⟩
    · cases h
  | _ => cases h

end FlatQuery

theorem ComplexQuery.ofJson?_window {j : Json} {q : ComplexQuery} (h : ofJson? j = some q) :
    ("page" ∉ j.given slots → q.page = 1) ∧ ("page_size" ∉ j.given slots → q.pageSize = none) := by
  simp only [ofJson?, Option.bind_eq_bind, Option.bind_eq_some_iff] at h
  obtain ⟨values, hfill, h⟩ := h
  split at h
  · simp only [Option.bind_eq_some_iff, Option.pure_def, Option.some_inj] at h
    obtain ⟨page, hpage, size, hsize, -, -, -, -, -, -, -, -, -, -, rfl⟩ := h
    exact ⟨fun hname => Json.default_of_not_given presence_slots hfill 0 rfl hname rfl hpage,
      fun hname => Json.default_of_not_given presence_slots hfill 1 rfl hname rfl hsize⟩
  · cases h

namespace Query

def page : Query → UInt32
  | flat q _ => q.page
  | complex q => q.page

def pageSize : Query → Option UInt32
  | flat q _ => q.pageSize
  | complex q => q.pageSize

/-- The query was made from values for these names alone. -/
inductive Given : Query → List String → Prop
  | pairs {q : FlatQuery} (pairs : List (String × String)) (condition : Option Condition) :
    FlatQuery.ofPairs pairs = .ok q → Given (.flat q condition) (pairs.map Prod.fst)
  | flat {q : FlatQuery} (j : Json) (condition : Option Condition) :
    FlatQuery.ofJson? j = some q → Given (.flat q condition) (j.given FlatQuery.slots)
  | complex {q : ComplexQuery} (j : Json) :
    ComplexQuery.ofJson? j = some q → Given (.complex q) (j.given ComplexQuery.slots)

/-- A query that names no page is for the first one, and one without a page size has none. -/
theorem Given.window {q : Query} {names : List String} (h : q.Given names) :
    ("page" ∉ names → q.page = 1) ∧ ("page_size" ∉ names → q.pageSize = none) := by
  cases h with
  | pairs pairs condition h => exact FlatQuery.takePairs_window h
  | flat j condition h => exact FlatQuery.ofJson?_window h
  | complex j h => exact ComplexQuery.ofJson?_window h

end Query

end RecordQuery
