import RecordQuery.Proofs.Condition.Written
import RecordQuery.Proofs.Outcome
import RecordQuery.Proofs.Record.Lookup
import RecordQuery.Request

/-!
# Written requests

What is written of a complex query is read back as that query, and so is what is written of
a flat query that was itself read, from JSON or from a query string: its parameters are in
order and none of them has a reserved key.
-/

namespace RecordQuery

-- ---------------------------------------------------------------------------
-- Values
-- ---------------------------------------------------------------------------

namespace Json

theorem word?_word (w : UInt32) : word? (word w) = some w := by
  have hsize : (w.toNat : Int) < UInt32.size := by exact_mod_cast w.toNat_lt
  show (if 0 ≤ (w.toNat : Int) ∧ (w.toNat : Int) < UInt32.size
    then some (UInt32.ofNat (w.toNat : Int).toNat) else none) = some w
  rw [if_pos ⟨Int.natCast_nonneg _, hsize⟩, Int.toNat_natCast, UInt32.ofNat_toNat]

theorem orDefault?_some {read : Json → Option α} {default a : α} {j : Json}
    (h : read j = some a) : orDefault? read default (some j) = some a := by
  rw [orDefault?, h]

/-- What is written of a value that may be missing, null standing for none. -/
theorem optional?_getD {read : Json → Option α} {write : α → Json}
    (hread : ∀ a, read (write a) = some a) (hnull : ∀ a, write a ≠ .null) (o : Option α) :
    optional? read ((o.map write).getD .null) = some o := by
  cases o with
  | none => rfl
  | some a =>
    have hwrite : optional? read (write a) = (read (write a)).map some := by
      unfold optional?
      split
      · next h => exact absurd h (hnull a)
      · rfl
    rw [Option.map_some, Option.getD_some, hwrite, hread, Option.map_some]

theorem optional?_word (o : Option UInt32) :
    optional? word? ((o.map word).getD .null) = some o :=
  optional?_getD word?_word nofun o

theorem optional?_string (o : Option String) :
    optional? string? ((o.map Json.string).getD .null) = some o := by
  have hread (s : String) : string? (.string s) = some s := rfl
  exact optional?_getD hread nofun o

theorem mapM_string? (names : List String) :
    (names.map Json.string).mapM string? = some names := by
  induction names with
  | nil => rfl
  | cons name rest ih => simp [string?, ih]

theorem mapM_fill? {slots : List Slot} (hslots : ∀ slot ∈ slots, slot.presence = .defaulted)
    (members : KeyMap Json) :
    slots.mapM (·.fill? members) =
      some (slots.map fun slot => KeyMap.get? members slot.name) := by
  induction slots with
  | nil => rfl
  | cons slot rest ih =>
    obtain ⟨hslot, hrest⟩ := List.forall_mem_cons.mp hslots
    have hfill : slot.fill? members = some (KeyMap.get? members slot.name) := by
      unfold Slot.fill?
      rw [hslot]
      cases KeyMap.get? members slot.name <;> rfl
    rw [List.mapM_cons, hfill, ih hrest]
    rfl

/-- A record whose fields all have defaults is filled by looking the fields up. -/
theorem fill?_object {slots : List Slot} {closed : Bool} {members : KeyMap Json}
    (hslots : ∀ slot ∈ slots, slot.presence = .defaulted)
    (hclosed : closed = true → ∀ m ∈ members, m.1 ∈ slots.map Slot.name) :
    fill? slots closed (.object members) =
      some (slots.map fun slot => KeyMap.get? members slot.name) := by
  have hknown : (closed && members.any fun m => !slots.any (·.name == m.1)) = false := by
    cases closed with
    | false => rfl
    | true =>
      rw [Bool.true_and, List.any_eq_false]
      intro m hm
      obtain ⟨slot, hslot, hname⟩ := List.mem_map.mp (hclosed rfl m hm)
      rw [Bool.not_eq_true, Bool.not_eq_false', List.any_eq_true]
      exact ⟨slot, hslot, beq_iff_eq.mpr hname⟩
  rw [fill?, hknown]
  exact mapM_fill? hslots members

/-- What is written of a record is filled with the values that were written. -/
theorem fill?_ofMembers {slots : List Slot} {closed : Bool} {members : List (String × Json)}
    (hslots : ∀ slot ∈ slots, slot.presence = .defaulted)
    (hkeys : (KeyMap.keys members).Nodup)
    (hclosed : closed = true → ∀ m ∈ members, m.1 ∈ slots.map Slot.name) :
    fill? slots closed (.ofMembers members) =
      some (slots.map fun slot => KeyMap.get? members slot.name) := by
  rw [ofMembers, fill?_object hslots fun hc m hm => hclosed hc m (KeyMap.mem_of_mem_ofEntries hm)]
  simp only [KeyMap.get?_ofEntries hkeys]

end Json

theorem SortOrder.ofJson?_toJson (order : SortOrder) : ofJson? order.toJson = some order :=
  ofWord?_word order

-- ---------------------------------------------------------------------------
-- Complex queries
-- ---------------------------------------------------------------------------

theorem Condition.toJson_ne_null (c : Condition) : c.toJson ≠ .null := by
  cases c <;> simp [toJson]

namespace ComplexQuery

theorem fieldsOfJson?_strings (names : List String) :
    fieldsOfJson? (.strings names) = some names :=
  Json.mapM_string? names

theorem presence_slots : ∀ slot ∈ slots, slot.presence = .defaulted := by
  simp [slots]

theorem fill?_toJson (q : ComplexQuery) :
    Json.fill? slots true q.toJson = some
      [some (.word q.page), some ((q.pageSize.map Json.word).getD .null),
        some ((q.sortBy.map Json.string).getD .null), some q.sortOrder.toJson,
        some (.bool q.count), some (.strings q.fields),
        some ((q.condition.map Condition.toJson).getD .null)] := by
  rw [toJson, Json.fill?_ofMembers presence_slots (by simp [KeyMap.keys]) (by simp [slots])]
  simp [slots, KeyMap.get?]

theorem ofJson?_eq_some {j : Json} {q : ComplexQuery}
    {page size sortBy sortOrder count fields condition : Option Json}
    (hfill : Json.fill? slots true j =
      some [page, size, sortBy, sortOrder, count, fields, condition])
    (hpage : Json.orDefault? Json.word? 1 page = some q.page)
    (hsize : Json.orDefault? (Json.optional? Json.word?) none size = some q.pageSize)
    (hsort : Json.orDefault? (Json.optional? Json.string?) none sortBy = some q.sortBy)
    (horder : Json.orDefault? SortOrder.ofJson? .asc sortOrder = some q.sortOrder)
    (hcount : Json.orDefault? Json.bool? false count = some q.count)
    (hfields : Json.orDefault? fieldsOfJson? [] fields = some q.fields)
    (hcondition : Json.orDefault? (Json.optional? Condition.ofJson?) none condition =
      some q.condition) :
    ofJson? j = some q := by
  simp [ofJson?, hfill, hpage, hsize, hsort, horder, hcount, hfields, hcondition]

theorem ofJson?_toJson (q : ComplexQuery) : ofJson? q.toJson = some q := by
  have hcondition := Json.optional?_getD Condition.ofJson?_toJson Condition.toJson_ne_null
    q.condition
  exact ofJson?_eq_some q.fill?_toJson (Json.orDefault?_some (Json.word?_word _))
    (Json.orDefault?_some (Json.optional?_word _))
    (Json.orDefault?_some (Json.optional?_string _))
    (Json.orDefault?_some (SortOrder.ofJson?_toJson _)) (Json.orDefault?_some rfl)
    (Json.orDefault?_some (fieldsOfJson?_strings _)) (Json.orDefault?_some hcondition)

end ComplexQuery

-- ---------------------------------------------------------------------------
-- Flat queries
-- ---------------------------------------------------------------------------

namespace FlatQuery

/-- The query was read from a query string, or from a JSON object. -/
inductive Received (q : FlatQuery) : Prop
  | pairs (pairs : List (String × String)) : ofPairs pairs = .ok q → Received q
  | object (members : KeyMap Json) :
    members.Ordered → ofJson? (.object members) = some q → Received q

/-- The parameters are in order, none of them has a reserved key, and none is left out. -/
structure Plain (q : FlatQuery) : Prop where
  ordered : q.params.Ordered
  unreserved : ∀ e ∈ q.params, isReserved e.1 = false
  excluded : q.excluded = []

theorem Plain.congr {q q' : FlatQuery} (h : q.Plain) (hparams : q'.params = q.params)
    (hexcluded : q'.excluded = q.excluded) : q'.Plain :=
  ⟨hparams ▸ h.ordered, hparams ▸ h.unreserved, hexcluded.trans h.excluded⟩

theorem Plain.withParam {q : FlatQuery} (h : q.Plain) {key : String}
    (hkey : isReserved key = false) (value : Json) : (q.withParam key value).Plain where
  ordered := KeyMap.ordered_put h.ordered key value
  unreserved := by
    intro e he
    rcases KeyMap.mem_put he with rfl | he
    · exact hkey
    · exact h.unreserved e he
  excluded := h.excluded

theorem takePair_unreserved {key : String} (hkey : isReserved key = false) (q : FlatQuery)
    (value : String) : q.takePair key value = .ok (q.withParam key (.string value)) := by
  simp [isReserved, reservedKeys] at hkey
  simp [takePair, hkey]

theorem takePair_reserved {q q' : FlatQuery} {key value : String} (hkey : isReserved key = true)
    (h : q.takePair key value = .ok q') : q'.params = q.params ∧ q'.excluded = q.excluded := by
  simp only [isReserved, reservedKeys, List.contains_iff_mem, List.mem_cons, List.not_mem_nil,
    or_false] at hkey
  rcases hkey with rfl | rfl | rfl | rfl | rfl | rfl <;>
    simp only [takePair, String.reduceEq, if_true, if_false, bind_ok, pure_ok] at h <;> grind

theorem Plain.takePair {q q' : FlatQuery} (h : q.Plain) {key value : String}
    (htake : q.takePair key value = .ok q') : q'.Plain := by
  cases hkey : isReserved key with
  | true =>
    obtain ⟨hparams, hexcluded⟩ := takePair_reserved hkey htake
    exact h.congr hparams hexcluded
  | false =>
    rw [takePair_unreserved hkey] at htake
    cases htake
    exact h.withParam hkey _

theorem Plain.takePairs {q q' : FlatQuery} (h : q.Plain) {pairs : List (String × String)}
    (htake : q.takePairs pairs = .ok q') : q'.Plain := by
  induction pairs generalizing q with
  | nil =>
    cases htake
    exact h
  | cons pair rest ih =>
    obtain ⟨key, value⟩ := pair
    simp only [FlatQuery.takePairs, bind_ok] at htake
    obtain ⟨q₁, hq₁, hrest⟩ := htake
    exact ih (h.takePair hq₁) hrest

theorem params_of_ofJson? {members : KeyMap Json} {q : FlatQuery}
    (h : ofJson? (.object members) = some q) :
    q.params = members.filter (fun e => !isReserved e.1) ∧ q.excluded = [] := by
  simp only [ofJson?, Option.bind_eq_bind, Option.bind_eq_some_iff] at h
  obtain ⟨values, -, h⟩ := h
  split at h
  · simp only [Option.bind_eq_some_iff, Option.pure_def, Option.some_inj] at h
    obtain ⟨-, -, -, -, -, -, -, -, -, -, -, -, rfl⟩ := h
    exact ⟨rfl, rfl⟩
  · cases h

theorem Received.plain {q : FlatQuery} (h : q.Received) : q.Plain := by
  cases h with
  | pairs pairs h =>
    have hempty : Plain {} := ⟨List.Pairwise.nil, List.forall_mem_nil _, rfl⟩
    exact hempty.takePairs h
  | object members hordered h =>
    obtain ⟨hparams, hexcluded⟩ := params_of_ofJson? h
    refine ⟨hparams ▸ hordered.filter _, ?_, hexcluded⟩
    rw [hparams]
    intro e he
    simpa using (List.mem_filter.mp he).2

theorem ofJson?_eq_some {members : KeyMap Json} {q : FlatQuery}
    {page size sortBy sortOrder fields count : Option Json}
    (hfill : Json.fill? slots false (.object members) =
      some [page, size, sortBy, sortOrder, fields, count])
    (hpage : Json.orDefault? Json.word? 1 page = some q.page)
    (hsize : Json.orDefault? (Json.optional? Json.word?) none size = some q.pageSize)
    (hsort : Json.orDefault? (Json.optional? Json.string?) none sortBy = some q.sortBy)
    (horder : Json.orDefault? SortOrder.ofJson? .asc sortOrder = some q.sortOrder)
    (hfields : Json.orDefault? Json.string? "" fields = some q.fields)
    (hcount : Json.orDefault? Json.bool? false count = some q.count)
    (hparams : members.filter (fun e => !isReserved e.1) = q.params)
    (hexcluded : q.excluded = []) : ofJson? (.object members) = some q := by
  simp [ofJson?, hfill, hpage, hsize, hsort, horder, hcount, hfields, hparams, ← hexcluded]

section
variable {q : FlatQuery} (h : q.Plain)
include h

theorem Plain.not_mem_keys {k : String} (hk : isReserved k = true) :
    k ∉ KeyMap.keys q.params := by
  intro hmem
  obtain ⟨e, he, rfl⟩ := List.mem_map.mp hmem
  exact Bool.false_ne_true ((h.unreserved e he).symm.trans hk)

theorem Plain.nodup_keys : (KeyMap.keys (q.reservedToJson ++ q.params)).Nodup := by
  rw [KeyMap.keys, List.map_append]
  refine List.nodup_append.mpr ⟨by simp [reservedToJson], h.ordered.nodup_keys, ?_⟩
  rintro k hk _ hk' rfl
  exact h.not_mem_keys (List.contains_iff_mem.mpr hk) hk'

theorem Plain.fill?_toJson :
    Json.fill? slots false q.toJson = some
      [some (.word q.page), some ((q.pageSize.map Json.word).getD .null),
        some ((q.sortBy.map Json.string).getD .null), some q.sortOrder.toJson,
        some (.string q.fields), some (.bool q.count)] := by
  rw [toJson, Json.fill?_ofMembers (by simp [slots]) h.nodup_keys (by simp)]
  simp [slots, reservedKeys, reservedToJson, KeyMap.get?]

/-- The members that are no reserved ones are the parameters. -/
theorem Plain.filter_toJson :
    (KeyMap.ofEntries (q.reservedToJson ++ q.params)).filter (fun e => !isReserved e.1) =
      q.params := by
  refine KeyMap.eq_of_get? ((KeyMap.ordered_ofEntries _).filter _) h.ordered fun k => ?_
  rw [KeyMap.get?_filter _ fun k => !isReserved k, KeyMap.get?_ofEntries h.nodup_keys,
    KeyMap.get?_append]
  cases hk : isReserved k with
  | true =>
    rw [KeyMap.get?_of_not_mem (h.not_mem_keys hk)]
    rfl
  | false =>
    have hreserved : k ∉ KeyMap.keys q.reservedToJson := by
      intro hmem
      exact Bool.false_ne_true (hk.symm.trans (List.contains_iff_mem.mpr hmem))
    rw [KeyMap.get?_of_not_mem hreserved]
    rfl

theorem Plain.ofJson?_toJson : ofJson? q.toJson = some q :=
  ofJson?_eq_some h.fill?_toJson (Json.orDefault?_some (Json.word?_word _))
    (Json.orDefault?_some (Json.optional?_word _))
    (Json.orDefault?_some (Json.optional?_string _))
    (Json.orDefault?_some (SortOrder.ofJson?_toJson _)) (Json.orDefault?_some rfl)
    (Json.orDefault?_some rfl) h.filter_toJson h.excluded

end

end FlatQuery

-- ---------------------------------------------------------------------------
-- All of them
-- ---------------------------------------------------------------------------

/-- Trees and queries are read back from what is written of them, and no value is read as a
tree in two ways. -/
theorem read_back_and_unambiguous :
    (∀ c : Condition, Condition.ofJson? c.toJson = some c) ∧
    (∀ q : ComplexQuery, ComplexQuery.ofJson? q.toJson = some q) ∧
    (∀ q : FlatQuery, q.Received → FlatQuery.ofJson? q.toJson = some q) ∧
    ∀ j : Json,
      (Condition.leafOfJson? j = none ∨ Condition.groupOfJson? j = none) ∧
      Condition.ofJson? j =
        ((Condition.leafOfJson? j).map Condition.leaf).or (Condition.groupOfJson? j) ∧
      Condition.ofJson? j =
        (Condition.groupOfJson? j).or ((Condition.leafOfJson? j).map Condition.leaf) :=
  ⟨Condition.ofJson?_toJson, ComplexQuery.ofJson?_toJson, fun _ h => h.plain.ofJson?_toJson,
    fun j => ⟨Condition.leaf_or_group j, Condition.ofJson?_eq j,
      Condition.ofJson?_eq_group_first j⟩⟩

/-- A query string in which keys are repeated and one is no field of any entity, and an
object with a field that is null and two parameters. -/
theorem read_back_and_unambiguous_flat :
    (∃ q, FlatQuery.ofPairs [("name", "n1"), ("page", " 3"), ("excluded", ""), ("page", "+4"),
        ("fields", "id"), ("name", "n2")] = .ok q ∧
      q.Received ∧ FlatQuery.ofJson? q.toJson = some q) ∧
    ∃ q, FlatQuery.ofJson? (.object [("age__in", .array [.null]), ("fields", .string "id"),
        ("page_size", .null), ("team", .object [])]) = some q ∧
      q.Received ∧ FlatQuery.ofJson? q.toJson = some q := by
  obtain ⟨-, -, hflat, -⟩ := read_back_and_unambiguous
  constructor
  · obtain ⟨q, hread⟩ : ∃ q, FlatQuery.ofPairs [("name", "n1"), ("page", " 3"),
        ("excluded", ""), ("page", "+4"), ("fields", "id"), ("name", "n2")] = .ok q :=
      ⟨_, rfl⟩
    exact ⟨q, hread, .pairs _ hread, hflat q (.pairs _ hread)⟩
  · obtain ⟨q, hread⟩ : ∃ q, FlatQuery.ofJson? (.object [("age__in", .array [.null]),
        ("fields", .string "id"), ("page_size", .null), ("team", .object [])]) = some q :=
      ⟨_, rfl⟩
    have hordered : KeyMap.Ordered [("age__in", Json.array [.null]), ("fields", .string "id"),
        ("page_size", .null), ("team", .object [])] := by
      unfold KeyMap.Ordered
      decide
    exact ⟨q, hread, .object _ hordered hread, hflat q (.object _ hordered hread)⟩

end RecordQuery
