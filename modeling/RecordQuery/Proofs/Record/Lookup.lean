import RecordQuery.Proofs.Store.Answer
import RecordQuery.Record.Shape

/-!
# Look-ups

What a key leads to after entries are put into a map, after a record is cut down to some of
its columns, and after relations are loaded. A join reads the local key of a row alone, so
it is the same for every row that has kept it.
-/

namespace RecordQuery

namespace KeyMap

theorem get?_filter (m : KeyMap α) (keep : String → Bool) (k : String) :
    get? (m.filter fun e => keep e.1) k = if keep k then get? m k else none := by
  induction m with
  | nil => simp [get?]
  | cons e rest ih =>
    obtain ⟨k', v⟩ := e
    by_cases hk : k = k'
    · subst hk
      cases hkeep : keep k <;> simp [get?, hkeep, ih]
    · cases hkeep : keep k' <;> simp [get?, hkeep, hk, ih]

theorem get?_eq_none {m : KeyMap α} {k : String} (h : ∀ e ∈ m, k < e.1) : get? m k = none := by
  induction m with
  | nil => rfl
  | cons e rest ih =>
    obtain ⟨he, hrest⟩ := List.forall_mem_cons.mp h
    rw [get?, if_neg (String.ne_of_lt he), ih hrest]

theorem mem_foldl_put {entries : List (String × α)} {m : KeyMap α} {e : String × α}
    (h : e ∈ entries.foldl (fun m e => put m e.1 e.2) m) : e ∈ m ∨ e ∈ entries := by
  induction entries generalizing m with
  | nil => exact .inl h
  | cons d rest ih =>
    rcases ih h with h | h
    · rcases mem_put h with rfl | h
      · exact .inr List.mem_cons_self
      · exact .inl h
    · exact .inr (List.mem_cons_of_mem _ h)

theorem mem_of_mem_ofEntries {entries : List (String × α)} {e : String × α}
    (h : e ∈ ofEntries entries) : e ∈ entries :=
  (mem_foldl_put h).resolve_left List.not_mem_nil

/-- A key that comes before all others is missing. -/
theorem get?_cons_eq_none {e : String × α} {rest : KeyMap α} (h : Ordered (e :: rest))
    {k : String} (hk : k < e.1) : get? (e :: rest) k = none := by
  refine get?_eq_none (List.forall_mem_cons.mpr ⟨hk, fun e' he' => ?_⟩)
  exact String.lt_trans hk ((List.pairwise_cons.mp h).1 e' he')

theorem get?_cons_self (e : String × α) (rest : KeyMap α) : get? (e :: rest) e.1 = some e.2 :=
  if_pos rfl

/-- A map is known from its look-ups. -/
theorem eq_of_get? {m n : KeyMap α} (hm : Ordered m) (hn : Ordered n)
    (h : ∀ k, get? m k = get? n k) : m = n := by
  induction m generalizing n with
  | nil =>
    cases n with
    | nil => rfl
    | cons d rest => simpa [get?] using h d.1
  | cons e rest ih =>
    cases n with
    | nil => simpa [get?] using h e.1
    | cons d rest' =>
      have he := h e.1
      have hd := h d.1
      rw [get?_cons_self] at he hd
      have hkey : e.1 = d.1 := by
        refine String.le_antisymm (fun hlt => ?_) (fun hlt => ?_)
        · simp [get?_cons_eq_none hm hlt] at hd
        · simp [get?_cons_eq_none hn hlt] at he
      have hvalue : e.2 = d.2 := by
        rw [hkey, get?_cons_self] at he
        exact Option.some_inj.mp he
      have hhead : e = d := Prod.ext hkey hvalue
      subst hhead
      obtain ⟨hlt, hrest⟩ := List.pairwise_cons.mp hm
      obtain ⟨hlt', hrest'⟩ := List.pairwise_cons.mp hn
      refine congrArg (e :: ·) (ih hrest hrest' fun k => ?_)
      by_cases hk : k = e.1
      · rw [hk, get?_eq_none hlt, get?_eq_none hlt']
      · simpa [get?, hk] using h k

theorem get?_append (m n : KeyMap α) (k : String) :
    get? (m ++ n) k = (get? m k).or (get? n k) := by
  induction m with
  | nil => rfl
  | cons e rest ih =>
    by_cases hk : k = e.1 <;> simp [get?, hk, ih]

theorem get?_of_not_mem {m : KeyMap α} {k : String} (h : k ∉ keys m) : get? m k = none := by
  induction m with
  | nil => rfl
  | cons e rest ih =>
    obtain ⟨he, hrest⟩ := not_or.mp (mt List.mem_cons.mpr h)
    rw [get?, if_neg he, ih hrest]

theorem get?_foldl_put {entries : List (String × α)} (h : (keys entries).Nodup) (m : KeyMap α)
    (k : String) :
    get? (entries.foldl (fun m e => put m e.1 e.2) m) k = (get? entries k).or (get? m k) := by
  induction entries generalizing m with
  | nil => rfl
  | cons e rest ih =>
    obtain ⟨he, hrest⟩ := List.nodup_cons.mp h
    rw [List.foldl_cons, ih hrest, get?_put, get?]
    by_cases hk : k = e.1
    · rw [hk, get?_of_not_mem he]
      simp
    · simp [hk]

/-- Entries with different keys can be looked up where they are. -/
theorem get?_ofEntries {entries : List (String × α)} (h : (keys entries).Nodup) (k : String) :
    get? (ofEntries entries) k = get? entries k := by
  rw [ofEntries, get?_foldl_put h]
  exact Option.or_none

theorem mem_of_get? {m : KeyMap α} {k : String} {v : α} (h : get? m k = some v) : (k, v) ∈ m := by
  induction m with
  | nil => cases h
  | cons e rest ih =>
    rw [get?] at h
    split at h
    · next hk =>
      obtain rfl : e.2 = v := Option.some_inj.mp h
      exact hk ▸ List.mem_cons_self
    · exact List.mem_cons_of_mem _ (ih h)

theorem get?_of_mem {m : KeyMap α} (h : (keys m).Nodup) {e : String × α} (he : e ∈ m) :
    get? m e.1 = some e.2 := by
  induction m with
  | nil => cases he
  | cons d rest ih =>
    obtain ⟨hd, hrest⟩ := List.nodup_cons.mp h
    rcases List.mem_cons.mp he with rfl | he
    · exact get?_cons_self e rest
    · have hne : e.1 ≠ d.1 := fun heq => hd (heq ▸ List.mem_map_of_mem he)
      rw [get?, if_neg hne, ih hrest he]

/-- Where no key is repeated, the order of the entries does not matter. -/
theorem get?_perm {m n : KeyMap α} (h : m.Perm n) (hkeys : (keys m).Nodup) (k : String) :
    get? m k = get? n k := by
  have hkeys' : (keys n).Nodup := (h.map Prod.fst).nodup_iff.mp hkeys
  refine Option.ext fun v => ?_
  constructor
  · intro hv
    exact get?_of_mem hkeys' (h.mem_iff.mp (mem_of_get? hv))
  · intro hv
    exact get?_of_mem hkeys (h.mem_iff.mpr (mem_of_get? hv))

/-- Entries with different keys are all in the map, and nothing else is. -/
theorem mem_ofEntries {entries : List (String × α)} (h : (keys entries).Nodup)
    {e : String × α} : e ∈ ofEntries entries ↔ e ∈ entries := by
  refine ⟨mem_of_mem_ofEntries, fun he => mem_of_get? ?_⟩
  rw [get?_ofEntries h, get?_of_mem h he]

theorem Ordered.nodup_keys {m : KeyMap α} (h : Ordered m) : (keys m).Nodup :=
  List.pairwise_map.mpr (h.imp fun hlt => String.ne_of_lt hlt)

theorem mem_keys_iff {m : KeyMap α} (h : Ordered m) {k : String} :
    k ∈ keys m ↔ (get? m k).isSome := by
  rw [keys, List.mem_map, Option.isSome_iff_exists]
  constructor
  · rintro ⟨e, he, rfl⟩
    exact ⟨e.2, get?_of_mem h.nodup_keys he⟩
  · rintro ⟨v, hv⟩
    exact ⟨(k, v), mem_of_get? hv, rfl⟩

theorem Ordered.filter {m : KeyMap α} (h : Ordered m) (keep : String × α → Bool) :
    Ordered (m.filter keep) :=
  List.Pairwise.filter keep h

/-- Entries whose value is a function of the key: their order does not matter. -/
theorem get?_enter (m : KeyMap α) (value : String → Option α) (names : List String)
    (k : String) :
    get? ((names.filterMap fun name => (value name).map fun v => (name, v)).foldl
        (fun m e => put m e.1 e.2) m) k =
      if k ∈ names then (value k).or (get? m k) else get? m k := by
  induction names generalizing m with
  | nil => simp
  | cons name rest ih =>
    cases hv : value name with
    | none =>
      rw [List.filterMap_cons_none (by simp [hv]), ih]
      by_cases hk : k = name
      · subst hk
        simp [hv]
      · simp [hk]
    | some v =>
      rw [List.filterMap_cons_some (by simp [hv]; rfl), List.foldl_cons, ih, get?_put]
      by_cases hk : k = name
      · subst hk
        simp [hv]
      · simp [hk]

end KeyMap

namespace Record

theorem get?_project (r : Record) (names : List String) (k : String) :
    (r.project names).get? k = if k ∈ names then r.get? k else none := by
  unfold project get?
  rw [KeyMap.get?_filter]
  simp

theorem get?_setRelation (r : Record) (name : String) (value : Related) (k : String) :
    (r.setRelation name value).get? k = r.get? k := rfl

theorem dump_ofColumns (columns : KeyMap Json) :
    Record.dump (ofColumns columns) = .object columns := by
  rw [ofColumns, Record.dump, shapeRelations]
  rfl

/-- The members of the object that a row is shown as when fields are selected. -/
def members (schema : Schema) (fields : OutputFields) (r : Record) : KeyMap Json :=
  .ofEntries (r.shownColumns (schema.primaryKeys ++ fields.columns) ++
    r.shownRelations fields.relations)

theorem shape_eq {fields : OutputFields} (h : fields.isEmpty = false) (schema : Schema)
    (r : Record) : r.shape schema fields = .object (r.members schema fields) := by
  rw [shape, if_neg (by simp [h])]
  rfl

theorem ordered_members (schema : Schema) (fields : OutputFields) (r : Record) :
    (r.members schema fields).Ordered :=
  KeyMap.ordered_ofEntries _

/-- A relation takes the place of a column of its name. -/
theorem get?_members (schema : Schema) (fields : OutputFields) (r : Record) (k : String) :
    (r.members schema fields).get? k =
      if k ∈ fields.relations then some (((r.relation? k).map Related.shape).getD .null)
      else if k ∈ schema.primaryKeys ∨ k ∈ fields.columns then r.get? k
      else none := by
  have hrelations : r.shownRelations fields.relations = fields.relations.filterMap fun name =>
      (some (((r.relation? name).map Related.shape).getD .null)).map fun v => (name, v) := by
    simp [shownRelations]
  rw [members, KeyMap.ofEntries, List.foldl_append, hrelations, shownColumns, KeyMap.get?_enter,
    KeyMap.get?_enter]
  simp [KeyMap.get?]

theorem relation?_setRelation (r : Record) (name : String) (value : Related) (k : String) :
    (r.setRelation name value).relation? k = if k = name then some value else r.relation? k :=
  KeyMap.get?_put ..

end Record

theorem joined_congr {a b : Record} {r : Relation} (h : a.get? r.localKey = b.get? r.localKey)
    (candidates : List Record) : joined r candidates a = joined r candidates b := by
  unfold joined
  rw [h]

namespace Store

variable (s : Store) (schema : Schema)

/-- What a relation of the row leads to in the store. -/
def related (r : Relation) (row : Record) : Related :=
  r.cardinality.related (joined r (s.rows r.targetTable) row)

theorem related_congr {a b : Record} {r : Relation}
    (h : a.get? r.localKey = b.get? r.localKey) : s.related r a = s.related r b := by
  unfold related
  rw [joined_congr h]

theorem loaded_cons_some {name : String} {r : Relation} (h : schema.relation? name = some r)
    (rest : List String) (row : Record) :
    s.loaded schema (name :: rest) row =
      s.loaded schema rest (row.setRelation name (s.related r row)) := by
  unfold loaded related
  rw [List.foldl_cons, h]

theorem loaded_cons_none {name : String} (h : schema.relation? name = none)
    (rest : List String) (row : Record) :
    s.loaded schema (name :: rest) row = s.loaded schema rest row := by
  unfold loaded
  rw [List.foldl_cons, h]

theorem get?_loaded (names : List String) (row : Record) (k : String) :
    (s.loaded schema names row).get? k = row.get? k := by
  induction names generalizing row with
  | nil => rfl
  | cons name rest ih =>
    cases h : schema.relation? name with
    | none => rw [loaded_cons_none s schema h, ih]
    | some r => rw [loaded_cons_some s schema h, ih, Record.get?_setRelation]

/-- Every named relation is loaded from the row as it was at first. -/
theorem relation?_loaded (names : List String) (row : Record) (k : String) :
    (s.loaded schema names row).relation? k =
      if k ∈ names then ((schema.relation? k).map (s.related · row)).or (row.relation? k)
      else row.relation? k := by
  induction names generalizing row with
  | nil => rfl
  | cons name rest ih =>
    cases h : schema.relation? name with
    | none =>
      rw [loaded_cons_none s schema h, ih]
      by_cases hk : k = name
      · subst hk
        simp [h]
      · simp [hk]
    | some r =>
      -- setting a relation leaves the columns, and with them what other relations lead to
      have hrelated (r' : Relation) :
          s.related r' (row.setRelation name (s.related r row)) = s.related r' row :=
        s.related_congr (Record.get?_setRelation ..)
      rw [loaded_cons_some s schema h, ih, Record.relation?_setRelation]
      by_cases hk : k = name
      · subst hk
        simp [h, hrelated]
      · simp [hk, hrelated]

section
variable {s schema} {columns relations : List String} {row : Record}

theorem get?_present {k : String} (hk : k ∈ columns) :
    (s.present schema columns relations row).get? k = row.get? k := by
  unfold present
  rw [get?_loaded]
  split
  · rfl
  · rw [Record.get?_project, if_pos hk]

/-- A relation is loaded as from the whole row as long as the column is kept that it is
joined by. -/
theorem relation?_present {k : String} {r : Relation} (hk : k ∈ relations)
    (hr : schema.relation? k = some r) (hkey : r.localKey ∈ columns) :
    (s.present schema columns relations row).relation? k = some (s.related r row) := by
  unfold present
  rw [relation?_loaded, if_pos hk, hr, Option.map_some, Option.some_or]
  refine congrArg some (s.related_congr ?_)
  split
  · rfl
  · rw [Record.get?_project, if_pos hkey]

end

end Store

end RecordQuery
