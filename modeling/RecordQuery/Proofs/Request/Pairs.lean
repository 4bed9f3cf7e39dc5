import Mathlib.Data.List.Forall2
import RecordQuery.Proofs.Collection.FirstFault
import RecordQuery.Proofs.Request.Values
import RecordQuery.Proofs.Request.Written
import RecordQuery.Sample.Heroes

/-!
# Queries from a query string

The pairs of a query string are taken in one by one, and the keys can be repeated. Every pair
has to have a value that its key can take, also one that a later pair replaces; of the pairs
with one key the last counts. Reserved and excluded keys are no filters.
-/

namespace RecordQuery

namespace FlatQuery

-- ---------------------------------------------------------------------------
-- One pair
-- ---------------------------------------------------------------------------

/-- The text is a value for the key. A key that is not parsed takes any text. -/
structure Accepts (key text : String) : Prop where
  number : key = "page" ∨ key = "page_size" → ∃ n, CountText n text
  order : key = "sort_order" → ∃ order, OrderText order text
  flag : key = "count" → ∃ flag, FlagText flag text

/-- The error for a text that is no value for its key. -/
def fault (key text : String) : QueryError :=
  if key = "sort_order" then
    .invalidValue key (.unknownOrder (Text.lowerAscii (Text.trim text)))
  else if key = "count" then .invalidValue key (.notFlag text)
  else .invalidWindow (.notCount key text)

/-- The text of the last pair with the key. -/
def last? (pairs : List (String × String)) (key : String) : Option String :=
  KeyMap.get? pairs.reverse key

theorem last?_append (pairs rest : List (String × String)) (key : String) :
    last? (pairs ++ rest) key = (last? rest key).or (last? pairs key) := by
  rw [last?, List.reverse_append, KeyMap.get?_append, last?, last?]

/-- The last pair with the key, if there is one, decides what follows; else all stays. -/
def Settles (pairs : List (String × String)) (key : String) (meant : String → α → Prop)
    (before after : α) : Prop :=
  match last? pairs key with
  | some text => meant text after
  | none => after = before

theorem Settles.append {pairs rest : List (String × String)} {key : String}
    {meant : String → α → Prop} {a b c : α} (h : Settles pairs key meant a b)
    (hrest : Settles rest key meant b c) : Settles (pairs ++ rest) key meant a c := by
  unfold Settles at *
  rw [last?_append]
  cases hlast : last? rest key with
  | some text => simpa [hlast] using hrest
  | none =>
    obtain rfl : c = b := by simpa [hlast] using hrest
    simpa using h

/-- What the pairs make of a query: each field is settled by its own key, and the parameters
by the keys that are not reserved. -/
structure Reads (pairs : List (String × String)) (q q' : FlatQuery) : Prop where
  page : Settles pairs "page" (fun text n => CountText n text) q.page q'.page
  pageSize : Settles pairs "page_size" (fun text size => ∃ n, CountText n text ∧ size = some n)
    q.pageSize q'.pageSize
  sortBy : Settles pairs "sort_by" (fun text sortBy => sortBy = some text) q.sortBy q'.sortBy
  sortOrder : Settles pairs "sort_order" (fun text order => OrderText order text)
    q.sortOrder q'.sortOrder
  fields : Settles pairs "fields" (fun text fields => fields = text) q.fields q'.fields
  count : Settles pairs "count" (fun text flag => FlagText flag text) q.count q'.count
  params : ∀ key, isReserved key = false →
    Settles pairs key (fun text value => value = some (.string text))
      (KeyMap.get? q.params key) (KeyMap.get? q'.params key)
  reserved : ∀ key, isReserved key = true →
    KeyMap.get? q'.params key = KeyMap.get? q.params key
  excluded : q'.excluded = q.excluded

theorem Reads.append {pairs rest : List (String × String)} {q q₁ q₂ : FlatQuery}
    (h : Reads pairs q q₁) (hrest : Reads rest q₁ q₂) : Reads (pairs ++ rest) q q₂ where
  page := h.page.append hrest.page
  pageSize := h.pageSize.append hrest.pageSize
  sortBy := h.sortBy.append hrest.sortBy
  sortOrder := h.sortOrder.append hrest.sortOrder
  fields := h.fields.append hrest.fields
  count := h.count.append hrest.count
  params key hkey := (h.params key hkey).append (hrest.params key hkey)
  reserved key hkey := (hrest.reserved key hkey).trans (h.reserved key hkey)
  excluded := hrest.excluded.trans h.excluded

theorem settles_pair {key text k : String} {meant : String → α → Prop} {before after : α} :
    Settles [(key, text)] k meant before after ↔
      if k = key then meant text after else after = before := by
  by_cases h : k = key <;> simp [Settles, last?, KeyMap.get?, h]

/-- A reserved key settles no parameter. -/
theorem settles_unreserved {key text k : String} {meant : String → α → Prop} {value : α}
    (hkey : isReserved key = true) (hk : isReserved k = false) :
    Settles [(key, text)] k meant value value := by
  have hne : k ≠ key := by
    rintro rfl
    exact Bool.false_ne_true (hk.symm.trans hkey)
  rw [settles_pair, if_neg hne]

theorem reads_nil (q : FlatQuery) : Reads [] q q := by
  constructor <;> simp [Settles, last?, KeyMap.get?]

/-- How one pair ends. -/
inductive Takes (q : FlatQuery) (key text : String) : Except QueryError FlatQuery → Prop
  | ok {q' : FlatQuery} : Accepts key text → Reads [(key, text)] q q' → Takes q key text (.ok q')
  | error : ¬Accepts key text → Takes q key text (.error (fault key text))

section
variable (q : FlatQuery)

/-- A key whose text is parsed takes the texts that have a meaning. -/
theorem takes_of_decides {x : Except QueryError α} {key text : String} {meant : α → Prop}
    {set : α → FlatQuery} (hx : Decides x meant (fault key text))
    (haccepts : Accepts key text ↔ ∃ a, meant a)
    (hset : ∀ a, meant a → Reads [(key, text)] q (set a)) :
    Takes q key text (x >>= fun a => pure (set a)) := by
  cases hresult : x with
  | ok a =>
    have hmeant : meant a := (hx.ok a).mp hresult
    exact .ok (haccepts.mpr ⟨a, hmeant⟩) (hset a hmeant)
  | error e =>
    obtain rfl := hx.error e hresult
    refine .error fun h => ?_
    obtain ⟨a, ha⟩ := haccepts.mp h
    rw [(hx.ok a).mpr ha] at hresult
    cases hresult

theorem takes_page (text : String) : Takes q "page" text (q.takePair "page" text) := by
  refine takes_of_decides q (parseNumber_decides "page" text) ?_ fun n hn => ?_
  · exact ⟨fun h => h.number (.inl rfl), fun h => ⟨fun _ => h, by simp, by simp⟩⟩
  · constructor
    case params => exact fun k hk => settles_unreserved (by decide) hk
    all_goals simp [settles_pair, hn]

theorem takes_pageSize (text : String) :
    Takes q "page_size" text (q.takePair "page_size" text) := by
  refine takes_of_decides q (parseNumber_decides "page_size" text) ?_ fun n hn => ?_
  · exact ⟨fun h => h.number (.inr rfl), fun h => ⟨fun _ => h, by simp, by simp⟩⟩
  · constructor
    case params => exact fun k hk => settles_unreserved (by decide) hk
    all_goals simp [settles_pair, hn]

theorem takes_sortOrder (text : String) :
    Takes q "sort_order" text (q.takePair "sort_order" text) := by
  refine takes_of_decides q (parseOrder_decides text) ?_ fun order horder => ?_
  · exact ⟨fun h => h.order rfl, fun h => ⟨by simp, fun _ => h, by simp⟩⟩
  · constructor
    case params => exact fun k hk => settles_unreserved (by decide) hk
    all_goals simp [settles_pair, horder]

theorem takes_count (text : String) : Takes q "count" text (q.takePair "count" text) := by
  refine takes_of_decides q (parseFlag_decides "count" text) ?_ fun flag hflag => ?_
  · exact ⟨fun h => h.flag rfl, fun h => ⟨by simp, by simp, fun _ => h⟩⟩
  · constructor
    case params => exact fun k hk => settles_unreserved (by decide) hk
    all_goals simp [settles_pair, hflag]

theorem takes_sortBy (text : String) : Takes q "sort_by" text (q.takePair "sort_by" text) := by
  refine .ok ⟨by simp, by simp, by simp⟩ ?_
  constructor
  case params => exact fun k hk => settles_unreserved (by decide) hk
  all_goals simp [settles_pair]

theorem takes_fields (text : String) : Takes q "fields" text (q.takePair "fields" text) := by
  refine .ok ⟨by simp, by simp, by simp⟩ ?_
  constructor
  case params => exact fun k hk => settles_unreserved (by decide) hk
  all_goals simp [settles_pair]

theorem takes_param {key : String} (hkey : isReserved key = false) (text : String) :
    Takes q key text (q.takePair key text) := by
  have hne : ∀ k, isReserved k = true → k ≠ key := by
    rintro k hk rfl
    exact Bool.false_ne_true (hkey.symm.trans hk)
  rw [takePair_unreserved hkey]
  refine .ok ⟨?_, ?_, ?_⟩ ?_
  · rintro (rfl | rfl) <;> cases hkey
  · rintro rfl
    cases hkey
  · rintro rfl
    cases hkey
  constructor
  case params =>
    intro k hk
    rw [settles_pair, withParam, KeyMap.get?_put]
    split <;> rfl
  case reserved =>
    intro k hk
    rw [withParam, KeyMap.get?_put, if_neg (hne k hk)]
  case excluded => rfl
  all_goals rw [settles_pair, if_neg (hne _ (by decide))]; rfl

/-- Every pair is taken or refused for its own key. -/
theorem takePair_takes (key text : String) : Takes q key text (q.takePair key text) := by
  cases hkey : isReserved key with
  | false => exact takes_param q hkey text
  | true =>
    simp only [isReserved, reservedKeys, List.contains_iff_mem, List.mem_cons, List.not_mem_nil,
      or_false] at hkey
    rcases hkey with rfl | rfl | rfl | rfl | rfl | rfl
    · exact takes_page q text
    · exact takes_pageSize q text
    · exact takes_sortBy q text
    · exact takes_sortOrder q text
    · exact takes_fields q text
    · exact takes_count q text

end

-- ---------------------------------------------------------------------------
-- All pairs
-- ---------------------------------------------------------------------------

/-- The first pair whose text is no value for its key has this error. -/
inductive FirstFault : List (String × String) → QueryError → Prop
  | here {key text : String} (rest : List (String × String)) :
    ¬Accepts key text → FirstFault ((key, text) :: rest) (fault key text)
  | later {key text : String} {rest : List (String × String)} {e : QueryError} :
    Accepts key text → FirstFault rest e → FirstFault ((key, text) :: rest) e

theorem FirstFault.unique {pairs : List (String × String)} {e e' : QueryError}
    (h : FirstFault pairs e) (h' : FirstFault pairs e') : e = e' := by
  induction h with
  | here rest hfault =>
    cases h' with
    | here => rfl
    | later haccepts => exact absurd haccepts hfault
  | later haccepts _ ih =>
    cases h' with
    | here _ hfault => exact absurd haccepts hfault
    | later _ hrest => exact ih hrest

theorem FirstFault.exists_not_accepts {pairs : List (String × String)} {e : QueryError}
    (h : FirstFault pairs e) : ∃ pair ∈ pairs, ¬Accepts pair.1 pair.2 := by
  induction h with
  | here rest hfault => exact ⟨_, List.mem_cons_self, hfault⟩
  | later _ _ ih =>
    obtain ⟨pair, hpair, hfault⟩ := ih
    exact ⟨pair, List.mem_cons_of_mem _ hpair, hfault⟩

/-- How a query string ends. -/
inductive TakesAll (q : FlatQuery) (pairs : List (String × String)) :
    Except QueryError FlatQuery → Prop
  | ok {q' : FlatQuery} :
    (∀ pair ∈ pairs, Accepts pair.1 pair.2) → Reads pairs q q' → TakesAll q pairs (.ok q')
  | error {e : QueryError} : FirstFault pairs e → TakesAll q pairs (.error e)

theorem takePairs_takesAll (q : FlatQuery) (pairs : List (String × String)) :
    TakesAll q pairs (q.takePairs pairs) := by
  induction pairs generalizing q with
  | nil => exact .ok (List.forall_mem_nil _) (reads_nil q)
  | cons pair rest ih =>
    obtain ⟨key, text⟩ := pair
    show TakesAll q _ (q.takePair key text >>= fun q => q.takePairs rest)
    have htake := takePair_takes q key text
    generalize q.takePair key text = taken at htake
    cases htake with
    | error hfault => exact .error (.here rest hfault)
    | @ok q₁ haccepts hreads =>
      have hrest := ih q₁
      show TakesAll q _ (q₁.takePairs rest)
      generalize q₁.takePairs rest = outcome at hrest
      cases hrest with
      | error hfault => exact .error (.later haccepts hfault)
      | ok hall hreadsRest =>
        exact .ok (List.forall_mem_cons.mpr ⟨haccepts, hall⟩) (hreads.append hreadsRest)

-- ---------------------------------------------------------------------------
-- The order of the pairs
-- ---------------------------------------------------------------------------

theorem last?_perm {pairs pairs' : List (String × String)} (h : pairs.Perm pairs')
    (hkeys : (pairs.map Prod.fst).Nodup) (key : String) : last? pairs key = last? pairs' key := by
  have hreverse : pairs.reverse.Perm pairs'.reverse :=
    (List.reverse_perm pairs).trans (h.trans (List.reverse_perm pairs').symm)
  have hkeysReverse : (KeyMap.keys pairs.reverse).Nodup :=
    ((List.reverse_perm pairs).map Prod.fst).nodup_iff.mpr hkeys
  exact KeyMap.get?_perm hreverse hkeysReverse key

section
variable {pairs pairs' : List (String × String)} {q q₁ q₂ : FlatQuery}

theorem Settles.congr {key : String} {meant : String → α → Prop} {before after : α}
    (h : last? pairs key = last? pairs' key) (hs : Settles pairs key meant before after) :
    Settles pairs' key meant before after := by
  rwa [Settles, ← h]

theorem Settles.unique {key : String} {meant : String → α → Prop} {before a b : α}
    (hmeant : ∀ text, meant text a → meant text b → a = b) (ha : Settles pairs key meant before a)
    (hb : Settles pairs key meant before b) : a = b := by
  unfold Settles at ha hb
  cases hlast : last? pairs key with
  | some text =>
    rw [hlast] at ha hb
    exact hmeant text ha hb
  | none =>
    rw [hlast] at ha hb
    exact ha.trans hb.symm

theorem Reads.congr (h : ∀ key, last? pairs key = last? pairs' key) (hreads : Reads pairs q q₁) :
    Reads pairs' q q₁ where
  page := hreads.page.congr (h _)
  pageSize := hreads.pageSize.congr (h _)
  sortBy := hreads.sortBy.congr (h _)
  sortOrder := hreads.sortOrder.congr (h _)
  fields := hreads.fields.congr (h _)
  count := hreads.count.congr (h _)
  params key hkey := (hreads.params key hkey).congr (h _)
  reserved := hreads.reserved
  excluded := hreads.excluded

/-- The pairs leave no choice. -/
theorem Reads.unique (h₁ : Reads pairs q q₁) (h₂ : Reads pairs q q₂) (hordered₁ : q₁.params.Ordered)
    (hordered₂ : q₂.params.Ordered) : q₁ = q₂ := by
  have hpage : q₁.page = q₂.page :=
    h₁.page.unique (fun text => (parseNumber_decides "page" text).unique) h₂.page
  have hsize : q₁.pageSize = q₂.pageSize := by
    refine h₁.pageSize.unique ?_ h₂.pageSize
    rintro text ⟨m, hm, hsize₁⟩ ⟨n, hn, hsize₂⟩
    rw [hsize₁, hsize₂, (parseNumber_decides "page_size" text).unique hm hn]
  have hsort : q₁.sortBy = q₂.sortBy :=
    h₁.sortBy.unique (fun _ h h' => h.trans h'.symm) h₂.sortBy
  have horder : q₁.sortOrder = q₂.sortOrder :=
    h₁.sortOrder.unique (fun text => (parseOrder_decides text).unique) h₂.sortOrder
  have hfields : q₁.fields = q₂.fields :=
    h₁.fields.unique (fun _ h h' => h.trans h'.symm) h₂.fields
  have hcount : q₁.count = q₂.count :=
    h₁.count.unique (fun text => (parseFlag_decides "count" text).unique) h₂.count
  have hparams : q₁.params = q₂.params := by
    refine KeyMap.eq_of_get? hordered₁ hordered₂ fun key => ?_
    cases hkey : isReserved key with
    | true => exact (h₁.reserved key hkey).trans (h₂.reserved key hkey).symm
    | false =>
      exact (h₁.params key hkey).unique (fun _ h h' => h.trans h'.symm) (h₂.params key hkey)
  have hexcluded : q₁.excluded = q₂.excluded := h₁.excluded.trans h₂.excluded.symm
  cases q₁
  cases q₂
  simp_all

end

-- ---------------------------------------------------------------------------
-- From nothing
-- ---------------------------------------------------------------------------

section
variable {pairs : List (String × String)}

theorem exists_ofPairs :
    (∃ q, ofPairs pairs = .ok q) ↔ ∀ pair ∈ pairs, Accepts pair.1 pair.2 := by
  unfold ofPairs
  have hall := takePairs_takesAll {} pairs
  generalize takePairs {} pairs = outcome at hall
  cases hall with
  | ok haccepts _ => exact ⟨fun _ => haccepts, fun _ => ⟨_, rfl⟩⟩
  | error hfault =>
    obtain ⟨pair, hpair, hnot⟩ := hfault.exists_not_accepts
    exact ⟨nofun, fun haccepts => absurd (haccepts pair hpair) hnot⟩

theorem ofPairs_error {e : QueryError} : ofPairs pairs = .error e ↔ FirstFault pairs e := by
  unfold ofPairs
  have hall := takePairs_takesAll {} pairs
  generalize takePairs {} pairs = outcome at hall
  cases hall with
  | ok haccepts _ =>
    refine ⟨nofun, fun hfault => ?_⟩
    obtain ⟨pair, hpair, hnot⟩ := hfault.exists_not_accepts
    exact absurd (haccepts pair hpair) hnot
  | error hfault =>
    constructor
    · rintro ⟨⟩
      exact hfault
    · intro hfault'
      rw [hfault.unique hfault']

theorem ofPairs_reads {q : FlatQuery} (h : ofPairs pairs = .ok q) : Reads pairs {} q := by
  unfold ofPairs at h
  have hall := takePairs_takesAll {} pairs
  rw [h] at hall
  cases hall with
  | ok _ hreads => exact hreads

/-- Pairs with different keys can be given in any order. -/
theorem ofPairs_perm {pairs' : List (String × String)} (h : pairs.Perm pairs')
    (hkeys : (pairs.map Prod.fst).Nodup) :
    (ofPairs pairs').toOption = (ofPairs pairs).toOption := by
  cases hpairs : ofPairs pairs with
  | ok q =>
    have haccepts := exists_ofPairs.mp ⟨q, hpairs⟩
    obtain ⟨q', hpairs'⟩ := exists_ofPairs.mpr fun pair hpair => haccepts pair (h.mem_iff.mpr hpair)
    have hreads' : Reads pairs {} q' :=
      (ofPairs_reads hpairs').congr fun key => (last?_perm h hkeys key).symm
    have hsame : q' = q := hreads'.unique (ofPairs_reads hpairs)
      (Received.pairs _ hpairs').plain.ordered (Received.pairs _ hpairs).plain.ordered
    rw [hpairs', hsame]
  | error e =>
    cases hpairs' : ofPairs pairs' with
    | ok q' =>
      have haccepts := exists_ofPairs.mp ⟨q', hpairs'⟩
      obtain ⟨q, hq⟩ := exists_ofPairs.mpr fun pair hpair => haccepts pair (h.mem_iff.mp hpair)
      rw [hpairs] at hq
      cases hq
    | error e' => rfl

end

-- ---------------------------------------------------------------------------
-- Filters
-- ---------------------------------------------------------------------------

/-- The query after calls that each exclude some keys. -/
def excluding (q : FlatQuery) (calls : List (List String)) : FlatQuery :=
  calls.foldl excludeKeys q

theorem excluding_eq (q : FlatQuery) (calls : List (List String)) :
    q.excluding calls = { q with excluded := q.excluded ++ calls.flatten } := by
  induction calls generalizing q with
  | nil => simp [excluding]
  | cons keys rest ih =>
    have hcons : q.excluding (keys :: rest) = (q.excludeKeys keys).excluding rest := rfl
    simp [hcons, ih, excludeKeys]

/-- A query that was read, from pairs or from JSON, has no parameter with a reserved key, and
no key is excluded yet. -/
theorem unreserved_of_read {q : FlatQuery}
    (h : (∃ pairs, ofPairs pairs = .ok q) ∨ ∃ j, ofJson? j = some q) :
    (∀ e ∈ q.params, isReserved e.1 = false) ∧ q.excluded = [] := by
  rcases h with ⟨pairs, h⟩ | ⟨j, h⟩
  · have hplain := (Received.pairs pairs h).plain
    exact ⟨hplain.unreserved, hplain.excluded⟩
  · cases j with
    | object members =>
      obtain ⟨hparams, hexcluded⟩ := params_of_ofJson? h
      refine ⟨fun e he => ?_, hexcluded⟩
      rw [hparams] at he
      simpa using (List.mem_filter.mp he).2
    | _ => cases h

section
variable {q : FlatQuery} (hexcluded : q.excluded = []) (calls : List (List String))
include hexcluded

theorem filterParams_excluding :
    (q.excluding calls).filterParams = q.params.filter fun e => !calls.flatten.contains e.1 := by
  rw [excluding_eq, hexcluded, List.nil_append, filterParams]

theorem mem_filterParams_excluding {e : String × Json} :
    e ∈ (q.excluding calls).filterParams ↔ e ∈ q.params ∧ ∀ keys ∈ calls, e.1 ∉ keys := by
  rw [filterParams_excluding hexcluded, List.mem_filter]
  simp

/-- The filters are compiled as if the excluded parameters had not been there. -/
theorem compileFlat_excluding (c : Collection) (condition : Option Condition) :
    c.compileFlat (q.excluding calls) condition =
      c.compileFlat { q with params := q.params.filter fun e => !calls.flatten.contains e.1 }
        condition := by
  have hparams := filterParams_excluding hexcluded calls
  rw [Collection.compileFlat, Collection.compileFlat, Collection.ofFlat, Collection.ofFlat, hparams,
    excluding_eq]
  simp [filterParams, hexcluded, selection]

end

/-- A query that compiles has a predicate for every filter parameter with a value, and besides
them the one of its condition. -/
theorem compileFlat_predicates {c : Collection} {q : FlatQuery} {condition : Option Condition}
    {compiled : CompiledQuery} (h : c.compileFlat q condition = .ok compiled) :
    ∃ filters tree, compiled.statement.predicates = filters ++ tree.toList ∧
      Condition.compile? c.schema c.config.singleValueInAsEq condition = .ok tree ∧
      List.Forall₂ (fun e p =>
        Parameters.compileOne c.schema c.config.singleValueInAsEq e.1 e.2 = .ok p)
        (Parameters.given q.filterParams) filters := by
  obtain ⟨ps, hps, keys, -, w, -, rfl⟩ := Collection.compile_ok.mp h
  obtain ⟨filters, hfilters, hps⟩ := bind_ok.mp hps
  obtain ⟨tree, htree, hps⟩ := bind_ok.mp hps
  obtain rfl := pure_ok.mp hps
  exact ⟨filters, tree, rfl, htree, Parameters.compile_eq_ok.mp hfilters⟩

/-- Pairs make a query exactly when each of them has a value that its key takes; otherwise the
first that has none is reported. Each field is what the last pair with its key says, or the
default, and the parameters are the texts of the last pairs with the other keys, so that pairs
with different keys can come in any order. No query that was read, from pairs or from JSON, has
a parameter with a reserved key. Its filters are the parameters that no call excludes, and only
they become predicates. -/
theorem reserved_and_excluded_apart :
    (∀ pairs : List (String × String),
      ((∃ q, ofPairs pairs = .ok q) ↔ ∀ pair ∈ pairs, Accepts pair.1 pair.2) ∧
      (∀ e, ofPairs pairs = .error e ↔ FirstFault pairs e) ∧
      (∀ q, ofPairs pairs = .ok q → Reads pairs {} q ∧ q.params.Ordered) ∧
      ∀ pairs', pairs.Perm pairs' → (pairs.map Prod.fst).Nodup →
        (ofPairs pairs').toOption = (ofPairs pairs).toOption) ∧
    ∀ q : FlatQuery, ((∃ pairs, ofPairs pairs = .ok q) ∨ ∃ j, ofJson? j = some q) →
      (∀ e ∈ q.params, isReserved e.1 = false) ∧
      ∀ calls : List (List String),
        (∀ e, e ∈ (q.excluding calls).filterParams ↔
          e ∈ q.params ∧ ∀ keys ∈ calls, e.1 ∉ keys) ∧
        ∀ (c : Collection) (condition : Option Condition),
          c.compileFlat (q.excluding calls) condition =
            c.compileFlat { q with params := q.params.filter fun e => !calls.flatten.contains e.1 }
              condition ∧
          ∀ compiled, c.compileFlat (q.excluding calls) condition = .ok compiled →
            ∃ filters tree, compiled.statement.predicates = filters ++ tree.toList ∧
              Condition.compile? c.schema c.config.singleValueInAsEq condition = .ok tree ∧
              List.Forall₂ (fun e p => (isReserved e.1 = false ∧ ∀ keys ∈ calls, e.1 ∉ keys) ∧
                Parameters.compileOne c.schema c.config.singleValueInAsEq e.1 e.2 = .ok p)
                (Parameters.given (q.excluding calls).filterParams) filters := by
  constructor
  · intro pairs
    refine ⟨exists_ofPairs, fun e => ofPairs_error, fun q h => ?_, fun pairs' => ofPairs_perm⟩
    exact ⟨ofPairs_reads h, (Received.pairs pairs h).plain.ordered⟩
  · intro q hread
    obtain ⟨hunreserved, hexcluded⟩ := unreserved_of_read hread
    refine ⟨hunreserved, fun calls => ⟨fun e => mem_filterParams_excluding hexcluded calls, ?_⟩⟩
    intro c condition
    refine ⟨compileFlat_excluding hexcluded calls c condition, fun compiled h => ?_⟩
    obtain ⟨filters, tree, hpredicates, htree, hfilters⟩ := compileFlat_predicates h
    refine ⟨filters, tree, hpredicates, htree, ?_⟩
    refine (List.forall₂_and_left _ _).mpr ⟨fun e he => ?_, hfilters⟩
    obtain ⟨hparam, hcalls⟩ :=
      (mem_filterParams_excluding hexcluded calls).mp (List.mem_of_mem_filter he)
    exact ⟨hunreserved e hparam, hcalls⟩

/-- A page and a filter that are given twice; a flag that is none, in front of a page that is no
number; the same pairs backwards; and a trace key that the schema does not know. -/
theorem reserved_and_excluded_apart_heroes :
    let c : Collection := ⟨"Hero", Sample.heroSchema, {}⟩
    let pairs := [("sort_order", " Desc"), ("trace", "7"), ("age__ge", "18"), ("count", "YES")]
    (ofPairs [("page", "2"), ("age", "3"), ("page", " +4 "), ("age", "5")] = .ok
      { page := 4, params := [("age", .string "5")] } ∧
      Reads [("page", "2"), ("age", "3"), ("page", " +4 "), ("age", "5")] {}
        { page := 4, params := [("age", .string "5")] }) ∧
    (ofPairs [("count", "maybe"), ("page", "x"), ("count", "on")] =
        .error (.invalidValue "count" (.notFlag "maybe")) ∧
      FirstFault [("count", "maybe"), ("page", "x"), ("count", "on")]
        (.invalidValue "count" (.notFlag "maybe"))) ∧
    (ofPairs pairs.reverse).toOption = (ofPairs pairs).toOption ∧
    ∃ q compiled p, ofPairs pairs = .ok q ∧
      c.compileFlat (q.excluding [["trace"], ["page"]]) none = .ok compiled ∧
      compiled.statement.predicates = [p] ∧
      Parameters.compileOne c.schema true "age__ge" (.string "18") = .ok p := by
  intro c pairs
  obtain ⟨hpairs, hfilters⟩ := reserved_and_excluded_apart
  obtain ⟨-, -, hreads, -⟩ := hpairs [("page", "2"), ("age", "3"), ("page", " +4 "), ("age", "5")]
  obtain ⟨-, hfault, -⟩ := hpairs [("count", "maybe"), ("page", "x"), ("count", "on")]
  obtain ⟨-, -, -, hperm⟩ := hpairs pairs
  have hmaybe : Text.lowerAscii (Text.trim "maybe") = "maybe" := by decide +kernel
  have hdesc : Text.lowerAscii (Text.trim " Desc") = "desc" := by decide +kernel
  have hyes : Text.lowerAscii (Text.trim "YES") = "yes" := by decide +kernel
  have hcount : ofPairs [("count", "maybe"), ("page", "x"), ("count", "on")] =
      .error (.invalidValue "count" (.notFlag "maybe")) := by
    simp only [ofPairs, takePairs, takePair, parseFlag, hmaybe]
    rfl
  have hq : ofPairs pairs = .ok
      { sortOrder := .desc, count := true
        params := [("age__ge", .string "18"), ("trace", .string "7")] } := by
    simp only [ofPairs, pairs, takePairs, takePair, parseFlag, SortOrder.parse, hdesc, hyes]
    rfl
  refine ⟨⟨rfl, (hreads _ rfl).1⟩, ⟨hcount, (hfault _).mp hcount⟩, ?_, ?_⟩
  · exact hperm pairs.reverse (List.reverse_perm pairs).symm (by decide)
  · obtain ⟨-, hcalls⟩ := hfilters _ (.inl ⟨pairs, hq⟩)
    obtain ⟨-, hcompiles⟩ := hcalls [["trace"], ["page"]]
    obtain ⟨-, hpredicates⟩ := hcompiles c none
    obtain ⟨filters, tree, hstatement, htree, hcompiled⟩ := hpredicates _ rfl
    obtain ⟨p, rest, ⟨-, hp⟩, hrest, rfl⟩ := List.forall₂_cons_left_iff.mp hcompiled
    obtain rfl := List.forall₂_nil_left_iff.mp hrest
    obtain rfl : none = tree := Except.ok.inj htree
    exact ⟨_, _, p, hq, rfl, hstatement, hp⟩

end FlatQuery

end RecordQuery
