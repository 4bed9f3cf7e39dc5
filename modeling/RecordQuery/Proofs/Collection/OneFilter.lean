import RecordQuery.Proofs.Collection.Query
import RecordQuery.Proofs.Collection.Windows
import RecordQuery.Sample.Heroes

/-!
# Reads under one filter

The number of rows, whether there is one, the first of them, a list of them and their pages:
under the same filter these read off one sequence, although each read makes a statement of
its own. A validated configuration keeps the windows of the first row and of all rows within
its limits.
-/

namespace RecordQuery

-- ---------------------------------------------------------------------------
-- Windows from the first row on
-- ---------------------------------------------------------------------------

namespace Window

theorem slice_firstPage (size : UInt32) (rows : List α) :
    (Window.mk 1 size).slice rows = rows.take size.toNat := by
  simp [slice, offset, limit]

/-- Pages of any size begin with the same row. -/
theorem head?_slice_firstPage {size : UInt32} (hpos : 1 ≤ size) (rows : List α) :
    ((Window.mk 1 size).slice rows).head? = rows.head? := by
  rw [slice_firstPage, List.head?_take, if_neg]
  exact Nat.one_le_iff_ne_zero.mp (UInt32.le_iff_toNat_le.mp hpos)

theorem within_firstPage {config : Config} (h : config.validate = .ok ()) {size : UInt32}
    (hsize : size ≤ config.query.maxPageSize) :
    (Window.mk 1 size).Within config.query (some 1) (some size) := by
  obtain ⟨hpage, -⟩ := Config.validate_ok.mp h
  exact within_named (UInt32.le_refl 1) (by grind) hsize

theorem within_first {config : Config} (h : config.validate = .ok ()) :
    first.Within config.query (some first.page) (some first.size) := by
  obtain ⟨-, -, hunbounded, hle, -⟩ := Config.validate_ok.mp h
  exact within_firstPage h (by grind)

theorem within_unbounded {config : Config} (h : config.validate = .ok ()) :
    (unbounded config.query).Within config.query none none where
  page_eq := rfl
  page_pos := UInt32.le_refl 1
  page_le := (within_first h).page_le
  named := nofun
  unnamed _ := rfl

end Window

-- ---------------------------------------------------------------------------
-- What the reads answer
-- ---------------------------------------------------------------------------

/-- The same request for another page and page size. -/
def ListRequest.onPage (r : ListRequest) (page size : Option UInt32) : ListRequest :=
  { r with page := page, pageSize := size }

/-- Reads with the filters of a request find `n` rows, of which `head` comes first. -/
structure ListRequest.Answered (c : Collection) (s : Store) (r : ListRequest) (n : Nat)
    (head : Option Record) : Prop where
  count : ((c.count r.params r.condition).runOn s).1 = .ok n
  page : ∀ q : Query, q.counted = true →
    (q.request c).params = r.params → (q.request c).condition = r.condition →
    ∀ keys, SortKey.parse c.schema (q.request c).sortBy (q.request c).sortOrder = .ok keys →
    ∀ w : Window, w.Within c.config (q.request c).page (q.request c).pageSize →
    ∃ items, ((q.run c).runOn s).1 = .ok ⟨n, items⟩
  any : ((c.any r.params r.condition).runOn s).1 = .ok (decide (0 < n))
  first : ∀ page size, ((c.getFirst (r.onPage page size)).runOn s).1 = .ok head
  first_isSome : head.isSome ↔ 0 < n
  list_head : ∀ size, 1 ≤ size → size ≤ c.config.maxPageSize →
    ∃ rows, ((c.getList (r.onPage (some 1) (some size))).runOn s).1 = .ok rows ∧
      rows.head? = head
  list_length : ∃ rows, ((c.getList (r.onPage none none)).runOn s).1 = .ok rows ∧
    rows.length = min n c.config.unboundedPageSize.toNat

namespace Collection

/-- A row as the request shows it. -/
def present (c : Collection) (s : Store) (r : ListRequest) : Record → Record :=
  s.present c.schema (c.projection (.ofSelection c.schema r.selection))
    (OutputFields.ofSelection c.schema r.selection).relations

section
variable {c : Collection} {s : Store} {r : ListRequest} {ps : List Predicate}
  {keys : List SortKey} (honline : s.offline = false)
  (hfilter : c.compilePredicates r.params r.condition = .ok ps)
include honline hfilter

theorem count_filtered :
    ((c.count r.params r.condition).runOn s).1 = .ok (s.selected c.schema.table ps).length := by
  rw [runOn_count hfilter, honline]
  rfl

theorem page_filtered {q : Query} (hcounted : q.counted = true)
    (hparams : (q.request c).params = r.params)
    (hcondition : (q.request c).condition = r.condition)
    (hsort : SortKey.parse c.schema (q.request c).sortBy (q.request c).sortOrder = .ok keys)
    {w : Window} (hw : w.Within c.config (q.request c).page (q.request c).pageSize) :
    ∃ items, ((q.run c).runOn s).1 = .ok ⟨(s.selected c.schema.table ps).length, items⟩ := by
  rw [← hparams, ← hcondition] at hfilter
  have hcompile := compile_ok.mpr ⟨ps, hfilter, keys, hsort, w, window_eq_ok.mpr hw, rfl⟩
  rw [Query.runOn_run hcompile, runOn_execute, honline, hcounted, page, Store.matching_eq]
  exact ⟨_, rfl⟩

variable (hsort : SortKey.parse c.schema r.sortBy r.sortOrder = .ok keys)
include hsort

theorem list_filtered {page size : Option UInt32} {w : Window}
    (hw : w.Within c.config page size) :
    ((c.getList (r.onPage page size)).runOn s).1 =
      .ok ((w.slice (Store.sorted keys (s.selected c.schema.table ps))).map (c.present s r)) := by
  have hcompile : c.compile (r.onPage page size) = _ :=
    compile_ok.mpr ⟨ps, hfilter, keys, hsort, w, window_eq_ok.mpr hw, rfl⟩
  rw [runOn_getList hcompile, honline, Store.answer_eq _ _ _ rfl, Store.matching_eq]
  rfl

end

/-- On an online store, what compiles is answered alike by all of the reads. -/
theorem reads_agree (config : Config) (hconfig : config.validate = .ok ()) (c : Collection)
    (hc : c.config = config.query) (s : Store) (honline : s.offline = false) (r : ListRequest)
    (ps : List Predicate) (hfilter : c.compilePredicates r.params r.condition = .ok ps)
    (keys : List SortKey) (hsort : SortKey.parse c.schema r.sortBy r.sortOrder = .ok keys) :
    ∃ n head, r.Answered c s n head := by
  have hlength := (Store.sorted_perm keys (s.selected c.schema.table ps)).length_eq
  have hlist {page size : Option UInt32} {w : Window} (hw : w.Within c.config page size) :=
    list_filtered honline hfilter hsort hw
  refine ⟨(s.selected c.schema.table ps).length,
    ((Store.sorted keys (s.selected c.schema.table ps)).map (c.present s r)).head?, ?_⟩
  generalize Store.sorted keys (s.selected c.schema.table ps) = rows at hlength hlist ⊢
  exact {
    count := count_filtered honline hfilter
    page := fun q hcounted hparams hcondition keys' hsort' w hw =>
      page_filtered honline hfilter hcounted hparams hcondition hsort' hw
    any := by
      rw [any_eq, StoreM.runOn_map, count_filtered honline hfilter]
      rfl
    first := by
      intro page size
      have hfirst := hlist (hc ▸ Window.within_first hconfig)
      rw [getFirst_eq, StoreM.runOn_map]
      show Except.map List.head?
        ((c.getList (r.onPage (some Window.first.page) (some Window.first.size))).runOn s).1 = _
      rw [hfirst, Except.map, Window.first, List.head?_map, List.head?_map,
        Window.head?_slice_firstPage (UInt32.le_refl 1)]
    first_isSome := by
      rw [← hlength, List.isSome_head?, ← List.length_pos_iff, List.length_map]
    list_head := by
      intro size hpos hsize
      refine ⟨_, hlist (hc ▸ Window.within_firstPage hconfig (hc ▸ hsize)), ?_⟩
      rw [List.head?_map, List.head?_map, Window.head?_slice_firstPage hpos]
    list_length := by
      refine ⟨_, hlist (hc ▸ Window.within_unbounded hconfig), ?_⟩
      rw [Window.unbounded, Window.slice_firstPage, List.length_map, List.length_take, hlength,
        hc, Nat.min_comm] }

/-- Four heroes are older than three; that the request is for page zero does not matter. -/
theorem reads_agree_heroes :
    let c : Collection := ⟨"Hero", Sample.heroSchema, {}⟩
    let r : ListRequest :=
      { params := [("age__gt", .word 3)], sortBy := some "age", sortOrder := .desc,
        page := some 0 }
    Config.validate {} = .ok () ∧ Sample.store.offline = false ∧
      c.compilePredicates r.params r.condition = .ok [.compare "age" .gt (.word 3)] ∧
      SortKey.parse c.schema r.sortBy r.sortOrder = .ok [⟨"age", .desc⟩] ∧
      ∃ head, r.Answered c Sample.store 4 (some head) := by
  intro c r
  have hfilter : c.compilePredicates r.params r.condition = .ok [.compare "age" .gt (.word 3)] :=
    rfl
  refine ⟨rfl, rfl, hfilter, rfl, ?_⟩
  obtain ⟨n, head, h⟩ :=
    reads_agree {} rfl c rfl Sample.store rfl r _ hfilter [⟨"age", .desc⟩] rfl
  have hlength : (Sample.store.selected "hero" [.compare "age" .gt (.word 3)]).length = 4 := by
    decide +kernel
  obtain rfl : n = 4 := by
    rw [← hlength]
    exact Except.ok.inj (h.count.symm.trans (count_filtered rfl hfilter))
  obtain ⟨row, rfl⟩ := Option.isSome_iff_exists.mp (h.first_isSome.mpr (by decide))
  exact ⟨row, h⟩

end Collection

end RecordQuery
