import RecordQuery.Proofs.Collection.Query
import RecordQuery.Proofs.Collection.Windows
import RecordQuery.Sample.Heroes

/-!
# Pages of a result

While the tables of an online store do not change, the pages of a query are consecutive
pieces of one sequence of the rows that its filters select, in whatever order they are asked
for, and every page comes with the same count.
-/

namespace RecordQuery

-- ---------------------------------------------------------------------------
-- Queries
-- ---------------------------------------------------------------------------

namespace Query

/-- The same query for another page and page size. -/
def onPage (page size : UInt32) : Query → Query
  | flat q condition => flat (q.withPage page size) condition
  | complex q => complex { q with page := page, pageSize := some size }

/-- The filters and the sort of a query, apart from what it shows of which rows. -/
structure Asks (c : Collection) (params : KeyMap Json) (condition : Option Condition)
    (sortBy : Option String) (order : SortOrder) (q : Query) : Prop where
  params : (q.request c).params = params
  condition : (q.request c).condition = condition
  sortBy : (q.request c).sortBy = sortBy
  order : (q.request c).sortOrder = order

def fields (c : Collection) (q : Query) : OutputFields :=
  .ofSelection c.schema (q.request c).selection

/-- A row as the query shows it. -/
def present (c : Collection) (s : Store) (q : Query) : Record → Record :=
  s.present c.schema (c.projection (q.fields c)) (q.fields c).relations

/-- A query without fields shows the rows themselves. -/
theorem present_all {c : Collection} {s : Store} {q : Query} (h : q.fields c = .empty)
    (r : Record) : q.present c s r = r := by
  unfold present
  rw [h]
  rfl

theorem present_congr {s t : Store} (h : s.tables = t.tables) {c : Collection} {q : Query} :
    q.present c s = q.present c t :=
  Store.present_congr h ..

theorem request_onPage (c : Collection) (page size : UInt32) (q : Query) :
    (q.onPage page size).request c =
      { q.request c with page := some page, pageSize := some size } := by
  cases q <;> rfl

@[simp] theorem counted_onPage (page size : UInt32) (q : Query) :
    (q.onPage page size).counted = q.counted := by
  cases q <;> rfl

end Query

namespace Collection

-- ---------------------------------------------------------------------------
-- One page
-- ---------------------------------------------------------------------------

section
variable {c : Collection} {s : Store} {q : Query} {params : KeyMap Json}
  {condition : Option Condition} {sortBy : Option String} {order : SortOrder}
  {ps : List Predicate} {keys : List SortKey}
  (hfilter : c.compilePredicates params condition = .ok ps)
  (hsort : SortKey.parse c.schema sortBy order = .ok keys)
  (hq : q.Asks c params condition sortBy order)
include hfilter hsort hq

theorem compile_onPage {page size : UInt32} (hpage : 1 ≤ page) (hmax : page ≤ c.config.maxPage)
    (hsize : size ≤ c.config.maxPageSize) :
    c.compile ((q.onPage page size).request c) =
      .ok ⟨{ table := c.schema.table
             columns := c.projection (q.fields c)
             predicates := ps
             orderBy := keys
             window := some ⟨page, size⟩
             relations := (q.fields c).relations }, q.fields c⟩ := by
  obtain ⟨rfl, rfl, rfl, rfl⟩ := hq
  rw [Query.request_onPage]
  have hwindow := window_eq_ok.mpr (Window.within_named hpage hmax hsize)
  exact compile_ok.mpr ⟨ps, hfilter, keys, hsort, _, hwindow, rfl⟩

/-- The answer to one page: its part of the sorted rows that the filters select, and their
number where it is asked for. -/
theorem runOn_page (honline : s.offline = false) {page size : UInt32} (hpage : 1 ≤ page)
    (hmax : page ≤ c.config.maxPage) (hsize : size ≤ c.config.maxPageSize) :
    ((q.onPage page size).run c).runOn s =
      (.ok ⟨if q.counted then (s.selected c.schema.table ps).length else Paged.notCounted,
          ((Window.mk page size).slice
            (Store.sorted keys (s.selected c.schema.table ps))).map (q.present c s)⟩,
        s.charged 1 (if q.counted then 1 else 0)) := by
  rw [Query.runOn_run (compile_onPage hfilter hsort hq hpage hmax hsize), runOn_execute,
    Collection.page, honline, Store.matching_eq, Store.answer_eq _ _ _ rfl, Store.matching_eq,
    Query.counted_onPage, Bool.and_false]
  rfl

end

-- ---------------------------------------------------------------------------
-- All pages
-- ---------------------------------------------------------------------------

/-- The filters and the sort fix one sequence of the selected rows. Of it every query with
them answers, page by page and in any order of the pages, consecutive pieces of the page
size, each with the length of the sequence as its count. -/
theorem pages_tile (c : Collection) (s : Store) (params : KeyMap Json)
    (condition : Option Condition) (sortBy : Option String) (order : SortOrder)
    (ps : List Predicate) (keys : List SortKey) (honline : s.offline = false)
    (hfilter : c.compilePredicates params condition = .ok ps)
    (hsort : SortKey.parse c.schema sortBy order = .ok keys) :
    ∃ S : List Record,
      S.Perm ((s.rows c.schema.table).filter fun r => ps.all (·.holds r.columns)) ∧
      ∀ q : Query, q.Asks c params condition sortBy order →
      ∀ n : UInt32, 1 ≤ n → n ≤ c.config.maxPageSize →
        ∃ rows : Nat → List Record,
          (∀ pages : List UInt32, (∀ k ∈ pages, 1 ≤ k ∧ k ≤ c.config.maxPage) →
            ∃ s', (s'.tables = s.tables ∧ s'.offline = s.offline) ∧
              (pages.mapM fun k => (q.onPage k n).run c).runOn s =
                (.ok (pages.map fun k =>
                  ⟨if q.counted then S.length else Paged.notCounted, rows k.toNat⟩), s')) ∧
          (∀ K ≤ c.config.maxPage.toNat,
            (List.range' 1 K).flatMap rows = (S.take (K * n.toNat)).map (q.present c s)) ∧
          (∀ K, 1 ≤ K → K ≤ c.config.maxPage.toNat →
            (rows K = [] ↔ S.length ≤ (K - 1) * n.toNat)) ∧
          (q.fields c = .empty → ∀ r, q.present c s r = r) := by
  have hperm := Store.sorted_perm keys (s.selected c.schema.table ps)
  refine ⟨_, hperm, fun q hq n hpos hsize => ?_⟩
  refine ⟨fun k => (((Store.sorted keys (s.selected c.schema.table ps)).drop
    ((k - 1) * n.toNat)).take n.toNat).map (q.present c s), ?_, ?_, ?_, Query.present_all⟩
  · intro pages hpages
    -- the invariant of the run: reads leave the tables, and the store online
    refine StoreM.runOn_mapM (fun k hk t ht => ?_) ⟨rfl, rfl⟩
    obtain ⟨htables, honline'⟩ := ht
    obtain ⟨hpage, hmax⟩ := hpages k hk
    have hrun := runOn_page hfilter hsort hq (honline'.trans honline) hpage hmax hsize
    rw [Store.selected_congr htables, Query.present_congr htables, ← hperm.length_eq] at hrun
    refine ⟨_, ?_, hrun⟩
    exact ⟨htables, honline'⟩
  · intro K _
    rw [← Window.flatMap_pages, List.map_flatMap]
  · intro K _ _
    rw [List.map_eq_nil_iff]
    exact Window.page_eq_nil (UInt32.le_iff_toNat_le.mp hpos)

/-- The heroes in order of their teams, two at a time, the last page first. -/
theorem pages_tile_heroes :
    let c : Collection := ⟨"Hero", Sample.heroSchema, {}⟩
    let q : Query := .flat { sortBy := some "team_id", count := true } none
    ∃ (S : List Record) (rows : Nat → List Record) (s' : Store), S.Perm Sample.heroes ∧
      ([3, 1, 2].mapM fun k => (q.onPage k 2).run c).runOn Sample.store =
        (.ok [⟨6, rows 3⟩, ⟨6, rows 1⟩, ⟨6, rows 2⟩], s') ∧
      rows 1 ++ rows 2 ++ rows 3 = S ∧ rows 4 = [] := by
  intro c q
  obtain ⟨S, hperm, h⟩ := pages_tile c Sample.store [] none (some "team_id") .asc []
    [⟨"team_id", .asc⟩] rfl rfl rfl
  obtain ⟨rows, hrun, htile, hnil, hpresent⟩ :=
    h q ⟨rfl, rfl, rfl, rfl⟩ 2 (by decide) (by decide)
  have hlength : S.length = 6 := hperm.length_eq
  obtain ⟨s', _, hrun⟩ := hrun [3, 1, 2] (by simp [c])
  rw [hlength] at hrun
  refine ⟨S, rows, s', hperm, hrun, ?_, ?_⟩
  · have hpages := htile 3 (by decide)
    rw [List.take_of_length_le (by simp [hlength]), List.map_congr_left fun r _ => hpresent rfl r,
      List.map_id'] at hpages
    simpa [List.range'] using hpages
  · exact (hnil 4 (by decide) (by decide)).mpr (by simp [hlength])

end Collection

end RecordQuery
