import RecordQuery.Config.Layers
import RecordQuery.Proofs.Collection.FirstFault
import RecordQuery.Proofs.Collection.OneFilter
import RecordQuery.Proofs.Collection.Protocol
import RecordQuery.Proofs.FlatKey.Grammar
import RecordQuery.Proofs.Request.Given

/-!
# Windows without a request for them

The first page of the default size, the first row and all rows are windows that no request
asks for. Only a window can be refused for its page or page size, no filter and no sort is;
and whatever the limits of an accepted configuration are, these windows lie within them.
-/

namespace RecordQuery

-- ---------------------------------------------------------------------------
-- Accepted configurations
-- ---------------------------------------------------------------------------

/-- A configuration is accepted by itself, when it is what the layers of sources were read and
merged into, in whatever way that was done, or when it is taken over as a whole. -/
inductive Config.Accepted (config : Config) : Prop
  | validated : config.validate = .ok () → Accepted config
  | loaded (found : Option Config) : Config.accept found = .ok config → Accepted config
  | checked (app : String) (given : Config) (vars : KeyMap String) (environment : String) :
    Config.checked app given vars = .ok (environment, config) → Accepted config

theorem Config.Accepted.validate {config : Config} (h : config.Accepted) :
    config.validate = .ok () := by
  cases h with
  | validated h => exact h
  | loaded found h =>
    cases found with
    | none => cases h
    | some read =>
      obtain ⟨⟨⟩, hvalid, hread⟩ := bind_ok.mp h
      obtain rfl := pure_ok.mp hread
      exact hvalid
  | checked app given vars environment h =>
    obtain ⟨⟨⟩, hvalid, hchecked⟩ := bind_ok.mp h
    obtain ⟨-, rfl⟩ := Prod.mk.inj (pure_ok.mp hchecked)
    exact hvalid

-- ---------------------------------------------------------------------------
-- Faults of filters and sorts
-- ---------------------------------------------------------------------------

section
variable {schema : Schema} {fault : WindowFault}

theorem Schema.filterFault?_ne_window {shown field : String} {op : Operator} {value : Json} :
    schema.filterFault? shown field op value ≠ some (.invalidWindow fault) := by
  unfold filterFault?
  intro h
  split at h
  · cases h
  · split at h
    · cases h
    · obtain ⟨_, he⟩ := Operator.fault?_eq_some h
      cases he

theorem Parameters.fault?_ne_window {key : String} {value : Json} :
    fault? schema key value ≠ some (.invalidWindow fault) := by
  unfold fault?
  intro h
  have hreads := FlatKey.reads_parse schema key
  split at h
  · next e hparse =>
    rw [hparse] at hreads
    cases hreads <;> cases h
  · exact Schema.filterFault?_ne_window h

theorem SortKey.fault?_ne_window {name : String} :
    fault? schema name ≠ some (.invalidWindow fault) := by
  unfold fault?
  intro h
  split at h
  · cases h
  · split at h <;> cases h

theorem SortKey.parse_ne_window {sortBy : Option String} {order : SortOrder} :
    parse schema sortBy order ≠ .error (.invalidWindow fault) := by
  intro h
  rw [← error?_eq_some, error?_parse] at h
  obtain ⟨name, -, hname⟩ := List.exists_of_findSome?_eq_some h
  exact fault?_ne_window hname

end

namespace Collection

theorem compilePredicates_ne_window {c : Collection} {params : KeyMap Json}
    {condition : Option Condition} {fault : WindowFault} :
    c.compilePredicates params condition ≠ .error (.invalidWindow fault) := by
  intro h
  rw [← error?_eq_some, error?_compilePredicates, Option.or_eq_some_iff] at h
  rcases h with h | ⟨-, h⟩
  · obtain ⟨e, -, he⟩ := List.exists_of_findSome?_eq_some h
    exact Parameters.fault?_ne_window he
  · obtain ⟨l, -, hl⟩ := List.exists_of_findSome?_eq_some h
    exact Schema.filterFault?_ne_window hl

end Collection

-- ---------------------------------------------------------------------------
-- Windows within all limits
-- ---------------------------------------------------------------------------

/-- A page and a page size that the engine asks for itself. -/
inductive OwnWindow (config : QueryConfig) : Option UInt32 → Option UInt32 → Prop
  | defaultSize : OwnWindow config (some 1) (some config.defaultPageSize)
  | unbounded : OwnWindow config none none
  | first : OwnWindow config (some Window.first.page) (some Window.first.size)

theorem OwnWindow.exists_within {config : Config} (hconfig : config.validate = .ok ())
    {page size : Option UInt32} (h : OwnWindow config.query page size) :
    ∃ w : Window, w.Within config.query page size := by
  cases h with
  | defaultSize =>
    obtain ⟨-, hdefault, -⟩ := Config.validate_ok.mp hconfig
    exact ⟨_, Window.within_firstPage hconfig hdefault⟩
  | unbounded => exact ⟨_, Window.within_unbounded hconfig⟩
  | first => exact ⟨_, Window.within_first hconfig⟩

namespace Collection

variable {c : Collection} {r : ListRequest}

/-- A request with a window within the limits is refused for its filters or its sort alone. -/
theorem compile_error_of_within {w : Window} (h : w.Within c.config r.page r.pageSize)
    {e : QueryError} (he : c.compile r = .error e) :
    c.compilePredicates r.params r.condition = .error e ∨
      SortKey.parse c.schema r.sortBy r.sortOrder = .error e := by
  rcases compile_error.mp he with hfilter | ⟨-, -, hsort | ⟨-, -, hwindow⟩⟩
  · exact .inl hfilter
  · exact .inr hsort
  · rw [window_eq_ok.mpr h] at hwindow
    cases hwindow

theorem compile_ne_window {w : Window} (h : w.Within c.config r.page r.pageSize)
    (fault : WindowFault) : c.compile r ≠ .error (.invalidWindow fault) := by
  intro he
  rcases compile_error_of_within h he with hfilter | hsort
  · exact compilePredicates_ne_window hfilter
  · exact SortKey.parse_ne_window hsort

theorem keyRequest_ne_window {pk : String} {fault : WindowFault} :
    c.keyRequest pk ≠ .error (.invalidWindow fault) := by
  unfold keyRequest
  extract_lets keys parts
  intro h
  split at h
  · cases h
  · split at h <;> cases h

end Collection

-- ---------------------------------------------------------------------------
-- Reads
-- ---------------------------------------------------------------------------

namespace StoreM

variable {s : Store} {e : QueryError}

/-- What passes a check without this error and goes on without it does not end in it. -/
theorem runOn_check_ne {x : Except QueryError α} {f : α → StoreM QueryError β}
    (hx : x ≠ .error e) (hf : ∀ a, x = .ok a → ((f a).runOn s).1 ≠ .error e) :
    (StoreM.runOn (liftM x >>= f) s).1 ≠ .error e := by
  rw [runOn_bind, runOn_lift]
  cases x with
  | error e' =>
    intro h
    exact hx (congrArg Except.error (Except.error.inj h))
  | ok a => exact hf a rfl

theorem runOn_map_ne {x : StoreM QueryError α} (f : α → β) (h : (x.runOn s).1 ≠ .error e) :
    (StoreM.runOn (f <$> x) s).1 ≠ .error e := by
  rw [runOn_map]
  cases hx : (x.runOn s).1 with
  | error e' =>
    intro he
    exact h (hx.trans (congrArg Except.error (Except.error.inj he)))
  | ok a => nofun

end StoreM

/-- A read that leaves its window to the engine. The page and page size of a request for the
first row do not count. -/
def Read.OwnWindow : Read → Prop
  | query q => q.page = 1 ∧ q.pageSize = none
  | getList r => r.page = none ∧ r.pageSize = none
  | count .. | any .. | getFirst _ | getByKey _ => True

namespace Query

variable (q : Query) {c : Collection}

theorem page_request : (q.request c).page = some q.page := by
  cases q <;> rfl

theorem pageSize_request :
    (q.request c).pageSize = some (q.pageSize.getD c.config.defaultPageSize) := by
  cases q <;> rfl

end Query

namespace Collection

variable {c : Collection} {s : Store} {fault : WindowFault}

theorem getList_ne_window {r : ListRequest} {w : Window} (h : w.Within c.config r.page r.pageSize) :
    ((c.getList r).runOn s).1 ≠ .error (.invalidWindow fault) := by
  refine StoreM.runOn_check_ne (compile_ne_window h fault) fun q _ => ?_
  rw [runOn_reading_fetch]
  cases s.offline <;> nofun

theorem getFirst_ne_window {config : Config} (hconfig : config.validate = .ok ())
    (hc : c.config = config.query) (r : ListRequest) :
    ((c.getFirst r).runOn s).1 ≠ .error (.invalidWindow fault) := by
  rw [getFirst_eq]
  exact StoreM.runOn_map_ne _ (getList_ne_window (hc ▸ Window.within_first hconfig))

theorem count_ne_window {params : KeyMap Json} {condition : Option Condition} :
    ((c.count params condition).runOn s).1 ≠ .error (.invalidWindow fault) := by
  refine StoreM.runOn_check_ne compilePredicates_ne_window fun ps _ => ?_
  rw [runOn_reading_count]
  cases s.offline <;> nofun

theorem query_ne_window {q : Query} {w : Window}
    (h : w.Within c.config (q.request c).page (q.request c).pageSize) :
    ((q.run c).runOn s).1 ≠ .error (.invalidWindow fault) := by
  rw [Query.run_eq]
  refine StoreM.runOn_check_ne (compile_ne_window h fault) fun compiled _ => ?_
  rw [runOn_execute]
  cases s.offline <;> nofun

/-- Under an accepted configuration no read that leaves its window to the engine is refused for
it; what fails of such a request fails for its filters or its sort. A query that names no page
and no page size is such a read, and the page size of one that names none is the default one. -/
theorem own_windows_accepted (config : Config) (haccepted : config.Accepted) (c : Collection)
    (hc : c.config = config.query) :
    (∀ read : Read, read.OwnWindow → ∀ s fault,
      ((read.run c).runOn s).1 ≠ .error (.invalidWindow fault)) ∧
    (∀ r : ListRequest, OwnWindow config.query r.page r.pageSize → ∀ e,
      c.compile r = .error e →
        c.compilePredicates r.params r.condition = .error e ∨
          SortKey.parse c.schema r.sortBy r.sortOrder = .error e) ∧
    (∀ q : Query, q.pageSize = none → ∀ compiled, c.compile (q.request c) = .ok compiled →
      compiled.statement.window = some ⟨q.page, config.query.defaultPageSize⟩) ∧
    ∀ (q : Query) (names : List String), q.Given names →
      ("page" ∉ names → "page_size" ∉ names → (Read.query q).OwnWindow) ∧
      ("page_size" ∉ names → q.pageSize = none) := by
  have hconfig := haccepted.validate
  refine ⟨fun read hown s fault => ?_, fun r hown e he => ?_, fun q hsize compiled h => ?_,
    fun q names hgiven => ?_⟩
  · cases read with
    | query q =>
      obtain ⟨hpage, hsize⟩ := hown
      have hrequest : OwnWindow config.query (q.request c).page (q.request c).pageSize := by
        rw [q.page_request, q.pageSize_request, hpage, hsize, hc]
        exact .defaultSize
      obtain ⟨w, hw⟩ := hrequest.exists_within hconfig
      exact StoreM.runOn_map_ne _ (query_ne_window (hc ▸ hw))
    | count params condition => exact StoreM.runOn_map_ne _ count_ne_window
    | any params condition =>
      refine StoreM.runOn_map_ne _ ?_
      rw [any_eq]
      exact StoreM.runOn_map_ne _ count_ne_window
    | getList r =>
      obtain ⟨hpage, hsize⟩ := hown
      have hrequest : OwnWindow config.query r.page r.pageSize := by
        rw [hpage, hsize]
        exact .unbounded
      obtain ⟨w, hw⟩ := hrequest.exists_within hconfig
      exact StoreM.runOn_map_ne _ (getList_ne_window (hc ▸ hw))
    | getFirst r => exact StoreM.runOn_map_ne _ (getFirst_ne_window hconfig hc r)
    | getByKey pk =>
      refine StoreM.runOn_map_ne _ (StoreM.runOn_check_ne keyRequest_ne_window fun r _ => ?_)
      exact getFirst_ne_window hconfig hc r
  · obtain ⟨w, hw⟩ := hown.exists_within hconfig
    exact compile_error_of_within (hc ▸ hw) he
  · obtain ⟨_, -, _, -, w, hw, rfl⟩ := compile_ok.mp h
    have hwithin := window_eq_ok.mp hw
    rw [q.page_request, q.pageSize_request, hsize, Option.getD_none, hc] at hwithin
    obtain ⟨hdefault, -⟩ := hwithin.named _ rfl
    have hpage : w.page = q.page := hwithin.page_eq
    rw [← hpage, ← hdefault]
  · obtain ⟨hpage, hsize⟩ := hgiven.window
    exact ⟨fun hnopage hnosize => ⟨hpage hnopage, hsize hnosize⟩, hsize⟩

/-- One page at most and three rows at most, as three sources say together: a query without a
page, a look-up of the first row that asks for a page past the last, and a list of all rows. -/
theorem own_windows_accepted_small :
    let config : Config :=
      { query := { defaultPageSize := 3, maxPage := 1, maxPageSize := 3, unboundedPageSize := 3 } }
    let files : KeyMap String :=
      [("app.test.toml", "[query]\nmax_page_size = 3\nunbounded_page_size = 3\n"),
        ("app.toml", "[query]\nmax_page = 1\nmax_page_size = 9\n")]
    let c : Collection := ⟨"Hero", Sample.heroSchema, config.query⟩
    Config.load "app" files [("APP__QUERY__DEFAULT_PAGE_SIZE", "3")] "test" = .ok config ∧
      config.Accepted ∧
      (∃ q compiled, FlatQuery.ofPairs [("age__gt", "3"), ("sort_by", "name")] = .ok q ∧
        (Read.query (.flat q none)).OwnWindow ∧
        c.compile ((Query.flat q none).request c) = .ok compiled ∧
        compiled.statement.window = some ⟨1, 3⟩) ∧
      (∀ s fault, (((Read.getFirst { page := some 7, pageSize := some 9 }).run c).runOn s).1 ≠
        .error (.invalidWindow fault)) ∧
      ∀ s fault, (((Read.getList {}).run c).runOn s).1 ≠ .error (.invalidWindow fault) := by
  intro config files c
  have hload : Config.load "app" files [("APP__QUERY__DEFAULT_PAGE_SIZE", "3")] "test" =
      .ok config := by decide +kernel
  have haccepted : config.Accepted := .loaded _ hload
  obtain ⟨hreads, hsound, hdefault, hnames⟩ := own_windows_accepted config haccepted c rfl
  refine ⟨hload, haccepted, ?_, hreads _ trivial, hreads (.getList {}) ⟨rfl, rfl⟩⟩
  obtain ⟨q, hq⟩ : ∃ q, FlatQuery.ofPairs [("age__gt", "3"), ("sort_by", "name")] = .ok q :=
    ⟨_, rfl⟩
  obtain ⟨hown, -⟩ := hnames _ _ (.pairs _ none hq)
  obtain ⟨hpage, hsize⟩ := hown (by decide) (by decide)
  have hrequest : OwnWindow config.query ((Query.flat q none).request c).page
      ((Query.flat q none).request c).pageSize := by
    rw [Query.page_request, Query.pageSize_request, hpage, hsize]
    exact .defaultSize
  cases h : c.compile ((Query.flat q none).request c) with
  | error e =>
    cases hq
    rcases hsound _ hrequest e h with hfilter | hsort
    · cases hfilter
    · cases hsort
  | ok compiled =>
    have hwindow := hdefault _ hsize _ h
    rw [hpage] at hwindow
    exact ⟨q, compiled, hq, ⟨hpage, hsize⟩, h, hwindow⟩

end Collection

end RecordQuery
