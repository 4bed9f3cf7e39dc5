import RecordQuery.Collection
import RecordQuery.Proofs.Outcome

/-!
# Windows of requests

When a page and a page size, either of which may be left out, are accepted, and for which
window they stand. A validated configuration leaves room for the first page, for the default
page size and for the windows that are made without a request for them.
-/

namespace RecordQuery

theorem Window.checkPage_ok {page : UInt32} {config : QueryConfig} {u : Unit} :
    checkPage page config = .ok u ↔ 1 ≤ page ∧ page ≤ config.maxPage := by
  unfold checkPage
  split
  · next h =>
    refine ⟨nofun, fun ⟨hpos, hle⟩ => ?_⟩
    rcases h with h | h
    · exact absurd hpos (UInt32.not_le.mpr h)
    · exact absurd hle (UInt32.not_le.mpr h)
  · next h =>
    obtain ⟨hpos, hle⟩ := not_or.mp h
    exact ⟨fun _ => ⟨UInt32.not_lt.mp hpos, UInt32.not_lt.mp hle⟩, fun _ => rfl⟩

/-- The window is within the limits and is that of this page and page size. -/
structure Window.Within (w : Window) (config : QueryConfig) (page size : Option UInt32) :
    Prop where
  page_eq : w.page = page.getD 1
  page_pos : 1 ≤ w.page
  page_le : w.page ≤ config.maxPage
  named : ∀ n, size = some n → w.size = n ∧ n ≤ config.maxPageSize
  unnamed : size = none → w.size = config.unboundedPageSize

theorem Window.within_named {config : QueryConfig} {page size : UInt32} (hpage : 1 ≤ page)
    (hmax : page ≤ config.maxPage) (hsize : size ≤ config.maxPageSize) :
    (Window.mk page size).Within config (some page) (some size) where
  page_eq := rfl
  page_pos := hpage
  page_le := hmax
  named := by
    rintro _ ⟨⟩
    exact ⟨rfl, hsize⟩
  unnamed := nofun

theorem Collection.window_eq_ok {c : Collection} {page size : Option UInt32} {w : Window} :
    c.window page size = .ok w ↔ w.Within c.config page size := by
  obtain ⟨number, rows⟩ := w
  cases size with
  | none =>
    simp only [window, Window.onPage, Window.unbounded, bind_ok, Window.checkPage_ok,
      Except.ok.injEq, Window.mk.injEq]
    constructor
    · rintro ⟨-, ⟨hpos, hle⟩, rfl, rfl⟩
      exact ⟨rfl, hpos, hle, nofun, fun _ => rfl⟩
    · rintro ⟨rfl, hpos, hle, -, hsize⟩
      exact ⟨(), ⟨hpos, hle⟩, rfl, (hsize rfl).symm⟩
  | some n =>
    simp only [window, Window.validated, bind_ok, Window.checkPage_ok]
    constructor
    · rintro ⟨-, ⟨hpos, hle⟩, h⟩
      split at h
      · cases h
      · next hsize =>
        cases h
        refine ⟨rfl, hpos, hle, ?_, nofun⟩
        rintro _ ⟨⟩
        exact ⟨rfl, UInt32.not_lt.mp hsize⟩
    · rintro ⟨rfl, hpos, hle, hsize, -⟩
      obtain ⟨rfl, hmax⟩ := hsize n rfl
      exact ⟨(), ⟨hpos, hle⟩, if_neg (UInt32.not_lt.mpr hmax)⟩

/-- What a validated configuration guarantees. -/
theorem Config.validate_ok {c : Config} :
    c.validate = .ok () ↔
      c.query.maxPage ≠ 0 ∧ c.query.defaultPageSize ≤ c.query.maxPageSize ∧
        c.query.unboundedPageSize ≠ 0 ∧ c.query.unboundedPageSize ≤ c.query.maxPageSize ∧
          c.database.maxConnections ≠ 0 := by
  unfold validate
  grind [UInt32.not_le]

end RecordQuery
