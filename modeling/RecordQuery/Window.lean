import RecordQuery.Config.Basic
import RecordQuery.Error

/-!
# Windows

A window is a page of a result: pages count from one and have a fixed size. Only
`validated` and `onPage` check a window against the configured limits.
-/

namespace RecordQuery

structure Window where
  page : UInt32
  size : UInt32
  deriving DecidableEq

namespace Window

def checkPage (page : UInt32) (config : QueryConfig) : Except QueryError Unit :=
  if page < 1 ∨ config.maxPage < page then
    .error (.invalidWindow (.pageOutside config.maxPage page))
  else .ok ()

def validated (page size : UInt32) (config : QueryConfig) : Except QueryError Window := do
  checkPage page config
  if config.maxPageSize < size then
    .error (.invalidWindow (.sizeOutside config.maxPageSize size))
  else .ok ⟨page, size⟩

/-- The first row alone. -/
def first : Window := ⟨1, 1⟩

def unbounded (config : QueryConfig) : Window := ⟨1, config.unboundedPageSize⟩

/-- The page of this number in windows of the same size, which is not checked. -/
def onPage (w : Window) (page : UInt32) (config : QueryConfig) : Except QueryError Window := do
  checkPage page config
  .ok { w with page := page }

/-- The rows before the window. Page zero has none either. -/
def offset (w : Window) : Nat := (w.page.toNat - 1) * w.size.toNat

def limit (w : Window) : Nat := w.size.toNat

def sql (w : Window) : String := s!" LIMIT {w.limit} OFFSET {w.offset}"

/-- The rows of a result that lie in the window. -/
def slice (w : Window) (rows : List α) : List α := (rows.drop w.offset).take w.limit

end Window

end RecordQuery
