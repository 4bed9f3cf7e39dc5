import Mathlib.Algebra.Ring.Int.Defs
import Mathlib.Algebra.Ring.Nat
import RecordQuery.Proofs.Collection.Windows
import RecordQuery.Proofs.Sql.Renderings
import RecordQuery.Proofs.Store.Answer
import RecordQuery.Sample.Heroes

/-!
# Windows as they are bound

The rows before a window are counted exactly by 64 bits without sign, and the logged text and
the in-memory store use this count. The bound query sends it as a number with sign, so it
arrives unchanged exactly when it lies below the middle of the range. The limits on page and
page size keep it there exactly when the window that they allow furthest out does so.
-/

namespace RecordQuery

-- ---------------------------------------------------------------------------
-- Words of 64 bits
-- ---------------------------------------------------------------------------

namespace Statement

theorem signed64_eq (n : Nat) : signed64 n = Int.bmod n 18446744073709551616 := rfl

theorem signed64_of_lt {n : Nat} (h : n < 2 ^ 63) : signed64 n = n := by
  rw [signed64_eq, Int.bmod_def]
  split
  · omega
  · omega

/-- Past the middle of the range a count turns negative. -/
theorem signed64_of_le {n : Nat} (h : 2 ^ 63 ≤ n) (hn : n < 2 ^ 64) :
    signed64 n = (n : Int) - 2 ^ 64 := by
  rw [signed64_eq, Int.bmod_def]
  split
  · omega
  · omega

theorem signed64_neg {n : Nat} (h : 2 ^ 63 ≤ n) (hn : n < 2 ^ 64) : signed64 n < 0 := by
  rw [signed64_of_le h hn]
  omega

end Statement

namespace Window

variable {w : Window}

theorem offset_lt (w : Window) : w.offset < 2 ^ 64 := by
  have hpage : w.page.toNat - 1 < 2 ^ 32 := Nat.lt_of_le_of_lt (Nat.sub_le ..) w.page.toNat_lt
  calc w.offset = (w.page.toNat - 1) * w.size.toNat := rfl
    _ < 2 ^ 32 * 2 ^ 32 := Nat.mul_lt_mul'' hpage w.size.toNat_lt
    _ = 2 ^ 64 := rfl

theorem limit_lt (w : Window) : w.limit < 2 ^ 63 :=
  Nat.lt_trans w.size.toNat_lt (by decide)

/-- No product of two words of 32 bits is too long for 64. -/
theorem toNat_wordProduct (h : 1 ≤ w.page) :
    ((w.page - 1).toUInt64 * w.size.toUInt64).toNat = w.offset := by
  rw [UInt64.toNat_mul, UInt32.toNat_toUInt64, UInt32.toNat_toUInt64,
    UInt32.toNat_sub_of_le _ _ h]
  exact Nat.mod_eq_of_lt w.offset_lt

/-- No window within the limits begins after the last page of the largest size. -/
theorem offset_le {config : Config} (hconfig : config.validate = .ok ())
    {page size : Option UInt32} (h : w.Within config.query page size) :
    w.offset ≤ (config.query.maxPage.toNat - 1) * config.query.maxPageSize.toNat := by
  obtain ⟨-, -, -, hunbounded, -⟩ := Config.validate_ok.mp hconfig
  have hsize : w.size ≤ config.query.maxPageSize := by
    cases size with
    | none => exact h.unnamed rfl ▸ hunbounded
    | some n =>
      obtain ⟨heq, hle⟩ := h.named n rfl
      exact heq ▸ hle
  have hpage : w.page.toNat ≤ config.query.maxPage.toNat := UInt32.le_iff_toNat_le.mp h.page_le
  exact Nat.mul_le_mul (Nat.sub_le_sub_right hpage 1) (UInt32.le_iff_toNat_le.mp hsize)

end Window

-- ---------------------------------------------------------------------------
-- The window of a statement
-- ---------------------------------------------------------------------------

namespace Statement

/-- The logged text ends in the limit and the offset of the window, and the store leaves out as
many of the matching rows as the offset says and keeps as many as the limit says. -/
structure Uses (s : Statement) (w : Window) : Prop where
  window : s.window = some w
  text : ∃ front, s.sql = front ++ s!" LIMIT {w.limit} OFFSET {w.offset}"
  shown : ∀ store : Store,
    store.shown s = ((Store.sorted s.orderBy (store.matching s)).drop w.offset).take w.limit

/-- The row query binds the limit and the offset of the window last, and as they are. -/
def BindsWindow (s : Statement) (schema : Schema) : Prop :=
  ∃ w values, s.window = some w ∧
    (s.rowQuery schema).arguments = values ++ [.int8 w.limit, .int8 w.offset]

variable {s : Statement} {w : Window}

theorem uses_of_window (h : s.window = some w) : s.Uses w where
  window := h
  text := by
    rw [sql_eq, h]
    exact ⟨_, rfl⟩
  shown store := by
    rw [Store.shown, h]
    rfl

theorem arguments_rowQuery (h : s.window = some w) (schema : Schema) :
    (s.rowQuery schema).arguments =
      s.fillings.map (Filling.argument schema) ++
        [.int8 w.limit, .int8 (signed64 w.offset)] := by
  have hlimit : Int.bmod w.limit (2 ^ 64) = w.limit := signed64_of_lt w.limit_lt
  rw [rowQuery_eq, windowArguments, h]
  dsimp only
  rw [hlimit]
  rfl

theorem bindsWindow_iff (h : s.window = some w) (schema : Schema) :
    s.BindsWindow schema ↔ w.offset < 2 ^ 63 := by
  unfold BindsWindow
  rw [arguments_rowQuery h]
  constructor
  · rintro ⟨w', values, hw', harguments⟩
    obtain rfl : w = w' := Option.some_inj.mp (h.symm.trans hw')
    obtain ⟨-, hlast⟩ := List.append_inj' harguments (by simp)
    simp only [List.cons.injEq, Argument.int8.injEq, true_and, and_true] at hlast
    refine Nat.not_le.mp fun hge => ?_
    have hneg := signed64_neg hge w.offset_lt
    rw [hlast] at hneg
    exact absurd hneg (Int.not_lt.mpr (Int.natCast_nonneg _))
  · intro hlt
    exact ⟨w, _, h, by rw [signed64_of_lt hlt]⟩

end Statement

-- ---------------------------------------------------------------------------
-- Compiled requests
-- ---------------------------------------------------------------------------

namespace Collection

variable {c : Collection}

theorem window_of_compile {r : ListRequest} {q : CompiledQuery} (h : c.compile r = .ok q) :
    ∃ w, q.statement.window = some w ∧ w.Within c.config r.page r.pageSize := by
  obtain ⟨_, -, _, -, w, hw, rfl⟩ := compile_ok.mp h
  exact ⟨w, rfl, window_eq_ok.mp hw⟩

/-- A request for a window alone compiles when the window is within the limits. -/
theorem compile_unfiltered {page size : UInt32}
    (h : (Window.mk page size).Within c.config (some page) (some size)) :
    ∃ q, c.compile { page := some page, pageSize := some size } = .ok q ∧
      q.statement.window = some ⟨page, size⟩ ∧ q.statement.predicates = [] :=
  ⟨_, compile_ok.mpr ⟨[], rfl, [], rfl, _, window_eq_ok.mpr h, rfl⟩, rfl, rfl⟩

theorem within_last {config : Config} (hconfig : config.validate = .ok ())
    (hc : c.config = config.query) :
    (Window.mk config.query.maxPage config.query.maxPageSize).Within c.config
      (some config.query.maxPage) (some config.query.maxPageSize) := by
  obtain ⟨hpage, -⟩ := Config.validate_ok.mp hconfig
  rw [hc]
  exact Window.within_named (by grind) (UInt32.le_refl _) (UInt32.le_refl _)

/-- Every request that compiles has a window whose offset is computed without overflow, and
whose offset and limit the logged text and the store use. The row query binds the limit as it
is; the offset it binds as it is below the middle of the range of 64 bits, and past it less the
whole range, which is negative. Under a configuration all windows are bound as they are exactly
when the last page of the largest size begins below the middle. -/
theorem windows_bound_below_sign (config : Config) (hconfig : config.validate = .ok ())
    (c : Collection) (hc : c.config = config.query) :
    (∀ r q, c.compile r = .ok q → ∃ w, q.statement.Uses w ∧
      w.offset = (w.page.toNat - 1) * w.size.toNat ∧
      ((w.page - 1).toUInt64 * w.size.toUInt64).toNat = w.offset ∧
      ∃ (values : List Argument) (offset : Int),
        (q.statement.rowQuery c.schema).arguments =
          values ++ [.int8 w.limit, .int8 offset] ∧
        (w.offset < 2 ^ 63 → offset = w.offset) ∧
        (2 ^ 63 ≤ w.offset → offset = (w.offset : Int) - 2 ^ 64 ∧ offset < 0)) ∧
    ((∀ r q, c.compile r = .ok q → q.statement.BindsWindow c.schema) ↔
      (config.query.maxPage.toNat - 1) * config.query.maxPageSize.toNat < 2 ^ 63) := by
  refine ⟨fun r q h => ?_, fun hall => ?_, fun hlast r q h => ?_⟩
  · obtain ⟨w, hw, hwithin⟩ := window_of_compile h
    refine ⟨w, Statement.uses_of_window hw, rfl, Window.toNat_wordProduct hwithin.page_pos, _,
      Statement.signed64 w.offset, Statement.arguments_rowQuery hw c.schema,
      Statement.signed64_of_lt, fun hge => ?_⟩
    exact ⟨Statement.signed64_of_le hge w.offset_lt, Statement.signed64_neg hge w.offset_lt⟩
  · obtain ⟨q, h, hw, -⟩ := compile_unfiltered (within_last hconfig hc)
    exact (Statement.bindsWindow_iff hw c.schema).mp (hall _ q h)
  · obtain ⟨w, hw, hwithin⟩ := window_of_compile h
    refine (Statement.bindsWindow_iff hw c.schema).mpr (Nat.lt_of_le_of_lt ?_ hlast)
    exact Window.offset_le hconfig (hc ▸ hwithin)

/-- The default limits keep every window below the middle, the furthest one by far. -/
theorem windows_bound_below_sign_default :
    let c : Collection := ⟨"Hero", Sample.heroSchema, {}⟩
    Config.validate {} = .ok () ∧
      (∀ r q, c.compile r = .ok q → q.statement.BindsWindow c.schema) ∧
      ∃ q w, c.compile { page := some 1000, pageSize := some 1000000 } = .ok q ∧
        q.statement.Uses w ∧ w.offset = 999000000 := by
  intro c
  obtain ⟨hexact, hall⟩ := windows_bound_below_sign {} rfl c rfl
  refine ⟨rfl, hall.mpr (by decide), ?_⟩
  have hlast : (Window.mk 1000 1000000).Within c.config (some 1000) (some 1000000) :=
    Window.within_named (by decide) (by decide) (by decide)
  obtain ⟨q, h, hw, -⟩ := compile_unfiltered hlast
  obtain ⟨w, huses, hproduct, -⟩ := hexact _ q h
  obtain rfl : w = ⟨1000, 1000000⟩ := Option.some_inj.mp (huses.window.symm.trans hw)
  exact ⟨q, _, h, huses, hproduct⟩

/-- With limits at the end of their range, which are valid, a request is accepted whose offset
is past the middle: a negative offset is bound where the text has the true one. -/
theorem offset_bound_negative :
    let config : Config := { query := { maxPage := 4294967295, maxPageSize := 4294967295 } }
    let c : Collection := ⟨"Hero", Sample.heroSchema, config.query⟩
    config.validate = .ok () ∧
      ∃ q w, c.compile { page := some 3000000000, pageSize := some 4000000000 } = .ok q ∧
        q.statement.Uses w ∧ w.limit = 4000000000 ∧ w.offset = 11999999996000000000 ∧
        (q.statement.rowQuery c.schema).arguments =
          [.int8 4000000000, .int8 (-6446744077709551616)] ∧
        ¬ q.statement.BindsWindow c.schema := by
  intro config c
  have hwithin : (Window.mk 3000000000 4000000000).Within config.query (some 3000000000)
      (some 4000000000) := Window.within_named (by decide) (by decide) (by decide)
  obtain ⟨q, h, hw, hpredicates⟩ := compile_unfiltered (c := c) hwithin
  have hoffset : (Window.mk 3000000000 4000000000).offset = 11999999996000000000 := by decide
  refine ⟨rfl, q, _, h, Statement.uses_of_window hw, rfl, hoffset, ?_, ?_⟩
  · have hbound : Statement.signed64 11999999996000000000 = -6446744077709551616 :=
      (Statement.signed64_of_le (by decide) (by decide)).trans (by decide)
    rw [Statement.arguments_rowQuery hw, hoffset, hbound, Statement.fillings, hpredicates]
    rfl
  · rw [Statement.bindsWindow_iff hw, hoffset]
    decide

end Collection

end RecordQuery
