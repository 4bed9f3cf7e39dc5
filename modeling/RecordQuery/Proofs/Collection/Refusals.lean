import RecordQuery.Collection
import RecordQuery.Proofs.Outcome

/-!
# Refusals

Whatever fails while a request is compiled is a fault of the request: each check is read
step by step, and none of them takes its error from a store.
-/

namespace RecordQuery

/-- Every error of the check is the client's. -/
structure Refuses (x : Except QueryError α) : Prop where
  isClient : ∀ e, x = .error e → e.isClient = true

namespace Refuses

theorem ok (a : α) : Refuses (.ok a) := ⟨nofun⟩

theorem error {e : QueryError} (h : e.isClient = true) : Refuses (.error e : Except QueryError α) := by
  refine ⟨?_⟩
  rintro _ ⟨⟩
  exact h

theorem bind {x : Except QueryError α} {f : α → Except QueryError β} (hx : Refuses x)
    (hf : ∀ a, Refuses (f a)) : Refuses (x >>= f) := by
  refine ⟨fun e he => ?_⟩
  rcases bind_error.mp he with he | ⟨a, -, he⟩
  · exact hx.isClient e he
  · exact (hf a).isClient e he

end Refuses

-- ---------------------------------------------------------------------------
-- Values and operators
-- ---------------------------------------------------------------------------

theorem Field.typed_refuses (f : Field) (item : String) : Refuses (f.typed item) := by
  unfold Field.typed
  split
  · split
    · exact .ok _
    · exact .error rfl
  · split
    · exact .ok _
    · exact .error rfl
  · dsimp only
    split
    · exact .ok _
    · split
      · exact .ok _
      · exact .error rfl
  all_goals exact .ok _

theorem Field.typedAll_refuses (f : Field) (items : List String) : Refuses (f.typedAll items) := by
  induction items with
  | nil => exact .ok _
  | cons item rest ih => exact .bind (f.typed_refuses item) fun v => .bind ih fun vs => .ok _

theorem Field.values_refuses (f : Field) (value : Json) : Refuses (f.values value) := by
  cases value with
  | array items => exact .ok _
  | string s => exact f.typedAll_refuses _
  | _ => exact .error rfl

theorem Field.scalarText_refuses (f : Field) (value : Json) : Refuses (f.scalarText value) := by
  cases value with
  | string | number | bool => exact .ok _
  | _ => exact .error rfl

theorem Operator.compile_refuses (op : Operator) (f : Field) (value : Json) (grammar : Grammar)
    (singleAsEq : Bool) : Refuses (op.compile f value grammar singleAsEq) := by
  cases op with
  | oneOf =>
    refine .bind (f.values_refuses value) fun values => ?_
    split <;> exact .ok _
  | noneOf => exact .bind (f.values_refuses value) fun values => .ok _
  | jsonContains => exact .bind (f.scalarText_refuses value) fun text => .ok _
  | like => exact .bind (f.scalarText_refuses value) fun text => .ok _
  | _ => exact .ok _

-- ---------------------------------------------------------------------------
-- Filters
-- ---------------------------------------------------------------------------

section
variable (schema : Schema) (singleAsEq : Bool)

theorem Schema.scalarField_refuses (name : String) : Refuses (schema.scalarField name) := by
  unfold Schema.scalarField
  split
  · split
    · exact .error rfl
    · exact .ok _
  · exact .error rfl

namespace Condition

theorem compileNodes_refuses {nodes : List Condition}
    (h : ∀ n ∈ nodes, Refuses (compile schema singleAsEq n)) :
    Refuses (compileNodes schema singleAsEq nodes) := by
  induction nodes with
  | nil => exact .ok _
  | cons n rest ih =>
    obtain ⟨hn, hrest⟩ := List.forall_mem_cons.mp h
    exact .bind hn fun p => .bind (ih hrest) fun ps => .ok _

theorem compile_refuses (c : Condition) : Refuses (compile schema singleAsEq c) := by
  induction c with
  | leaf l =>
    refine .bind ?_ fun p => .ok _
    exact .bind (schema.scalarField_refuses _) fun f => Operator.compile_refuses ..
  | group all any hall hany =>
    refine .bind ?_ fun ps => .bind ?_ fun qs => .ok _
    · rw [compileBranch_eq]
      exact compileNodes_refuses schema singleAsEq hall
    · rw [compileBranch_eq]
      exact compileNodes_refuses schema singleAsEq hany

theorem compile?_refuses (c : Option Condition) : Refuses (compile? schema singleAsEq c) := by
  cases c with
  | none => exact .ok _
  | some c => exact compile_refuses schema singleAsEq c

end Condition

theorem FlatKey.parse_refuses (key : String) : Refuses (FlatKey.parse schema key) := by
  unfold FlatKey.parse
  split
  · exact .ok _
  · split
    · exact .error rfl
    · dsimp only
      split
      · exact .error rfl
      · split
        · exact .error rfl
        · split
          · exact .ok _
          · exact .error rfl

namespace Parameters

theorem compileOne_refuses (key : String) (value : Json) :
    Refuses (compileOne schema singleAsEq key value) := by
  refine .bind (FlatKey.parse_refuses schema key) fun flat => ?_
  split
  · exact .error rfl
  · split
    · exact .error rfl
    · exact Operator.compile_refuses ..

theorem compile_refuses (params : KeyMap Json) : Refuses (compile schema singleAsEq params) := by
  induction params with
  | nil => exact .ok _
  | cons e rest ih =>
    obtain ⟨key, value⟩ := e
    unfold compile
    split
    · exact ih
    · exact .bind (compileOne_refuses schema singleAsEq key value) fun p => .bind ih fun ps => .ok _

end Parameters

-- ---------------------------------------------------------------------------
-- Sort and window
-- ---------------------------------------------------------------------------

theorem SortKey.ofNames_refuses (order : SortOrder) (names : List String) :
    Refuses (SortKey.ofNames schema order names) := by
  induction names with
  | nil => exact .ok _
  | cons name rest ih =>
    refine .bind ?_ fun k => .bind ih fun ks => .ok _
    unfold SortKey.ofName
    split
    · split
      · exact .error rfl
      · exact .ok _
    · exact .error rfl

theorem SortKey.parse_refuses (sortBy : Option String) (order : SortOrder) :
    Refuses (SortKey.parse schema sortBy order) := by
  cases sortBy with
  | none => exact .ok _
  | some text => exact SortKey.ofNames_refuses schema order _

end

theorem Window.checkPage_refuses (page : UInt32) (config : QueryConfig) :
    Refuses (Window.checkPage page config) := by
  unfold Window.checkPage
  split
  · exact .error rfl
  · exact .ok _

-- ---------------------------------------------------------------------------
-- Requests
-- ---------------------------------------------------------------------------

namespace Collection

theorem compilePredicates_refuses (c : Collection) (params : KeyMap Json)
    (condition : Option Condition) : Refuses (c.compilePredicates params condition) :=
  .bind (Parameters.compile_refuses ..) fun _ => .bind (Condition.compile?_refuses ..) fun _ =>
    .ok _

theorem window_refuses (c : Collection) (page size : Option UInt32) :
    Refuses (c.window page size) := by
  cases size with
  | none => exact .bind (Window.checkPage_refuses ..) fun _ => .ok _
  | some size =>
    refine .bind (Window.checkPage_refuses ..) fun _ => ?_
    split
    · exact .error rfl
    · exact .ok _

theorem compile_refuses (c : Collection) (r : ListRequest) : Refuses (c.compile r) := by
  refine .bind (c.compilePredicates_refuses ..) fun ps => ?_
  refine .bind (SortKey.parse_refuses ..) fun keys => ?_
  exact .bind (c.window_refuses ..) fun w => .ok _

theorem keyRequest_refuses (c : Collection) (pk : String) : Refuses (c.keyRequest pk) := by
  unfold keyRequest
  extract_lets keys parts
  split
  · exact .error rfl
  · split
    · exact .error rfl
    · exact .ok _

end Collection

end RecordQuery
