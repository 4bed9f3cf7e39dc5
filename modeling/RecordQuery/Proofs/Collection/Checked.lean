import RecordQuery.Proofs.Collection.Compile
import RecordQuery.Proofs.Collection.Fields
import RecordQuery.Proofs.Collection.Windows
import RecordQuery.Proofs.Condition.Meaning
import RecordQuery.Proofs.Schema.Built

/-!
# What a store is asked

Names stand in SQL as they are, so a statement may hold no name that the schema does not
know. A request that compiles comes to such a statement, whatever way a name took into it:
a bare key or one with an operator, a leaf at any depth, a sort field, an output field or
the key of a relation.
-/

namespace RecordQuery

-- ---------------------------------------------------------------------------
-- Predicates
-- ---------------------------------------------------------------------------

/-- Every column is a scalar field, and no group has fewer than two operands. -/
inductive Predicate.Checked (schema : Schema) : Predicate → Prop
  | compare {field op value} : schema.IsScalar field → Checked schema (.compare field op value)
  | oneOf {field values} : schema.IsScalar field → Checked schema (.oneOf field values)
  | noneOf {field values} : schema.IsScalar field → Checked schema (.noneOf field values)
  | holdsText {field text} : schema.IsScalar field → Checked schema (.holdsText field text)
  | like {field pattern} : schema.IsScalar field → Checked schema (.like field pattern)
  | and {operands} : 2 ≤ operands.length → (∀ p ∈ operands, Checked schema p) →
    Checked schema (.and operands)
  | or {operands} : 2 ≤ operands.length → (∀ p ∈ operands, Checked schema p) →
    Checked schema (.or operands)

namespace Predicate

variable {schema : Schema} {ps : List Predicate}

theorem checked_conjunction (hne : ps ≠ []) (h : ∀ p ∈ ps, p.Checked schema) :
    (conjunction ps).Checked schema := by
  match ps with
  | [] => exact absurd rfl hne
  | [p] => exact h p List.mem_cons_self
  | p :: q :: rest => exact .and (by simp) h

theorem checked_disjunction (hne : ps ≠ []) (h : ∀ p ∈ ps, p.Checked schema) :
    (disjunction ps).Checked schema := by
  match ps with
  | [] => exact absurd rfl hne
  | [p] => exact h p List.mem_cons_self
  | p :: q :: rest => exact .or (by simp) h

end Predicate

theorem Condition.combine_eq_some {join : List Predicate → Predicate} {ps : List Predicate}
    {p : Predicate} : combine join ps = some p ↔ ps ≠ [] ∧ join ps = p := by
  cases ps <;> simp [combine]

-- ---------------------------------------------------------------------------
-- Filters
-- ---------------------------------------------------------------------------

theorem Operator.compile_checked {op : Operator} {f : Field} {value : Json} {grammar : Grammar}
    {single : Bool} {p : Predicate} (h : op.compile f value grammar single = .ok p)
    {schema : Schema} (hf : schema.IsScalar f.name) : p.Checked schema := by
  cases op with
  | oneOf =>
    simp only [Operator.compile, bind_ok] at h
    obtain ⟨values, -, h⟩ := h
    split at h
    · obtain rfl := pure_ok.mp h
      exact .compare hf
    · obtain rfl := pure_ok.mp h
      exact .oneOf hf
  | noneOf =>
    simp only [Operator.compile, bind_ok, pure_ok] at h
    obtain ⟨values, -, rfl⟩ := h
    exact .noneOf hf
  | jsonContains =>
    simp only [Operator.compile, bind_ok, pure_ok] at h
    obtain ⟨text, -, rfl⟩ := h
    exact .holdsText hf
  | like =>
    simp only [Operator.compile, bind_ok, pure_ok] at h
    obtain ⟨needle, -, rfl⟩ := h
    exact .like hf
  | _ =>
    cases h
    exact .compare hf

section
variable {schema : Schema} (hs : schema.Built) {single : Bool}
include hs

theorem Schema.Built.isScalar {name : String} {f : Field} (hf : schema.field? name = some f)
    (hscalar : f.isRelation = false) : schema.IsScalar f.name :=
  ⟨f, by rwa [hs.name_of_field? hf], hscalar⟩

namespace Condition

theorem compileLeaf_checked {l : Leaf} {p : Predicate}
    (h : compileLeaf schema single l = .ok p) : p.Checked schema := by
  simp only [compileLeaf, bind_ok, Schema.scalarField_ok] at h
  obtain ⟨f, ⟨hf, hscalar⟩, hp⟩ := h
  exact Operator.compile_checked hp (hs.isScalar hf hscalar)

omit hs in
theorem compileNodes_checked {nodes : List Condition} {ps : List Predicate}
    (ih : ∀ n ∈ nodes, ∀ {p}, compile schema single n = .ok (some p) → p.Checked schema)
    (h : compileNodes schema single nodes = .ok ps) : ∀ p ∈ ps, p.Checked schema := by
  obtain ⟨-, hmem⟩ := compileNodes_ok h
  intro p hp
  obtain ⟨n, hn, hc⟩ := (hmem p).mp hp
  exact ih n hn hc

theorem compile_checked {c : Condition} {p : Predicate}
    (h : compile schema single c = .ok (some p)) : p.Checked schema := by
  induction c generalizing p with
  | leaf l =>
    simp only [compile, bind_ok, pure_ok, Option.some_inj] at h
    obtain ⟨q, hq, rfl⟩ := h
    exact compileLeaf_checked hs hq
  | group all any ihall ihany =>
    simp only [compile, compileBranch_eq, bind_ok, pure_ok] at h
    obtain ⟨ps, hps, qs, hqs, hp⟩ := h
    have hall := compileNodes_checked (fun n hn _ => ihall n hn) hps
    have hany := compileNodes_checked (fun n hn _ => ihany n hn) hqs
    obtain ⟨hne, rfl⟩ := combine_eq_some.mp hp
    refine Predicate.checked_conjunction hne fun q hq => ?_
    rcases List.mem_append.mp hq with hq | hq
    · obtain ⟨hps, rfl⟩ := combine_eq_some.mp (Option.mem_toList.mp hq)
      exact Predicate.checked_conjunction hps hall
    · obtain ⟨hqs, rfl⟩ := combine_eq_some.mp (Option.mem_toList.mp hq)
      exact Predicate.checked_disjunction hqs hany

end Condition

namespace Parameters

theorem compileOne_checked {key : String} {value : Json} {p : Predicate}
    (h : compileOne schema single key value = .ok p) : p.Checked schema := by
  simp only [compileOne, bind_ok] at h
  obtain ⟨k, -, h⟩ := h
  split at h
  · cases h
  · next f hf =>
    split at h
    · cases h
    · next hscalar =>
      exact Operator.compile_checked h (hs.isScalar hf (Bool.eq_false_iff.mpr hscalar))

theorem compile_checked {params : List (String × Json)} {ps : List Predicate}
    (h : compile schema single params = .ok ps) : ∀ p ∈ ps, p.Checked schema := by
  induction params generalizing ps with
  | nil =>
    cases h
    exact List.forall_mem_nil _
  | cons e rest ih =>
    obtain ⟨key, value⟩ := e
    simp only [compile] at h
    split at h
    · exact ih h
    · simp only [bind_ok, pure_ok] at h
      obtain ⟨p, hp, qs, hqs, rfl⟩ := h
      exact List.forall_mem_cons.mpr ⟨compileOne_checked hs hp, ih hqs⟩

end Parameters

end

namespace Collection

theorem compilePredicates_checked {c : Collection} (hs : c.schema.Built)
    {params : KeyMap Json} {condition : Option Condition} {ps : List Predicate}
    (h : c.compilePredicates params condition = .ok ps) : ∀ p ∈ ps, p.Checked c.schema := by
  simp only [compilePredicates, bind_ok, pure_ok] at h
  obtain ⟨flat, hflat, tree, htree, rfl⟩ := h
  intro p hp
  rcases List.mem_append.mp hp with hp | hp
  · exact Parameters.compile_checked hs hflat p hp
  · cases condition with
    | none =>
      cases htree
      exact absurd hp List.not_mem_nil
    | some tree' =>
      obtain rfl := Option.mem_toList.mp hp
      exact Condition.compile_checked hs htree

end Collection

-- ---------------------------------------------------------------------------
-- Sort keys
-- ---------------------------------------------------------------------------

theorem SortKey.ofName_ok {schema : Schema} {order : SortOrder} {name : String} {k : SortKey}
    (h : ofName schema order name = .ok k) : schema.IsScalar k.field := by
  unfold ofName at h
  split at h
  · next f hf =>
    split at h
    · cases h
    · next hscalar =>
      cases h
      exact ⟨f, hf, Bool.eq_false_iff.mpr hscalar⟩
  · cases h

theorem SortKey.ofNames_ok {schema : Schema} {order : SortOrder} {names : List String}
    {keys : List SortKey} (h : ofNames schema order names = .ok keys) :
    ∀ k ∈ keys, schema.IsScalar k.field := by
  induction names generalizing keys with
  | nil =>
    cases h
    exact List.forall_mem_nil _
  | cons name rest ih =>
    simp only [ofNames, bind_ok, pure_ok] at h
    obtain ⟨k, hk, ks, hks, rfl⟩ := h
    exact List.forall_mem_cons.mpr ⟨ofName_ok hk, ih hks⟩

theorem SortKey.parse_ok {schema : Schema} {sortBy : Option String} {order : SortOrder}
    {keys : List SortKey} (h : parse schema sortBy order = .ok keys) :
    ∀ k ∈ keys, schema.IsScalar k.field := by
  cases sortBy with
  | none =>
    cases h
    exact List.forall_mem_nil _
  | some text => exact ofNames_ok h

-- ---------------------------------------------------------------------------
-- Statements
-- ---------------------------------------------------------------------------

/-- All that a statement for a request asks of a store is known to the collection. -/
structure Statement.Checked (c : Collection) (r : ListRequest) (stmt : Statement) : Prop where
  table : stmt.table = c.schema.table
  predicates : ∀ p ∈ stmt.predicates, p.Checked c.schema
  predicate : ∀ p, stmt.predicate = some p → p.Checked c.schema
  orderBy : ∀ k ∈ stmt.orderBy, c.schema.IsScalar k.field
  relations : ∀ name ∈ stmt.relations, (c.schema.relation? name).isSome
  relations_nodup : stmt.relations.Nodup
  columns_nodup : stmt.columns.Nodup
  columns_eq_nil : stmt.columns = [] ↔ ∀ name ∈ r.selection.names, c.schema.field? name = none
  columns_eq : stmt.columns ≠ [] →
    stmt.columns = (c.schema.primaryKeys ++ r.selection.names.filter (c.schema.IsScalar ·) ++
      (r.selection.names.filterMap c.schema.relation?).map (·.localKey)).eraseDups
  window : ∃ w, stmt.window = some w ∧ w.Within c.config r.page r.pageSize

/-- A request that compiles comes to a statement without a name of the client's own. -/
theorem Collection.statement_checked (c : Collection) (r : ListRequest) (q : CompiledQuery)
    (hs : c.schema.Built) (h : c.compile r = .ok q) : q.statement.Checked c r := by
  obtain ⟨ps, hps, keys, hkeys, w, hw, rfl⟩ := compile_ok.mp h
  have hchecked := compilePredicates_checked hs hps
  exact {
    table := rfl
    predicates := hchecked
    predicate := by
      intro p hp
      rw [Statement.predicate_eq] at hp
      obtain ⟨hne, rfl⟩ := Condition.combine_eq_some.mp hp
      exact Predicate.checked_conjunction hne hchecked
    orderBy := SortKey.parse_ok hkeys
    relations := fun name hname => (OutputFields.mem_relations_ofSelection.mp hname).2
    relations_nodup := by
      rw [OutputFields.ofSelection, OutputFields.relations_foldl_add]
      exact OutputFields.nodup_foldl_addOnce List.nodup_nil
    columns_nodup := c.nodup_projection _
    columns_eq_nil := projection_eq_nil
    columns_eq := by
      intro hne
      refine projection_ofSelection (Bool.eq_false_iff.mpr fun hempty => hne ?_)
      exact if_pos hempty
    window := ⟨w, rfl, window_eq_ok.mp hw⟩ }

/-- Every way by which a name enters a statement, in one request. -/
theorem Collection.statement_checked_heroes :
    let c : Collection := ⟨"Hero", Sample.heroSchema, {}⟩
    let r : ListRequest :=
      { params := [("age__ge", .word 3), ("name", .string "n1")]
        condition := some (.anyOf [.leaf ⟨"team_id", .oneOf, .string "1,2"⟩,
          .allOf [.leaf ⟨"pets", .jsonContains, .string "cat"⟩]])
        selection := .csv "team, age, nope, team, id"
        sortBy := some "age, create_time"
        pageSize := some 5 }
    c.schema.Built ∧ ∃ q, c.compile r = .ok q ∧ q.statement.Checked c r ∧
      q.statement.columns = ["id", "age", "team_id"] := by
  intro c r
  have h : ∃ q, c.compile r = .ok q ∧ q.statement.columns = ["id", "age", "team_id"] :=
    ⟨_, rfl, rfl⟩
  obtain ⟨q, hq, hcolumns⟩ := h
  exact ⟨Sample.heroSchema_built, q, hq, c.statement_checked r q Sample.heroSchema_built hq,
    hcolumns⟩

end RecordQuery
