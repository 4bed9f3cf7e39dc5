import RecordQuery.Proofs.Collection.Protocol
import RecordQuery.Proofs.Condition.Compile
import RecordQuery.Proofs.Record.Lookup

/-!
# Memberships in one value

With the switch of the flat grammar on, a membership in a list of one value is compiled as
equality with it, and nothing else about a read depends on the switch. The rewriting changes
one case: nothing is a member of the list of null alone, but equality with null holds of the
rows without a value.
-/

namespace RecordQuery

-- ---------------------------------------------------------------------------
-- One predicate
-- ---------------------------------------------------------------------------

namespace Predicate

/-- A membership in one value as equality with it. -/
def memberAsEq : Predicate → Predicate
  | .oneOf field [v] => .compare field .eq v
  | p => p

def inNullAlone : Predicate → Bool
  | .oneOf _ [.null] => true
  | _ => false

theorem inNullAlone_iff {p : Predicate} :
    p.inNullAlone = true ↔ ∃ field, p = .oneOf field [.null] := by
  constructor
  · intro h
    unfold inNullAlone at h
    split at h
    · exact ⟨_, rfl⟩
    · cases h
  · rintro ⟨field, rfl⟩
    rfl

theorem holds_oneOf_singleton (row : KeyMap Json) (field : String) (v : Json) :
    (oneOf field [v]).holds row = (!v.isNull && (compare field .eq v).holds row) := by
  simp only [holds, List.any_cons, List.any_nil, Bool.or_false, Comparison.holds]
  cases hv : v.isNull with
  | true =>
    cases hactual : (column row field).isNull with
    | true => rfl
    | false => simp [Json.filterEq_null hactual hv]
  | false =>
    cases (column row field).isNull with
    | true => rfl
    | false =>
      unfold Json.filterEq
      cases (column row field).filterOrder? v with
      | none => rfl
      | some o => cases o <;> rfl

/-- The rewriting keeps what a predicate holds of, membership in null alone apart. -/
theorem holds_eq_memberAsEq (row : KeyMap Json) (p : Predicate) :
    p.holds row = (!p.inNullAlone && p.memberAsEq.holds row) := by
  match p with
  | .oneOf field [v] =>
    rw [holds_oneOf_singleton, memberAsEq]
    cases v <;> rfl
  | .oneOf _ [] => rfl
  | .oneOf _ (_ :: _ :: _) => simp [inNullAlone, memberAsEq]
  | .compare .. | .noneOf .. | .holdsText .. | .like .. | .and _ | .or _ => rfl

theorem all_holds_eq_memberAsEq (row : KeyMap Json) (ps : List Predicate) :
    ps.all (·.holds row) =
      (!ps.any inNullAlone && (ps.map memberAsEq).all (·.holds row)) := by
  induction ps with
  | nil => rfl
  | cons p rest ih =>
    simp only [List.all_cons, List.any_cons, List.map_cons, ih, holds_eq_memberAsEq row p,
      Bool.not_or, Bool.and_assoc, Bool.and_left_comm]

end Predicate

-- ---------------------------------------------------------------------------
-- Flat parameters
-- ---------------------------------------------------------------------------

theorem Operator.compile_switch (op : Operator) (f : Field) (value : Json) :
    op.compile f value .flat true = (op.compile f value .flat false).map .memberAsEq := by
  cases op with
  | oneOf =>
    simp only [Operator.compile]
    match f.values value with
    | .error e => rfl
    | .ok [] | .ok [v] | .ok (v :: w :: rest) => rfl
  | noneOf =>
    simp only [Operator.compile]
    cases f.values value <;> rfl
  | jsonContains =>
    simp only [Operator.compile]
    cases f.scalarText value <;> rfl
  | like =>
    simp only [Operator.compile]
    cases f.scalarText value <;> rfl
  | _ => rfl

theorem Json.int_ne_null {i : Int} (h : Numeral.isInt64 i = true) : int i ≠ .null := by
  simp only [Numeral.isInt64, Bool.and_eq_true, decide_eq_true_eq] at h
  unfold int Number.ofInt?
  rw [dif_pos (by omega)]
  exact nofun

/-- No text stands for null, whatever the type of the column. -/
theorem Field.typed_ne_null {f : Field} {item : String} : f.typed item ≠ .ok .null := by
  unfold typed
  cases f.type with
  | integer =>
    cases h : Numeral.int64? item.toList with
    | none => exact nofun
    | some i =>
      obtain ⟨-, hrange⟩ := Option.filter_eq_some_iff.mp h
      exact fun hnull => Json.int_ne_null hrange (Except.ok.inj hnull)
  | _ => grind

theorem Field.values_eq_null {f : Field} {value : Json} :
    f.values value = .ok [.null] ↔ value = .array [.null] := by
  cases value with
  | array items => simp [values]
  | string s =>
    refine iff_of_false (fun h => ?_) nofun
    rw [values] at h
    cases hitems : Text.items s with
    | nil => simp [hitems, typedAll] at h
    | cons item rest =>
      simp only [hitems, typedAll, bind_ok, pure_ok, List.cons.injEq] at h
      obtain ⟨v, hv, vs, -, rfl, -⟩ := h
      exact typed_ne_null hv
  | _ => exact iff_of_false nofun nofun

theorem Operator.compile_inNullAlone {op : Operator} {f : Field} {value : Json} {p : Predicate}
    (h : op.compile f value .flat false = .ok p) :
    p.inNullAlone = true ↔ op = .oneOf ∧ value = .array [.null] := by
  cases op with
  | oneOf =>
    simp only [Operator.compile, bind_ok, pure_ok] at h
    obtain ⟨values, hvalues, rfl⟩ := h
    rw [← f.values_eq_null, hvalues]
    simp [Predicate.inNullAlone_iff]
  | noneOf =>
    simp only [Operator.compile, bind_ok, pure_ok] at h
    obtain ⟨values, -, rfl⟩ := h
    simp [Predicate.inNullAlone]
  | jsonContains =>
    simp only [Operator.compile, bind_ok, pure_ok] at h
    obtain ⟨text, -, rfl⟩ := h
    simp [Predicate.inNullAlone]
  | like =>
    simp only [Operator.compile, bind_ok, pure_ok] at h
    obtain ⟨needle, -, rfl⟩ := h
    simp [Predicate.inNullAlone, Predicate.contains]
  | _ =>
    cases h
    simp [Predicate.inNullAlone]

namespace Parameters

/-- The parameter is a membership in the list of null alone. -/
def AsksNullAlone (schema : Schema) (e : String × Json) : Prop :=
  (∃ field, FlatKey.parse schema e.1 = .ok ⟨field, .oneOf⟩) ∧ e.2 = .array [.null]

section
variable {schema : Schema}

theorem compileOne_switch (key : String) (value : Json) :
    compileOne schema true key value = (compileOne schema false key value).map .memberAsEq := by
  unfold compileOne
  cases FlatKey.parse schema key with
  | error e => rfl
  | ok k =>
    simp only [bind, Except.bind]
    split
    · rfl
    · split
      · rfl
      · exact Operator.compile_switch ..

/-- The switch decides about the form of single predicates alone. -/
theorem compile_switch (params : List (String × Json)) :
    compile schema true params = (compile schema false params).map (List.map .memberAsEq) := by
  induction params with
  | nil => rfl
  | cons e rest ih =>
    obtain ⟨key, value⟩ := e
    simp only [compile]
    split
    · exact ih
    · rw [compileOne_switch, ih]
      cases compileOne schema false key value with
      | error e => rfl
      | ok p => cases compile schema false rest <;> rfl

theorem compileOne_inNullAlone {key : String} {value : Json} {p : Predicate}
    (h : compileOne schema false key value = .ok p) :
    p.inNullAlone = true ↔ AsksNullAlone schema (key, value) := by
  simp only [compileOne, bind_ok] at h
  obtain ⟨⟨field, op⟩, hkey, h⟩ := h
  split at h
  · cases h
  · split at h
    · cases h
    · rw [Operator.compile_inNullAlone h]
      simp [AsksNullAlone, hkey]

theorem any_inNullAlone {params : List (String × Json)} {ps : List Predicate}
    (h : compile schema false params = .ok ps) :
    ps.any Predicate.inNullAlone = false ↔ ∀ e ∈ params, ¬ AsksNullAlone schema e := by
  induction params generalizing ps with
  | nil =>
    cases h
    simp
  | cons e rest ih =>
    obtain ⟨key, value⟩ := e
    simp only [compile] at h
    split at h
    · next hnull =>
      have hvalue : ¬ AsksNullAlone schema (key, value) := by
        rintro ⟨-, rfl⟩
        cases hnull
      simp [ih h, hvalue]
    · simp only [bind_ok, pure_ok] at h
      obtain ⟨p, hp, qs, hqs, rfl⟩ := h
      rw [List.any_cons, Bool.or_eq_false_iff, ih hqs, ← Bool.not_eq_true,
        compileOne_inNullAlone hp, List.forall_mem_cons]

end

end Parameters

-- ---------------------------------------------------------------------------
-- Reads
-- ---------------------------------------------------------------------------

namespace Store

section
variable {ps qs : List Predicate}
  (h : ∀ row, ps.all (·.holds row) = qs.all (·.holds row))
include h

/-- A store sees of the predicates only which rows they hold of. -/
theorem matching_predicates (s : Store) (stmt : Statement) :
    s.matching { stmt with predicates := ps } = s.matching { stmt with predicates := qs } := by
  rw [matching_eq, matching_eq]
  simp only [selected, h]

theorem count_predicates (stmt : Statement) :
    count { stmt with predicates := ps } = count { stmt with predicates := qs } := by
  simp only [count, matching_predicates h]

theorem fetch_predicates (schema : Schema) (stmt : Statement) :
    fetch schema { stmt with predicates := ps } = fetch schema { stmt with predicates := qs } := by
  simp only [fetch, answer, matching_predicates h]

end

end Store

/-- Both are refused for one reason, or both are accepted and hold of the same rows. -/
inductive SameRows :
    Except QueryError (List Predicate) → Except QueryError (List Predicate) → Prop
  | refused (e : QueryError) : SameRows (.error e) (.error e)
  | accepted {ps qs : List Predicate} :
    (∀ row, ps.all (·.holds row) = qs.all (·.holds row)) → SameRows (.ok ps) (.ok qs)

namespace Collection

/-- The collection with the switch of the flat grammar set. -/
def switched (c : Collection) (single : Bool) : Collection :=
  { c with config := { c.config with singleValueInAsEq := single } }

theorem window_switched (c : Collection) (single : Bool) (page size : Option UInt32) :
    (c.switched single).window page size = c.window page size := by
  cases size <;> rfl

section
variable {c : Collection} {params : KeyMap Json} {condition : Option Condition}
  (h : ∀ e ∈ params, ¬ Parameters.AsksNullAlone c.schema e)
include h

theorem compilePredicates_switched (condition : Option Condition) :
    SameRows ((c.switched true).compilePredicates params condition)
      ((c.switched false).compilePredicates params condition) := by
  have htree : Condition.compile? c.schema true condition =
      Condition.compile? c.schema false condition := by
    cases condition with
    | none => rfl
    | some n => exact Condition.compile_switch true false n
  unfold compilePredicates switched
  simp only [Parameters.compile_switch, htree]
  cases hflat : Parameters.compile c.schema false params with
  | error e => exact .refused e
  | ok ps =>
    cases Condition.compile? c.schema false condition with
    | error e => exact .refused e
    | ok tree =>
      refine .accepted fun row => ?_
      rw [List.all_append, List.all_append, Predicate.all_holds_eq_memberAsEq row ps,
        (Parameters.any_inNullAlone hflat).mpr h]
      rfl

theorem count_switched :
    (c.switched true).count params condition = (c.switched false).count params condition := by
  have hfilter := compilePredicates_switched h condition
  unfold count
  generalize (c.switched true).compilePredicates params condition = x at hfilter ⊢
  generalize (c.switched false).compilePredicates params condition = y at hfilter ⊢
  cases hfilter with
  | refused e => rfl
  | accepted hrows =>
    exact congrArg reading (Store.count_predicates hrows { table := c.schema.table })

theorem any_switched :
    (c.switched true).any params condition = (c.switched false).any params condition := by
  rw [any_eq, any_eq, count_switched h]

end

section
variable {c : Collection} {r : ListRequest}
  (h : ∀ e ∈ r.params, ¬ Parameters.AsksNullAlone c.schema e)
include h

/-- A request is refused alike, or asks every store for the same. -/
theorem compile_switched :
    (∃ e, (c.switched true).compile r = .error e ∧ (c.switched false).compile r = .error e) ∨
    ∃ a b, (c.switched true).compile r = .ok a ∧ (c.switched false).compile r = .ok b ∧
      Store.fetch c.schema a.statement = Store.fetch c.schema b.statement ∧
      Store.count a.statement = Store.count b.statement := by
  have hfilter := compilePredicates_switched h r.condition
  unfold compile
  generalize (c.switched true).compilePredicates r.params r.condition = x at hfilter ⊢
  generalize (c.switched false).compilePredicates r.params r.condition = y at hfilter ⊢
  cases hfilter with
  | refused e => exact .inl ⟨e, rfl, rfl⟩
  | accepted hrows =>
    rw [window_switched, window_switched]
    unfold switched
    cases SortKey.parse c.schema r.sortBy r.sortOrder with
    | error e => exact .inl ⟨e, rfl, rfl⟩
    | ok keys =>
      cases c.window r.page r.pageSize with
      | error e => exact .inl ⟨e, rfl, rfl⟩
      | ok w =>
        let stmt : Statement :=
          { table := c.schema.table
            columns := c.projection (.ofSelection c.schema r.selection)
            orderBy := keys
            window := some w
            relations := (OutputFields.ofSelection c.schema r.selection).relations }
        exact .inr ⟨⟨{ stmt with predicates := _ }, _⟩, ⟨{ stmt with predicates := _ }, _⟩,
          rfl, rfl, Store.fetch_predicates hrows c.schema stmt,
          Store.count_predicates hrows stmt⟩

theorem getList_switched : (c.switched true).getList r = (c.switched false).getList r := by
  unfold getList
  rcases compile_switched h with ⟨e, hon, hoff⟩ | ⟨a, b, hon, hoff, hfetch, -⟩
  · rw [hon, hoff]
    rfl
  · rw [hon, hoff]
    exact congrArg reading hfetch

theorem getFirst_switched : (c.switched true).getFirst r = (c.switched false).getFirst r := by
  rw [getFirst_eq, getFirst_eq]
  exact congrArg (List.head? <$> ·) (getList_switched h)

end

/-- A key is given as texts. -/
theorem keyRequest_params {c : Collection} {pk : String} {r : ListRequest}
    (h : c.keyRequest pk = .ok r) :
    ∀ e ∈ r.params, ¬ Parameters.AsksNullAlone c.schema e := by
  unfold keyRequest at h
  extract_lets keys parts at h
  split at h
  · cases h
  · split at h
    · cases h
    · cases h
      rintro ⟨key, value⟩ he ⟨-, rfl⟩
      obtain ⟨part, -, hpart⟩ :=
        List.mem_map.mp (List.of_mem_zip (KeyMap.mem_of_mem_ofEntries he)).2
      cases hpart

theorem getByKey_switched (c : Collection) (pk : String) :
    (c.switched true).getByKey pk = (c.switched false).getByKey pk := by
  have hrequest (single : Bool) : (c.switched single).keyRequest pk = c.keyRequest pk := rfl
  unfold getByKey
  rw [hrequest, hrequest]
  cases hr : c.keyRequest pk with
  | error e => rfl
  | ok r => exact getFirst_switched (keyRequest_params hr)

end Collection

theorem Query.run_switched {c : Collection} {q : Query}
    (h : ∀ e ∈ (q.request c).params, ¬ Parameters.AsksNullAlone c.schema e) :
    q.run (c.switched true) = q.run (c.switched false) := by
  have hrequest (single : Bool) : q.request (c.switched single) = q.request c := by
    cases q <;> rfl
  rw [run_eq, run_eq, hrequest, hrequest]
  rcases Collection.compile_switched h with ⟨e, hon, hoff⟩ | ⟨a, b, hon, hoff, hfetch, hcount⟩
  · rw [hon, hoff]
    rfl
  · have hexecute : (c.switched true).execute a q.counted =
        (c.switched false).execute b q.counted := by
      unfold Collection.execute Collection.switched
      simp only [hfetch, hcount]
    rw [hon, hoff]
    exact hexecute

namespace Read

/-- The flat parameters that a read is given. -/
def params (c : Collection) : Read → KeyMap Json
  | query q => (q.request c).params
  | count params _ => params
  | any params _ => params
  | getList r => r.params
  | getFirst r => r.params
  | getByKey _ => []

theorem run_switched {c : Collection} {r : Read}
    (h : ∀ e ∈ r.params c, ¬ Parameters.AsksNullAlone c.schema e) :
    r.run (c.switched true) = r.run (c.switched false) := by
  cases r with
  | query q => exact congrArg (Reply.page <$> ·) (Query.run_switched h)
  | count params condition => exact congrArg (Reply.number <$> ·) (Collection.count_switched h)
  | any params condition => exact congrArg (Reply.flag <$> ·) (Collection.any_switched h)
  | getList r => exact congrArg (Reply.rows <$> ·) (Collection.getList_switched h)
  | getFirst r => exact congrArg (Reply.row <$> ·) (Collection.getFirst_switched h)
  | getByKey pk => exact congrArg (Reply.row <$> ·) (c.getByKey_switched pk)

end Read

-- ---------------------------------------------------------------------------
-- What the switch changes
-- ---------------------------------------------------------------------------

namespace Parameters

/-- The switch decides neither whether parameters are accepted nor how many predicates they
become. Without a membership in null alone no read depends on it; with one, the predicates
hold of no row when it is off. -/
theorem switch_differs_in_null_alone (schema : Schema) (params : List (String × Json)) :
    ((∃ e, compile schema true params = .error e ∧ compile schema false params = .error e) ∨
      ∃ ps qs, compile schema true params = .ok ps ∧ compile schema false params = .ok qs ∧
        ps.length = qs.length ∧
        ∀ row, (∀ q ∈ qs, q.holds row) ↔
          (∀ e ∈ params, ¬ AsksNullAlone schema e) ∧ ∀ p ∈ ps, p.holds row) ∧
    ∀ (c : Collection) (r : Read), c.schema = schema → r.params c = params →
      (∀ e ∈ params, ¬ AsksNullAlone schema e) →
        r.run (c.switched true) = r.run (c.switched false) := by
  constructor
  · rw [compile_switch]
    cases hoff : compile schema false params with
    | error e => exact .inl ⟨e, rfl, rfl⟩
    | ok qs =>
      refine .inr ⟨_, qs, rfl, rfl, List.length_map _, fun row => ?_⟩
      rw [← List.all_eq_true, Predicate.all_holds_eq_memberAsEq, Bool.and_eq_true,
        Bool.not_eq_true', any_inNullAlone hoff, List.all_eq_true]
  · rintro c r rfl rfl h
    exact Read.run_switched h

/-- A list of one value, and a list in which null is not alone. -/
theorem switch_differs_in_null_alone_heroes :
    let c : Collection := ⟨"Hero", Sample.heroSchema, {}⟩
    let params : KeyMap Json :=
      [("age__in", .array [.word 18]), ("name__in", .array [.null, .string "n1"])]
    (∀ e ∈ params, ¬ AsksNullAlone c.schema e) ∧
      (Read.count params none).run (c.switched true) =
        (Read.count params none).run (c.switched false) := by
  intro c params
  have h : ∀ e ∈ params, ¬ AsksNullAlone c.schema e := by
    refine List.forall_mem_cons.mpr ⟨?_, List.forall_mem_singleton.mpr ?_⟩
    · rintro ⟨-, hnull⟩
      exact nomatch hnull
    · rintro ⟨-, hnull⟩
      exact nomatch hnull
  exact ⟨h, (switch_differs_in_null_alone c.schema params).2 c _ rfl rfl h⟩

/-- The hero without an age is found with the switch on, and not with it off. -/
theorem switch_finds_null_alone :
    let c : Collection := ⟨"Hero", Sample.heroSchema, {}⟩
    let params : KeyMap Json := [("age__in", .array [.null])]
    (∃ ps qs, compile c.schema true params = .ok ps ∧ compile c.schema false params = .ok qs ∧
      (∀ p ∈ ps, p.holds [("age", .null)]) ∧ ¬ ∀ q ∈ qs, q.holds [("age", .null)]) ∧
    (((c.switched true).count params none).runOn Sample.store).1 = .ok 1 ∧
      (((c.switched false).count params none).runOn Sample.store).1 = .ok 0 := by
  intro c params
  have hon : compile c.schema true params = .ok [.compare "age" .eq .null] := rfl
  have hoff : compile c.schema false params = .ok [.oneOf "age" [.null]] := rfl
  refine ⟨⟨_, _, hon, hoff, by decide, by decide⟩, ?_, ?_⟩
  · have hfound : (Sample.store.selected "hero" [.compare "age" .eq .null]).length = 1 := by
      decide +kernel
    have hfilter := Collection.compilePredicates_flat (c := c.switched true) hon
    rw [Collection.runOn_count hfilter, ← hfound]
    rfl
  · have hfound : (Sample.store.selected "hero" [.oneOf "age" [.null]]).length = 0 := by
      decide +kernel
    have hfilter := Collection.compilePredicates_flat (c := c.switched false) hoff
    rw [Collection.runOn_count hfilter, ← hfound]
    rfl

end Parameters

end RecordQuery
