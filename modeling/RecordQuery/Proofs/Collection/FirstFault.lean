import Mathlib.Data.List.Forall2
import RecordQuery.Proofs.Collection.Compile
import RecordQuery.Proofs.Collection.Refusals
import RecordQuery.Proofs.Condition.Meaning

/-!
# The first fault of a request

A request is a list of parts: its parameters, the leaves of its condition, its sort names, its
page and its page size. Each part is at fault or not by itself, and no part hides another: a
request compiles when all of its parts are sound, and fails with the first fault otherwise.
-/

namespace RecordQuery

theorem findSome?_cons_or (f : α → Option β) (a : α) (as : List α) :
    (a :: as).findSome? f = (f a).or (as.findSome? f) := by
  rw [List.findSome?_cons]
  cases f a <;> rfl

-- ---------------------------------------------------------------------------
-- Values
-- ---------------------------------------------------------------------------

namespace Field

/-- An item of a list in one text must denote a value of the column's type. -/
def itemFault? (f : Field) (item : String) : Option QueryError :=
  match f.type with
  | .integer =>
    if (Numeral.int64? item.toList).isSome then none
    else some (.invalidValue f.name (.notInteger item))
  | .float =>
    match Numeral.real? item with
    | some (.finite _) => none
    | _ => some (.invalidValue f.name (.notNumber item))
  | .boolean =>
    if ["true", "1", "false", "0"].contains (Text.lowerAscii item) then none
    else some (.invalidValue f.name (.notBoolean item))
  | .text | .timestamp | .json => none

/-- A membership takes any list, and a text without a faulty item. -/
def listFault? (f : Field) : Json → Option QueryError
  | .array _ => none
  | .string s => (Text.items s).findSome? f.itemFault?
  | j => some (.invalidValue f.name (.notList j))

def scalarFault? (f : Field) : Json → Option QueryError
  | .string _ | .number _ | .bool _ => none
  | j => some (.invalidValue f.name (.notScalar j))

section
variable {f : Field} {e : QueryError}

/-- The fault of a value names the field. -/
theorem itemFault?_eq_some {item : String} (h : f.itemFault? item = some e) :
    ∃ fault, e = .invalidValue f.name fault := by
  unfold itemFault? at h
  split at h
  · split at h
    · cases h
    · exact ⟨_, (Option.some_inj.mp h).symm⟩
  · split at h
    · cases h
    · exact ⟨_, (Option.some_inj.mp h).symm⟩
  · split at h
    · cases h
    · exact ⟨_, (Option.some_inj.mp h).symm⟩
  all_goals cases h

theorem listFault?_eq_some {value : Json} (h : f.listFault? value = some e) :
    ∃ fault, e = .invalidValue f.name fault := by
  unfold listFault? at h
  split at h
  · cases h
  · obtain ⟨item, -, hitem⟩ := List.exists_of_findSome?_eq_some h
    exact itemFault?_eq_some hitem
  · exact ⟨_, (Option.some_inj.mp h).symm⟩

theorem scalarFault?_eq_some {value : Json} (h : f.scalarFault? value = some e) :
    ∃ fault, e = .invalidValue f.name fault := by
  unfold scalarFault? at h
  split at h
  all_goals first | cases h; done | exact ⟨_, (Option.some_inj.mp h).symm⟩

end

theorem error?_typed (f : Field) (item : String) : error? (f.typed item) = f.itemFault? item := by
  unfold typed itemFault?
  cases f.type with
  | integer => cases Numeral.int64? item.toList <;> rfl
  | float => rcases Numeral.real? item with _ | _ | _ | _ <;> rfl
  | boolean =>
    dsimp only
    generalize Text.lowerAscii item = word
    split
    · next h => rcases h with rfl | rfl <;> rfl
    · next htrue =>
      split
      · next h => rcases h with rfl | rfl <;> rfl
      · next hfalse => simp [not_or.mp htrue, not_or.mp hfalse]
  | _ => rfl

theorem error?_typedAll (f : Field) (items : List String) :
    error? (f.typedAll items) = items.findSome? f.itemFault? := by
  induction items with
  | nil => rfl
  | cons item rest ih => rw [typedAll, error?_cons, error?_typed, ih, findSome?_cons_or]

theorem error?_values (f : Field) (value : Json) :
    error? (f.values value) = f.listFault? value := by
  cases value with
  | string s => exact f.error?_typedAll (Text.items s)
  | _ => rfl

theorem error?_scalarText (f : Field) (value : Json) :
    error? (f.scalarText value) = f.scalarFault? value := by
  cases value <;> rfl

end Field

/-- Comparisons take any value. -/
def Operator.fault? (op : Operator) (f : Field) (value : Json) : Option QueryError :=
  match op with
  | .oneOf | .noneOf => f.listFault? value
  | .jsonContains | .like => f.scalarFault? value
  | .eq | .ne | .lt | .gt | .le | .ge => none

theorem Operator.fault?_eq_some {op : Operator} {f : Field} {value : Json} {e : QueryError}
    (h : op.fault? f value = some e) : ∃ fault, e = .invalidValue f.name fault := by
  cases op with
  | oneOf | noneOf => exact Field.listFault?_eq_some h
  | jsonContains | like => exact Field.scalarFault?_eq_some h
  | _ => cases h

theorem Operator.error?_compile (op : Operator) (f : Field) (value : Json) (grammar : Grammar)
    (single : Bool) : error? (op.compile f value grammar single) = op.fault? f value := by
  cases op with
  | oneOf =>
    refine (error?_bind_sound fun values => ?_).trans (f.error?_values value)
    split <;> rfl
  | noneOf => exact (error?_bind_sound fun values => rfl).trans (f.error?_values value)
  | jsonContains => exact (error?_bind_sound fun text => rfl).trans (f.error?_scalarText value)
  | like => exact (error?_bind_sound fun text => rfl).trans (f.error?_scalarText value)
  | _ => rfl

-- ---------------------------------------------------------------------------
-- Filters
-- ---------------------------------------------------------------------------

section
variable (schema : Schema)

/-- The field must exist, lead to no other entity, and take the value; `shown` is what the
first two faults name. -/
def Schema.filterFault? (shown field : String) (op : Operator) (value : Json) :
    Option QueryError :=
  match schema.field? field with
  | none => some (.fieldNotFound shown)
  | some f => if f.isRelation then some (.relationNotFilterable shown) else op.fault? f value

/-- A key is read first, and named whole in its faults. -/
def Parameters.fault? (key : String) (value : Json) : Option QueryError :=
  match FlatKey.parse schema key with
  | .error e => some e
  | .ok k => schema.filterFault? key k.field k.operator value

def Leaf.fault? (l : Leaf) : Option QueryError :=
  schema.filterFault? l.field l.field l.operator l.value

def SortKey.fault? (name : String) : Option QueryError :=
  match schema.field? name with
  | none => some (.invalidSortField name)
  | some f => if f.isRelation then some (.invalidSortField name) else none

end

variable {schema : Schema} {single : Bool}

theorem Parameters.error?_compileOne (key : String) (value : Json) :
    error? (compileOne schema single key value) = fault? schema key value := by
  unfold compileOne fault? Schema.filterFault?
  cases FlatKey.parse schema key with
  | error e => rfl
  | ok k =>
    simp only [bind, Except.bind]
    cases schema.field? k.field with
    | none => rfl
    | some f =>
      cases hrelation : f.isRelation with
      | true => simp [hrelation]
      | false => simp [hrelation, Operator.error?_compile]

/-- A parameter asks what its key says of the field that the key names. -/
theorem Parameters.compileOne_of_parse {key : String} {k : FlatKey} {f : Field}
    (hkey : FlatKey.parse schema key = .ok k) (hf : schema.field? k.field = some f)
    (hscalar : f.isRelation = false) (value : Json) :
    compileOne schema single key value = k.operator.compile f value .flat single := by
  simp [compileOne, hkey, hf, hscalar, bind, Except.bind]

/-- The parameters that have a value. -/
def Parameters.given (params : KeyMap Json) : KeyMap Json :=
  params.filter fun e => !e.2.isNull

namespace Parameters

theorem given_cons_null {key : String} {value : Json} (h : value.isNull = true)
    (rest : List (String × Json)) : given ((key, value) :: rest) = given rest :=
  List.filter_cons_of_neg (by simp [h])

theorem given_cons_value {key : String} {value : Json} (h : value.isNull = false)
    (rest : List (String × Json)) : given ((key, value) :: rest) = (key, value) :: given rest :=
  List.filter_cons_of_pos (by simp [h])

theorem error?_compile (params : List (String × Json)) :
    error? (compile schema single params) =
      (given params).findSome? fun e => fault? schema e.1 e.2 := by
  induction params with
  | nil => rfl
  | cons e rest ih =>
    obtain ⟨key, value⟩ := e
    rw [compile]
    cases hnull : value.isNull with
    | true =>
      rw [if_pos rfl, given_cons_null hnull]
      exact ih
    | false =>
      rw [if_neg (by decide), error?_cons, error?_compileOne, ih, given_cons_value hnull,
        findSome?_cons_or]

/-- Every parameter with a value becomes the predicate that it becomes by itself. -/
theorem compile_eq_ok {params : List (String × Json)} {ps : List Predicate} :
    compile schema single params = .ok ps ↔
      List.Forall₂ (fun e p => compileOne schema single e.1 e.2 = .ok p) (given params) ps := by
  induction params generalizing ps with
  | nil =>
    rw [compile, given, List.filter_nil, List.forall₂_nil_left_iff, Except.ok.injEq]
    exact eq_comm
  | cons e rest ih =>
    obtain ⟨key, value⟩ := e
    rw [compile]
    cases hnull : value.isNull with
    | true =>
      rw [if_pos rfl, given_cons_null hnull]
      exact ih
    | false =>
      rw [if_neg (by decide), given_cons_value hnull, List.forall₂_cons_left_iff]
      constructor
      · intro h
        obtain ⟨p, hp, h⟩ := bind_ok.mp h
        obtain ⟨qs, hqs, hps⟩ := bind_ok.mp h
        exact ⟨p, qs, hp, ih.mp hqs, (pure_ok.mp hps).symm⟩
      · rintro ⟨p, qs, hp, hqs, rfl⟩
        exact bind_ok.mpr ⟨p, hp, bind_ok.mpr ⟨qs, ih.mpr hqs, rfl⟩⟩

end Parameters

namespace Condition

theorem error?_compileLeaf (l : Leaf) :
    error? (compileLeaf schema single l) = l.fault? schema := by
  unfold compileLeaf Leaf.fault? Schema.filterFault? Schema.scalarField
  cases schema.field? l.field with
  | none => rfl
  | some f =>
    cases hrelation : f.isRelation with
    | true => simp [hrelation, bind, Except.bind]
    | false => simp [hrelation, bind, Except.bind, Operator.error?_compile]

theorem error?_compileNodes {nodes : List Condition}
    (ih : ∀ n ∈ nodes, error? (compile schema single n) =
      n.leaves.findSome? (Leaf.fault? schema)) :
    error? (compileNodes schema single nodes) =
      (nodes.flatMap leaves).findSome? (Leaf.fault? schema) := by
  induction nodes with
  | nil => rfl
  | cons n rest ihrest =>
    obtain ⟨ihn, ihns⟩ := List.forall_mem_cons.mp ih
    have hrest (p : Option Predicate) :
        error? (do let ps ← compileNodes schema single rest; return p.toList ++ ps) =
          (rest.flatMap leaves).findSome? (Leaf.fault? schema) :=
      (error?_bind_sound fun ps => rfl).trans (ihrest ihns)
    rw [compileNodes, error?_bind hrest, ihn, List.flatMap_cons, List.findSome?_append]

theorem error?_compileBranch {branch : Option (List Condition)}
    (ih : ∀ n ∈ branch.getD [], error? (compile schema single n) =
      n.leaves.findSome? (Leaf.fault? schema)) :
    error? (compileBranch schema single branch) =
      (branchLeaves branch).findSome? (Leaf.fault? schema) := by
  rw [compileBranch_eq, branchLeaves_eq]
  exact error?_compileNodes ih

/-- However deep the leaves stand, they are checked in the order in which they are written. -/
theorem error?_compile (c : Condition) :
    error? (compile schema single c) = c.leaves.findSome? (Leaf.fault? schema) := by
  induction c with
  | leaf l =>
    rw [compile, leaves, List.findSome?_singleton]
    exact (error?_bind_sound fun p => rfl).trans (error?_compileLeaf l)
  | group all any ihall ihany =>
    have hany (ps : List Predicate) :
        error? (do
          let qs ← compileBranch schema single any
          return combine Predicate.conjunction ((combine Predicate.conjunction ps).toList ++
            (combine Predicate.disjunction qs).toList)) =
          (branchLeaves any).findSome? (Leaf.fault? schema) :=
      (error?_bind_sound fun qs => rfl).trans (error?_compileBranch ihany)
    rw [compile, leaves, error?_bind hany, List.findSome?_append, error?_compileBranch ihall]

theorem error?_compile? (c : Option Condition) :
    error? (compile? schema single c) =
      ((c.map leaves).getD []).findSome? (Leaf.fault? schema) := by
  cases c with
  | none => rfl
  | some c => exact error?_compile c

end Condition

-- ---------------------------------------------------------------------------
-- Sort and window
-- ---------------------------------------------------------------------------

namespace SortKey

theorem error?_ofName (order : SortOrder) (name : String) :
    error? (ofName schema order name) = fault? schema name := by
  unfold ofName fault?
  cases schema.field? name with
  | none => rfl
  | some f => cases hrelation : f.isRelation <;> simp [hrelation]

theorem error?_ofNames (order : SortOrder) (names : List String) :
    error? (ofNames schema order names) = names.findSome? (fault? schema) := by
  induction names with
  | nil => rfl
  | cons name rest ih => rw [ofNames, error?_cons, error?_ofName, ih, findSome?_cons_or]

theorem error?_parse (sortBy : Option String) (order : SortOrder) :
    error? (parse schema sortBy order) =
      ((sortBy.map Text.items).getD []).findSome? (fault? schema) := by
  cases sortBy with
  | none => rfl
  | some text => exact error?_ofNames order (Text.items text)

end SortKey

namespace Window

def pageFault? (config : QueryConfig) (page : UInt32) : Option QueryError :=
  if page < 1 ∨ config.maxPage < page then some (.invalidWindow (.pageOutside config.maxPage page))
  else none

def sizeFault? (config : QueryConfig) (size : UInt32) : Option QueryError :=
  if config.maxPageSize < size then some (.invalidWindow (.sizeOutside config.maxPageSize size))
  else none

theorem error?_checkPage (page : UInt32) (config : QueryConfig) :
    error? (checkPage page config) = pageFault? config page := by
  unfold checkPage pageFault?
  split <;> rfl

end Window

/-- A page size that is left out is none that could be at fault. -/
theorem Collection.error?_window (c : Collection) (page size : Option UInt32) :
    error? (c.window page size) =
      (Window.pageFault? c.config (page.getD 1)).or (size.bind (Window.sizeFault? c.config)) := by
  cases size with
  | none =>
    refine (error?_bind_sound fun _ => rfl).trans ?_
    rw [Window.error?_checkPage, Option.bind_none, Option.or_none]
  | some n =>
    have hsize (u : Unit) : error? (if c.config.maxPageSize < n then
        .error (.invalidWindow (.sizeOutside c.config.maxPageSize n))
      else .ok ⟨page.getD 1, n⟩ : Except QueryError Window) = Window.sizeFault? c.config n := by
      unfold Window.sizeFault?
      split <;> rfl
    rw [Option.bind_some, ← Window.error?_checkPage]
    exact error?_bind hsize

-- ---------------------------------------------------------------------------
-- Parts of a request
-- ---------------------------------------------------------------------------

/-- What can be at fault in a request by itself. -/
inductive ListRequest.Part
  | parameter (key : String) (value : Json)
  | leaf (l : Leaf)
  | sortName (name : String)
  | page (number : UInt32)
  | pageSize (size : UInt32)

/-- The parts in the order in which they count: parameters with a value by their keys, leaves
from left to right with the branch of which all must hold first, sort names, page, page size. -/
def ListRequest.parts (r : ListRequest) : List Part :=
  (Parameters.given r.params).map (fun e => .parameter e.1 e.2) ++
    ((r.condition.map Condition.leaves).getD []).map .leaf ++
    ((r.sortBy.map Text.items).getD []).map .sortName ++
    .page (r.page.getD 1) :: r.pageSize.toList.map .pageSize

namespace Collection

def fault? (c : Collection) : ListRequest.Part → Option QueryError
  | .parameter key value => Parameters.fault? c.schema key value
  | .leaf l => l.fault? c.schema
  | .sortName name => SortKey.fault? c.schema name
  | .page number => Window.pageFault? c.config number
  | .pageSize size => Window.sizeFault? c.config size

theorem error?_compilePredicates (c : Collection) (params : KeyMap Json)
    (condition : Option Condition) :
    error? (c.compilePredicates params condition) =
      ((Parameters.given params).findSome? fun e => Parameters.fault? c.schema e.1 e.2).or
        (((condition.map Condition.leaves).getD []).findSome? (Leaf.fault? c.schema)) := by
  have hflat : error? (Parameters.compile c.schema c.config.singleValueInAsEq params) = _ :=
    Parameters.error?_compile params
  have htree : error? (Condition.compile? c.schema c.config.singleValueInAsEq condition) = _ :=
    Condition.error?_compile? condition
  rw [← hflat, ← htree]
  exact error?_bind fun flat => error?_bind_sound fun tree => rfl

/-- The stages of compiling come in the order of the parts. -/
theorem error?_compile (c : Collection) (r : ListRequest) :
    error? (c.compile r) = r.parts.findSome? c.fault? := by
  -- the parts of one stage are next to each other, so the first fault is that of the first
  -- stage that has one
  have hparts : r.parts.findSome? c.fault? =
      (error? (c.compilePredicates r.params r.condition)).or
        ((error? (SortKey.parse c.schema r.sortBy r.sortOrder)).or
          (error? (c.window r.page r.pageSize))) := by
    have hsize : (r.pageSize.toList.map ListRequest.Part.pageSize).findSome? c.fault? =
        r.pageSize.bind (Window.sizeFault? c.config) := by
      cases r.pageSize with
      | none => rfl
      | some n => exact List.findSome?_singleton
    have hwindow : (.page (r.page.getD 1) :: r.pageSize.toList.map .pageSize).findSome? c.fault? =
        error? (c.window r.page r.pageSize) := by
      rw [error?_window, findSome?_cons_or, hsize, fault?]
    rw [ListRequest.parts, List.findSome?_append, List.findSome?_append, List.findSome?_append,
      hwindow, List.findSome?_map, List.findSome?_map, List.findSome?_map,
      error?_compilePredicates, SortKey.error?_parse, Option.or_assoc]
    rfl
  rw [hparts]
  refine error?_bind fun ps => error?_bind fun keys => error?_bind_sound fun w => rfl

/-- A request compiles when none of its parts is at fault, and otherwise fails with the first
fault, which is the client's. Output fields are at fault in no request; and every parameter
with a value has its one predicate in an accepted one, in the order of the keys. -/
theorem compile_fails_first_fault (c : Collection) (r : ListRequest) :
    ((∃ q, c.compile r = .ok q) ↔ ∀ part ∈ r.parts, c.fault? part = none) ∧
    (∀ e, c.compile r = .error e ↔ r.parts.findSome? c.fault? = some e) ∧
    (∀ e, c.compile r = .error e → e.isClient = true ∧ e.status = 400) ∧
    (∀ selection e,
      c.compile { r with selection := selection } = .error e ↔ c.compile r = .error e) ∧
    ∀ q, c.compile r = .ok q →
      ∃ ps, Parameters.compile c.schema c.config.singleValueInAsEq r.params = .ok ps ∧
        List.Forall₂
          (fun e p => Parameters.compileOne c.schema c.config.singleValueInAsEq e.1 e.2 = .ok p)
          (Parameters.given r.params) ps ∧
        (r.params.Ordered → (Parameters.given r.params).Ordered) ∧
        ps <+: q.statement.predicates := by
  refine ⟨?_, fun e => ?_, fun e he => ?_, fun selection e => ?_, fun q hq => ?_⟩
  · rw [← error?_eq_none, error?_compile, List.findSome?_eq_none_iff]
  · rw [← error?_eq_some, error?_compile]
  · have hclient := (c.compile_refuses r).isClient e he
    exact ⟨hclient, by rw [QueryError.status, if_pos hclient]⟩
  · rw [← error?_eq_some, ← error?_eq_some, error?_compile, error?_compile]
    rfl
  · obtain ⟨all, hall, _, -, _, -, rfl⟩ := compile_ok.mp hq
    simp only [compilePredicates, bind_ok, pure_ok] at hall
    obtain ⟨ps, hps, tree, -, rfl⟩ := hall
    exact ⟨ps, hps, Parameters.compile_eq_ok.mp hps, fun hordered => hordered.filter _,
      List.prefix_append ps tree.toList⟩

/-- Faults in every stage: the second item of a list is the first of them, since the key with
a null value is passed over. Without faults, two parameters become two predicates. -/
theorem compile_fails_first_fault_heroes :
    let c : Collection := ⟨"Hero", Sample.heroSchema, {}⟩
    let faulty : ListRequest :=
      { params := [("a__b", .null), ("age__in", .string "3, x, y"), ("team", .word 1)]
        condition := some (.allOf [.leaf ⟨"nope", .eq, .word 1⟩])
        sortBy := some "name, nope"
        page := some 0 }
    let sound : ListRequest :=
      { params := [("a__b", .null), ("age__ge", .word 18), ("name", .string "n1")]
        selection := .csv "nope, name, name" }
    (c.compile faulty = .error (.invalidValue "age" (.notInteger "x")) ∧
      (QueryError.invalidValue "age" (.notInteger "x")).status = 400) ∧
    ∃ q p p', c.compile sound = .ok q ∧ [p, p'] <+: q.statement.predicates ∧
      Parameters.compileOne c.schema true "age__ge" (.word 18) = .ok p ∧
      Parameters.compileOne c.schema true "name" (.string "n1") = .ok p' := by
  intro c faulty sound
  constructor
  · obtain ⟨-, hfirst, hclient, -⟩ := compile_fails_first_fault c faulty
    have hfault : c.compile faulty = .error (.invalidValue "age" (.notInteger "x")) :=
      (hfirst _).mpr rfl
    exact ⟨hfault, (hclient _ hfault).2⟩
  · obtain ⟨haccepted, -, -, -, hpredicates⟩ := compile_fails_first_fault c sound
    have hparts : sound.parts.findSome? c.fault? = none := rfl
    obtain ⟨q, hq⟩ := haccepted.mpr (List.findSome?_eq_none_iff.mp hparts)
    obtain ⟨ps, -, hps, -, hprefix⟩ := hpredicates q hq
    obtain ⟨p, _, hp, hname, rfl⟩ := List.forall₂_cons_left_iff.mp hps
    obtain ⟨p', _, hp', hnone, rfl⟩ := List.forall₂_cons_left_iff.mp hname
    obtain rfl := List.forall₂_nil_left_iff.mp hnone
    exact ⟨q, p, p', hq, hprefix, hp, hp'⟩

end Collection

end RecordQuery
