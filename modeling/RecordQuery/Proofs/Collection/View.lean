import Mathlib.Data.List.Forall2
import RecordQuery.Proofs.Collection.Fields
import RecordQuery.Proofs.Collection.Protocol
import RecordQuery.Proofs.Record.Join
import RecordQuery.Service

/-!
# Selections as views

A selection of fields decides how each row of an answer is shown, and nothing else: not
which rows there are, nor how many or in which order. What a relation leads to is what it
leads to from the whole row.
-/

namespace RecordQuery

/-- The statement for the whole rows. -/
def Statement.unselected (stmt : Statement) : Statement :=
  { stmt with columns := [], relations := [] }

-- ---------------------------------------------------------------------------
-- Served queries
-- ---------------------------------------------------------------------------

namespace Query

def serve (c : Collection) : Query → StateM Store (Except QueryError Json × LogEvent)
  | flat q condition => c.serveList q condition
  | complex q => c.serveSearch q

/-- What the client is sent. -/
def answer (c : Collection) (s : Store) (q : Query) : Except QueryError Json :=
  ((q.serve c).run s).1.1

theorem answer_eq_serve (c : Collection) (s : Store) (q : Query) :
    q.answer c s = ((c.serve (c.compile (q.request c)) q.counted).runOn s).1 := by
  cases q <;> rfl

/-- A query whose request compiles is answered with its page, each row shaped. -/
theorem answer_eq {c : Collection} {q : Query} (h : c.compile (q.request c) = .ok compiled)
    (s : Store) :
    q.answer c s =
      if s.offline then .error (.store Store.offlineError)
      else .ok (Collection.shapePaged c.schema compiled.fields (c.page compiled q.counted s)) := by
  have hserve : c.serve (.ok compiled) q.counted =
      liftM (.ok compiled : Except QueryError CompiledQuery) >>= fun compiled =>
        Collection.shapePaged c.schema compiled.fields <$> c.execute compiled q.counted := by
    simp only [map_eq_pure_bind]
    rfl
  rw [answer_eq_serve, h, hserve, StoreM.runOn_bind_ok (StoreM.runOn_lift _), StoreM.runOn_map,
    Collection.runOn_execute]
  cases s.offline <;> rfl

/-- The query without a selection of fields. -/
def unselected : Query → Query
  | flat q condition => flat (q.withFields "") condition
  | complex q => complex { q with fields := [] }

@[simp] theorem counted_unselected (q : Query) : q.unselected.counted = q.counted := by
  cases q <;> rfl

theorem request_unselected (c : Collection) (q : Query) :
    ∃ sel : Selection, sel.names = [] ∧
      q.unselected.request c = { q.request c with selection := sel } := by
  cases q with
  | flat q condition => exact ⟨.csv "", rfl, rfl⟩
  | complex q => exact ⟨.list [], rfl, rfl⟩

/-- The selection decides the columns and relations that are read, and what is shown. -/
theorem compile_unselected {c : Collection} {q : Query}
    (h : c.compile (q.request c) = .ok compiled) :
    c.compile (q.unselected.request c) =
      .ok ⟨compiled.statement.unselected, .empty⟩ := by
  obtain ⟨ps, hps, keys, hkeys, w, hw, rfl⟩ := Collection.compile_ok.mp h
  obtain ⟨sel, hnames, hrequest⟩ := q.request_unselected c
  have hfields : OutputFields.ofSelection c.schema sel = .empty := by
    rw [OutputFields.ofSelection, hnames]
    rfl
  rw [hrequest]
  refine Collection.compile_ok.mpr ⟨ps, hps, keys, hkeys, w, hw, ?_⟩
  rw [hfields]
  rfl

end Query

-- ---------------------------------------------------------------------------
-- Joined rows
-- ---------------------------------------------------------------------------

/-- What a row shows of a relation: all rows of the target table that it is joined to, or the
first of them, or null. A joined row is shown as the object of its columns. -/
def Relation.shown (r : Relation) (targets : List Record) (row : KeyMap Json) : Json :=
  let rows := targets.filter (r.Joins (.ofColumns row) ·)
  match r.cardinality with
  | .many => .array (rows.map fun target => .object target.columns)
  | .one => (rows.head?.map fun target => .object target.columns).getD .null

/-- In a bare store the target rows have no relations of their own to show. -/
theorem Store.shape_related {s : Store} (hs : s.Bare) (r : Relation) (row : KeyMap Json) :
    (s.related r (.ofColumns row)).shape = r.shown (s.rows r.targetTable) row := by
  have hdump : ∀ target ∈ (s.rows r.targetTable).filter (r.Joins (.ofColumns row) ·),
      Record.dump target = .object target.columns := by
    intro target htarget
    obtain ⟨columns, rfl⟩ := hs _ _ (List.mem_filter.mp htarget).1
    exact Record.dump_ofColumns columns
  unfold related Relation.shown
  rw [joined_eq]
  generalize (s.rows r.targetTable).filter (r.Joins (.ofColumns row) ·) = rows at hdump
  cases r.cardinality with
  | many =>
    show Json.array (dumpAll rows) = _
    rw [dumpAll_eq, List.map_congr_left hdump]
  | one =>
    cases rows with
    | nil => rfl
    | cons target rest => exact hdump target List.mem_cons_self

namespace Collection

-- ---------------------------------------------------------------------------
-- One row
-- ---------------------------------------------------------------------------

/-- How an item shows a row when these names are selected: the row's values of the primary
keys and the selected columns, the rows of its table that every selected relation joins to the
whole row, and nothing else. -/
structure Shows (s : Store) (schema : Schema) (names : List String) (row item : KeyMap Json) :
    Prop where
  ordered : item.Ordered
  relation : ∀ key ∈ names, ∀ r, schema.relation? key = some r →
    item.get? key = some (r.shown (s.rows r.targetTable) row)
  column : ∀ key, key ∈ schema.primaryKeys ∨ key ∈ names ∧ schema.IsScalar key →
    ¬(key ∈ names ∧ (schema.relation? key).isSome) → item.get? key = row.get? key
  other : ∀ key, key ∉ schema.primaryKeys → ¬(key ∈ names ∧ (schema.field? key).isSome) →
    item.get? key = none

/-- A row is shown in one way alone. -/
theorem Shows.unique {s : Store} {schema : Schema} {names : List String}
    {row item item' : KeyMap Json} (h : Shows s schema names row item)
    (h' : Shows s schema names row item') : item = item' := by
  refine KeyMap.eq_of_get? h.ordered h'.ordered fun key => ?_
  by_cases hrelation : key ∈ names ∧ (schema.relation? key).isSome
  · obtain ⟨r, hr⟩ := Option.isSome_iff_exists.mp hrelation.2
    rw [h.relation key hrelation.1 r hr, h'.relation key hrelation.1 r hr]
  by_cases hcolumn : key ∈ schema.primaryKeys ∨ key ∈ names ∧ schema.IsScalar key
  · rw [h.column key hcolumn hrelation, h'.column key hcolumn hrelation]
  · have hfield : ¬(key ∈ names ∧ (schema.field? key).isSome) := by
      rw [Schema.isSome_field?]
      tauto
    have hkey : key ∉ schema.primaryKeys := fun hk => hcolumn (.inl hk)
    rw [h.other key hkey hfield, h'.other key hkey hfield]

/-- The members by which a row is shown. -/
def item (c : Collection) (s : Store) (fields : OutputFields) (row : KeyMap Json) :
    KeyMap Json :=
  (s.present c.schema (c.projection fields) fields.relations (.ofColumns row)).members c.schema
    fields

theorem shows_item (c : Collection) {s : Store} (hs : s.Bare) {sel : Selection}
    (h : (OutputFields.ofSelection c.schema sel).isEmpty = false) (row : KeyMap Json) :
    Shows s c.schema sel.names row (c.item s (.ofSelection c.schema sel) row) where
  ordered := Record.ordered_members ..
  relation key hkey r hr := by
    have hrelation : key ∈ (OutputFields.ofSelection c.schema sel).relations :=
      OutputFields.mem_relations_ofSelection.mpr ⟨hkey, by rw [hr]; rfl⟩
    have hlocal : r.localKey ∈ c.projection (.ofSelection c.schema sel) :=
      (mem_projection h).mpr (.inr (.inr ⟨key, hrelation, r, hr, rfl⟩))
    rw [item, Record.get?_members, if_pos hrelation,
      Store.relation?_present hrelation hr hlocal, ← Store.shape_related hs]
    rfl
  column key hkey hnot := by
    have hcolumn : key ∈ c.schema.primaryKeys ∨
        key ∈ (OutputFields.ofSelection c.schema sel).columns :=
      hkey.imp id OutputFields.mem_columns_ofSelection.mpr
    have hprojected : key ∈ c.projection (.ofSelection c.schema sel) :=
      (mem_projection h).mpr (hcolumn.imp id .inl)
    rw [item, Record.get?_members, if_neg (mt OutputFields.mem_relations_ofSelection.mp hnot),
      if_pos hcolumn, Store.get?_present hprojected]
    rfl
  other key hkey hnot := by
    rw [Schema.isSome_field?] at hnot
    rw [item, Record.get?_members, if_neg, if_neg]
    · rw [OutputFields.mem_columns_ofSelection]
      tauto
    · rw [OutputFields.mem_relations_ofSelection]
      tauto

-- ---------------------------------------------------------------------------
-- Whole answers
-- ---------------------------------------------------------------------------

theorem shapePaged_empty (schema : Schema) (count : Int) (rows : List (KeyMap Json)) :
    shapePaged schema .empty ⟨count, rows.map Record.ofColumns⟩ =
      Paged.toJson ⟨count, rows.map .object⟩ := by
  have hshape : Record.shape schema .empty ∘ Record.ofColumns = .object := by
    funext row
    exact Record.dump_ofColumns row
  rw [shapePaged, Paged.map, List.map_map, hshape]

theorem shapePaged_fields {fields : OutputFields} (h : fields.isEmpty = false) (schema : Schema)
    (count : Int) (records : List Record) :
    shapePaged schema fields ⟨count, records⟩ =
      Paged.toJson ⟨count, (records.map (·.members schema fields)).map .object⟩ := by
  rw [shapePaged, Paged.map, List.map_map, funext (Record.shape_eq h schema)]
  rfl

section
variable {s : Store} {schema : Schema} {stmt : Statement} {w : Window}
  (hw : stmt.window = some w)
include hw

theorem answer_unselected :
    s.answer schema stmt.unselected = w.slice (Store.sorted stmt.orderBy (s.matching stmt)) :=
  (Store.answer_eq s schema stmt.unselected hw).trans (List.map_id _)

/-- A statement answers the whole rows, each of them presented by itself. -/
theorem answer_eq_map_unselected :
    s.answer schema stmt =
      (s.answer schema stmt.unselected).map
        (s.present schema stmt.columns stmt.relations) := by
  rw [Store.answer_eq s schema stmt hw, answer_unselected hw]

/-- In a bare store the whole rows are objects. -/
theorem answer_unselected_bare (hs : s.Bare) (schema : Schema) :
    ∃ rows : List (KeyMap Json),
      s.answer schema stmt.unselected = rows.map Record.ofColumns := by
  have hbare : ∀ r ∈ s.answer schema stmt.unselected, ∃ members, r = .ofColumns members := by
    intro r hr
    rw [answer_unselected hw] at hr
    have hsorted := List.mem_of_mem_drop (List.mem_of_mem_take hr)
    have hmatching := (Store.sorted_perm ..).mem_iff.mp hsorted
    exact hs stmt.table r (List.mem_filter.mp hmatching).1
  refine ⟨(s.answer schema stmt.unselected).map (·.columns), ?_⟩
  rw [List.map_map]
  refine (List.map_id _).symm.trans (List.map_congr_left fun r hr => ?_)
  obtain ⟨members, rfl⟩ := hbare r hr
  rfl

end

/-- With a selection that names a field, a query is answered like the query without it, with
the same count and as many items, each of which shows the row that is in its place there. -/
theorem selection_is_view (c : Collection) (s : Store) (q : Query) (compiled : CompiledQuery)
    (hs : s.Bare) (hcompile : c.compile (q.request c) = .ok compiled)
    (hnames : ∃ name ∈ (q.request c).selection.names, (c.schema.field? name).isSome) :
    ∃ (count : Int) (rows items : List (KeyMap Json)),
      (q.unselected.answer c s =
        if s.offline then .error (.store Store.offlineError)
        else .ok (Paged.toJson ⟨count, rows.map .object⟩)) ∧
      (q.answer c s =
        if s.offline then .error (.store Store.offlineError)
        else .ok (Paged.toJson ⟨count, items.map .object⟩)) ∧
      List.Forall₂ (Shows s c.schema (q.request c).selection.names) rows items := by
  have hanswer := Query.answer_eq hcompile s
  have hunselected := Query.answer_eq (Query.compile_unselected hcompile) s
  have hfields := OutputFields.isEmpty_ofSelection.mpr hnames
  obtain ⟨ps, -, keys, -, w, -, hcompiled⟩ := compile_ok.mp hcompile
  have hw : compiled.statement.window = some w := hcompiled ▸ rfl
  obtain ⟨rows, hrows⟩ := answer_unselected_bare hw hs c.schema
  refine ⟨(c.page compiled q.counted s).count, rows,
    rows.map (c.item s (.ofSelection c.schema (q.request c).selection)), ?_, ?_, ?_⟩
  · rw [hunselected, page, hrows, shapePaged_empty, Query.counted_unselected]
    rfl
  · subst hcompiled
    rw [hanswer, page, answer_eq_map_unselected hw, hrows, shapePaged_fields hfields]
    simp only [List.map_map]
    rfl
  · rw [List.forall₂_map_right_iff]
    exact List.forall₂_same.mpr fun row _ => shows_item c hs hfields row

/-- A hero of a team and a hero of none, by age and shown by their names and teams. -/
theorem selection_is_view_heroes :
    let c : Collection := ⟨"Hero", Sample.heroSchema, {}⟩
    let team : KeyMap Json := [("id", .int 1), ("name", .string "Preventers")]
    let rows : List (KeyMap Json) :=
      [[("age", .int 3), ("id", .int 7), ("name", .string "n1"), ("team_id", .int 1)],
        [("age", .int 4), ("id", .int 8), ("name", .string "n2"), ("team_id", .null)]]
    let s := Store.empty.final
      [.insertMany "team" [.object team], .insertMany "hero" (rows.map .object)]
    let q : Query := .flat
      { fields := "team, name, nope, team", sortBy := some "age", count := true } none
    q.unselected.answer c s = .ok (Paged.toJson ⟨2, rows.map .object⟩) ∧
      ∃ items : List (KeyMap Json),
        q.answer c s = .ok (Paged.toJson ⟨2, items.map .object⟩) ∧
        List.Forall₂ (Shows s c.schema ["team", "name", "nope", "team"]) rows items ∧
        items.map (KeyMap.get? · "team") = [some (.object team), some .null] := by
  intro c team rows s q
  have hs : s.Bare := Store.bare_empty.final (by simp)
  have hrows : q.unselected.answer c s = .ok (Paged.toJson ⟨2, rows.map .object⟩) := by
    -- the rows are in their order already
    rw [Query.answer_eq rfl, page, Store.answer_eq _ _ _ rfl, Store.sorted,
      List.mergeSort_of_pairwise]
    · rfl
    · decide +kernel
  obtain ⟨count, found, items, hfound, hanswer, hshows⟩ :=
    selection_is_view c s q _ hs rfl ⟨"team", by decide, by decide⟩
  obtain ⟨hcount, hobjects⟩ := Paged.toJson_eq_iff.mp (Except.ok.inj (hfound.symm.trans hrows))
  have hsame : found = rows := List.map_injective_iff.mpr (fun _ _ => Json.object.inj) hobjects
  subst hsame
  refine ⟨hrows, items, hanswer.trans ?_, hshows, ?_⟩
  · exact congrArg Except.ok (Paged.toJson_eq_iff.mpr ⟨hcount, rfl⟩)
  · have hteam {row item : KeyMap Json}
        (h : Shows s c.schema ["team", "name", "nope", "team"] row item) :
        item.get? "team" = some (Relation.shown ⟨"Team", "team", "team_id", "id", .one⟩
          (s.rows "team") row) :=
      h.relation "team" (by decide) _ rfl
    obtain ⟨_, _, h7, hrest, rfl⟩ := List.forall₂_cons_left_iff.mp hshows
    obtain ⟨_, _, h8, hnil, rfl⟩ := List.forall₂_cons_left_iff.mp hrest
    obtain rfl := List.forall₂_nil_left_iff.mp hnil
    rw [List.map_cons, hteam h7, List.map_cons, hteam h8]
    rfl

end Collection

end RecordQuery
