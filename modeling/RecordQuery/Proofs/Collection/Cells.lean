import RecordQuery.Proofs.Collection.Fields
import RecordQuery.Proofs.Text.CommaList
import RecordQuery.Sample.Heroes

/-!
# Selections that ask for the same

A selection gives its names item by item or in one text, between commas; which of the two does not
matter. Nor does it matter where blanks, names that the schema does not know and repetitions of a
name that stands before are put in among the others.
-/

namespace RecordQuery

-- ---------------------------------------------------------------------------
-- Names that add nothing
-- ---------------------------------------------------------------------------

namespace OutputFields

variable {schema : Schema} {f : OutputFields} {name : String}

/-- A name that already stands with the fields of its kind is not added again. -/
theorem add_eq_self (hcolumn : schema.IsScalar name → name ∈ f.columns)
    (hrelation : (schema.relation? name).isSome → name ∈ f.relations) :
    f.add schema name = f := by
  unfold add
  cases h : schema.field? name with
  | none => rfl
  | some field =>
    cases hkind : field.isRelation with
    | false =>
      have hname := hcolumn ⟨field, h, hkind⟩
      simp [hkind, addOnce_of_mem hname]
    | true =>
      have hname := hrelation ((congrArg Option.isSome (Schema.relation?_of_field? h)).trans hkind)
      simp [hkind, addOnce_of_mem hname]

theorem add_unknown (h : schema.field? name = none) : f.add schema name = f := by
  rw [add, h]

theorem foldl_add_eq_self {names : List String} (h : ∀ name ∈ names, f.add schema name = f) :
    names.foldl (add schema) f = f := by
  induction names with
  | nil => rfl
  | cons name rest ih =>
    obtain ⟨hname, hrest⟩ := List.forall_mem_cons.mp h
    rw [List.foldl_cons, hname, ih hrest]

theorem add_repeated {names : List String} (h : name ∈ names) :
    (names.foldl (add schema) f).add schema name = names.foldl (add schema) f :=
  add_eq_self
    (fun hscalar => (mem_foldl_add mem_columns_add names f).mpr (.inr ⟨h, hscalar⟩))
    (fun hsome => (mem_foldl_add mem_relations_add names f).mpr (.inr ⟨h, hsome⟩))

end OutputFields

namespace Selection

variable {schema : Schema}

-- ---------------------------------------------------------------------------
-- Cells
-- ---------------------------------------------------------------------------

/-- The cells of a selection: the items of a list as they are, or what stands between the commas
of a text. -/
inductive Gives : Selection → List String → Prop
  | list (cells : List String) : Gives (.list cells) cells
  | csv {text : String} {cells : List String} : Text.CutAtCommas text cells →
    Gives (.csv text) cells

theorem Gives.names_eq {sel : Selection} {cells : List String} (h : sel.Gives cells) :
    sel.names = Text.names cells := by
  cases h with
  | list => rfl
  | csv hcut => exact hcut.items_eq

/-- The cell asks for nothing that the cells before it do not ask for. -/
inductive Idle (schema : Schema) (before : List String) (cell : String) : Prop
  | blank : Text.Blank cell → Idle schema before cell
  | unknown : schema.field? (Text.trim cell) = none → Idle schema before cell
  | repeated (other : String) : other ∈ before → Text.trim other = Text.trim cell →
    Idle schema before cell

/-- Some cells with idle ones put in among them, one after the other. -/
inductive Padded (schema : Schema) (cells : List String) : List String → Prop
  | same : Padded schema cells cells
  | insert (before after : List String) {cell : String} : Padded schema cells (before ++ after) →
    Idle schema before cell → Padded schema cells (before ++ cell :: after)

theorem Idle.add_eq {before : List String} {cell : String} (h : Idle schema before cell)
    (f : OutputFields) :
    ∀ name ∈ Text.names [cell],
      ((Text.names before).foldl (OutputFields.add schema) f).add schema name =
        (Text.names before).foldl (OutputFields.add schema) f := by
  intro name hname
  obtain ⟨⟨_, hcell, rfl⟩, hne⟩ := Text.mem_names.mp hname
  obtain rfl := List.mem_singleton.mp hcell
  cases h with
  | blank hblank => exact absurd (Text.trim_of_blank hblank) hne
  | unknown hnone => exact OutputFields.add_unknown hnone
  | repeated other hother hsame =>
    exact OutputFields.add_repeated (Text.mem_names.mpr ⟨⟨other, hother, hsame⟩, hne⟩)

/-- An idle cell may be put in. -/
theorem Idle.foldl_add_insert {before : List String} {cell : String}
    (h : Idle schema before cell) (after : List String) (f : OutputFields) :
    (Text.names (before ++ cell :: after)).foldl (OutputFields.add schema) f =
      (Text.names (before ++ after)).foldl (OutputFields.add schema) f := by
  rw [← List.singleton_append, Text.names_append, Text.names_append, Text.names_append,
    List.foldl_append, List.foldl_append, List.foldl_append,
    OutputFields.foldl_add_eq_self (h.add_eq f)]

theorem Padded.foldl_add_eq {cells padded : List String} (h : Padded schema cells padded)
    (f : OutputFields) :
    (Text.names padded).foldl (OutputFields.add schema) f =
      (Text.names cells).foldl (OutputFields.add schema) f := by
  induction h with
  | same => rfl
  | insert before after _ hidle ih => exact (hidle.foldl_add_insert after f).trans ih

/-- Idle cells do not show in the fields of a selection, whichever way it is given. -/
theorem Padded.ofSelection_eq {cells padded : List String} {sel wider : Selection}
    (h : Padded schema cells padded) (hsel : sel.Gives cells) (hwider : wider.Gives padded) :
    OutputFields.ofSelection schema wider = .ofSelection schema sel := by
  rw [OutputFields.ofSelection, OutputFields.ofSelection, hsel.names_eq, hwider.names_eq,
    h.foldl_add_eq]

/-- Texts without commas are read back from the text that they are joined to: trimmed, in their
order, the blank ones left out. So they name the same in one text as in a list and select the same
fields. The items of any text are read back as they are. And whether a selection is a list or a
text, idle cells among its cells do not change the fields that it selects. -/
theorem csv_and_list_select_alike (schema : Schema) (cells : List String) :
    ((∀ cell ∈ cells, ',' ∉ cell.toList) →
      Text.items (Text.joined "," cells) = (cells.map Text.trim).filter (· ≠ "") ∧
      (csv (Text.joined "," cells)).names = (list cells).names ∧
      OutputFields.ofSelection schema (csv (Text.joined "," cells)) =
        .ofSelection schema (list cells)) ∧
    (∀ text, Text.items (Text.joined "," (Text.items text)) = Text.items text) ∧
    ∀ padded, Padded schema cells padded →
      ∀ sel wider : Selection, sel.Gives cells → wider.Gives padded →
        OutputFields.ofSelection schema wider = .ofSelection schema sel := by
  refine ⟨fun hsolid => ?_, Text.items_joined_items, fun padded hpadded sel wider => ?_⟩
  · have hitems := Text.items_joined hsolid
    have hnames : (csv (Text.joined "," cells)).names = (list cells).names := hitems
    refine ⟨hitems, hnames, ?_⟩
    rw [OutputFields.ofSelection, OutputFields.ofSelection, hnames]
  · exact hpadded.ofSelection_eq

/-- The names of a column and a relation with a blank cell between them, and idle cells of every
kind at the front, in the middle and at the end. -/
theorem csv_and_list_select_alike_heroes :
    let schema := Sample.heroSchema
    let cells := [" id", "", "team "]
    let padded := ["", " id", "nickname", "", "team ", "id"]
    ((∀ cell ∈ cells, ',' ∉ cell.toList) ∧ Padded schema cells padded) ∧
      (csv (Text.joined "," cells)).names = ["id", "team"] ∧
      OutputFields.ofSelection schema (csv (Text.joined "," padded)) = ⟨["id"], ["team"]⟩ := by
  intro schema cells padded
  have hcells : ∀ cell ∈ cells, ',' ∉ cell.toList := by decide +kernel
  have hsolid : ∀ cell ∈ padded, ',' ∉ cell.toList := by decide +kernel
  have hpadded : Padded schema cells padded := by
    have hunknown : Padded schema cells [" id", "nickname", "", "team "] :=
      .insert [" id"] ["", "team "] .same (.unknown (by decide +kernel))
    have hblank : Padded schema cells ["", " id", "nickname", "", "team "] :=
      .insert [] _ hunknown (.blank nofun)
    exact .insert ["", " id", "nickname", "", "team "] [] hblank
      (.repeated " id" (by decide) (by decide +kernel))
  obtain ⟨hjoined, -, hidle⟩ := csv_and_list_select_alike schema cells
  obtain ⟨-, hnames, hfields⟩ := hjoined hcells
  refine ⟨⟨hcells, hpadded⟩, ?_, ?_⟩
  · rw [hnames]
    decide +kernel
  · rw [hidle padded hpadded (list cells) _ (.list cells) (.csv ⟨by simp [padded], hsolid, rfl⟩)]
    decide +kernel

end Selection

end RecordQuery
