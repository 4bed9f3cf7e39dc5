import RecordQuery.Proofs.Collection.FirstFault
import RecordQuery.Proofs.Number.Integers
import RecordQuery.Proofs.Schema.Built
import RecordQuery.Proofs.Text.CommaList
import RecordQuery.Sample.Heroes

/-!
# Lists in one text

A membership takes its values as a JSON array or in one text with commas. Both mean the same:
the texts of the values, put together with blanks and empty items wherever one likes, compile
to the predicate that the array compiles to, and an item that is no value of the column's type
makes the request fail.
-/

namespace RecordQuery

-- ---------------------------------------------------------------------------
-- Values and their texts
-- ---------------------------------------------------------------------------

namespace ColumnType

/-- The value of a column of this type and the text that it is written as in a list. Texts are
written as they are, so they must be trimmed, not empty, and without commas. -/
inductive Writes : ColumnType → Json → String → Prop
  | integer {i : Int} : Numeral.isInt64 i = true → Writes .integer (.int i) (toString i)
  | boolean (b : Bool) : Writes .boolean (.bool b) (Json.boolText b)
  | string {type : ColumnType} {s : String} : type ∈ [.text, .timestamp, .json] → s ≠ "" →
    Text.trim s = s → ',' ∉ s.toList → Writes type (.string s) s

/-- The item of a list is read as this value for a column of this type. -/
inductive Reads : ColumnType → String → Json → Prop
  | integer {item : String} {i : Int} : Numeral.int64? item.toList = some i →
    Reads .integer item (.int i)
  | float {item : String} {x : Binary64} : Numeral.real? item = some (.finite x) →
    Reads .float item (.number (.float x))
  | isTrue {item : String} : Text.lowerAscii item = "true" ∨ Text.lowerAscii item = "1" →
    Reads .boolean item (.bool true)
  | isFalse {item : String} : Text.lowerAscii item = "false" ∨ Text.lowerAscii item = "0" →
    Reads .boolean item (.bool false)
  | string {type : ColumnType} (item : String) : type ∈ [.text, .timestamp, .json] →
    Reads type item (.string item)

end ColumnType

/-- A written text is an item of a list by itself. -/
theorem ColumnType.Writes.item {type : ColumnType} {v : Json} {text : String}
    (h : type.Writes v text) : (text ≠ "" ∧ Text.trim text = text) ∧ ',' ∉ text.toList := by
  cases h with
  | @integer i hrange =>
    refine ⟨⟨?_, Numeral.trim_toString i⟩, ?_⟩
    · intro hempty
      have hlist := Numeral.toList_toString i
      rw [hempty] at hlist
      simp [Nat.toDigits_ne_nil] at hlist
    · rw [Numeral.toList_toString, List.mem_append, not_or]
      refine ⟨by split <;> decide, fun hcomma => ?_⟩
      exact absurd (Numeral.isDigit_of_mem_toDigits hcomma) (by decide)
  | boolean b => cases b <;> decide +kernel
  | string _ hne htrim hcomma => exact ⟨⟨hne, htrim⟩, hcomma⟩

theorem ColumnType.items_of_writes {type : ColumnType} {vs : List Json} {texts : List String}
    (h : List.Forall₂ type.Writes vs texts) :
    ∀ text ∈ texts, (text ≠ "" ∧ Text.trim text = text) ∧ ',' ∉ text.toList := by
  induction h with
  | nil => nofun
  | cons hv _ ih => exact List.forall_mem_cons.mpr ⟨hv.item, ih⟩

/-- What is written of a value is read as this value. -/
theorem ColumnType.Writes.reads {type : ColumnType} {v : Json} {text : String}
    (h : type.Writes v text) : type.Reads text v := by
  cases h with
  | integer hrange => exact .integer (Numeral.int64?_toString hrange)
  | boolean b =>
    cases b with
    | true => exact .isTrue (.inl (by decide +kernel))
    | false => exact .isFalse (.inl (by decide +kernel))
  | string htype _ _ _ => exact .string _ htype

namespace Field

variable {f : Field}

/-- What is read of an item, and that it is read at all. -/
theorem typed_eq_ok {item : String} {v : Json} : f.typed item = .ok v ↔ f.type.Reads item v := by
  unfold typed
  constructor
  · intro h
    cases htype : f.type with
    | integer =>
      rw [htype] at h
      dsimp only at h
      split at h
      · next i hread =>
        cases h
        exact .integer hread
      · cases h
    | float =>
      rw [htype] at h
      dsimp only at h
      split at h
      · next x hread =>
        cases h
        exact .float hread
      · cases h
    | boolean =>
      rw [htype] at h
      dsimp only at h
      split at h
      · next hword =>
        cases h
        exact .isTrue hword
      · split at h
        · next hword =>
          cases h
          exact .isFalse hword
        · cases h
    | text | timestamp | json =>
      rw [htype] at h
      cases h
      exact .string item (by decide)
  · intro h
    generalize f.type = type at h ⊢
    cases h with
    | integer hread => simp only [hread]
    | float hread => simp only [hread]
    | isTrue hword => exact if_pos hword
    | isFalse hword =>
      have hnot : ¬ (Text.lowerAscii item = "true" ∨ Text.lowerAscii item = "1") := by
        rcases hword with hword | hword <;> rw [hword] <;> decide
      exact (if_neg hnot).trans (if_pos hword)
    | string _ htype =>
      simp only [List.mem_cons, List.not_mem_nil, or_false] at htype
      rcases htype with rfl | rfl | rfl <;> rfl

theorem typedAll_eq_ok {items : List String} {vs : List Json} :
    f.typedAll items = .ok vs ↔ List.Forall₂ f.type.Reads items vs := by
  induction items generalizing vs with
  | nil =>
    rw [typedAll, List.forall₂_nil_left_iff, Except.ok.injEq]
    exact eq_comm
  | cons item rest ih =>
    simp only [typedAll, bind_ok, pure_ok, List.forall₂_cons_left_iff, typed_eq_ok, ih]
    constructor
    · rintro ⟨v, hv, vs, hvs, rfl⟩
      exact ⟨v, vs, hv, hvs, rfl⟩
    · rintro ⟨v, vs, hv, hvs, rfl⟩
      exact ⟨v, hv, vs, hvs, rfl⟩

/-- An item that is read as no value is at fault. -/
theorem itemFault?_ne_none {item : String} (h : ¬ ∃ v, f.type.Reads item v) :
    f.itemFault? item ≠ none := by
  rw [← error?_typed]
  intro hnone
  obtain ⟨v, hv⟩ := error?_eq_none.mp hnone
  exact h ⟨v, typed_eq_ok.mp hv⟩

theorem listFault?_ne_none {s item : String} (hitem : item ∈ Text.items s)
    (h : ¬ ∃ v, f.type.Reads item v) : f.listFault? (.string s) ≠ none := fun hnone =>
  itemFault?_ne_none h (List.findSome?_eq_none_iff.mp hnone item hitem)

theorem values_spread {vs : List Json} {texts cells : List String}
    (hwrites : List.Forall₂ f.type.Writes vs texts) (hspread : Text.Spread texts cells) :
    f.values (.string (Text.joined "," cells)) = .ok vs := by
  have hitems := ColumnType.items_of_writes hwrites
  have hcells := hspread.not_mem_cells fun text htext => (hitems text htext).2
  rw [values, Text.items_joined hcells, hspread.names_eq fun text htext => (hitems text htext).1]
  exact typedAll_eq_ok.mpr (hwrites.flip.imp fun _ _ h => h.reads)

end Field

-- ---------------------------------------------------------------------------
-- Memberships
-- ---------------------------------------------------------------------------

/-- The predicate is the membership in exactly these values, or, for a single one, the equality
with it. -/
inductive Predicate.Lists (field : String) : Operator → List Json → Predicate → Prop
  | oneOf (vs : List Json) : Lists field .oneOf vs (.oneOf field vs)
  | equal (v : Json) : Lists field .oneOf [v] (.compare field .eq v)
  | noneOf (vs : List Json) : Lists field .noneOf vs (.noneOf field vs)

namespace Operator

variable {op : Operator} {f : Field} {value : Json} {vs : List Json} {grammar : Grammar}
  {single : Bool}

theorem compile_lists (hop : op = .oneOf ∨ op = .noneOf) (h : f.values value = .ok vs) :
    ∃ p, op.compile f value grammar single = .ok p ∧ p.Lists f.name op vs := by
  rcases hop with rfl | rfl
  · simp only [compile, h, bind, Except.bind]
    split
    · next v => exact ⟨_, rfl, .equal v⟩
    · exact ⟨_, rfl, .oneOf vs⟩
  · simp only [compile, h, bind, Except.bind]
    exact ⟨_, rfl, .noneOf vs⟩

theorem exists_lists {p : Predicate} (hop : op = .oneOf ∨ op = .noneOf)
    (h : op.compile f value grammar single = .ok p) :
    ∃ vs, f.values value = .ok vs ∧ p.Lists f.name op vs := by
  cases hvalues : f.values value with
  | error e => rcases hop with rfl | rfl <;> simp [compile, hvalues, bind, Except.bind] at h
  | ok vs =>
    obtain ⟨p', hp', hlists⟩ := compile_lists hop hvalues
    obtain rfl : p = p' := Except.ok.inj (h.symm.trans hp')
    exact ⟨vs, rfl, hlists⟩

/-- A membership is compiled from its values alone. -/
theorem compile_congr (hop : op = .oneOf ∨ op = .noneOf) {value' : Json}
    (h : f.values value = f.values value') :
    op.compile f value grammar single = op.compile f value' grammar single := by
  rcases hop with rfl | rfl <;> simp only [compile, h]

end Operator

/-- Where a filter stands: in the parameter with this key, or in a leaf of the condition. -/
inductive FilterPlace
  | parameter (key : String)
  | leaf

namespace FilterPlace

def grammar : FilterPlace → Grammar
  | parameter _ => .flat
  | leaf => .tree

/-- A key means the field and the operator that it is read as; a leaf names them. -/
def Means (schema : Schema) (f : Field) (op : Operator) : FilterPlace → Prop
  | parameter key => FlatKey.parse schema key = .ok ⟨f.name, op⟩
  | leaf => True

/-- The predicate of the filter, whatever else is in the request. -/
def compile (schema : Schema) (single : Bool) (f : Field) (op : Operator) (value : Json) :
    FilterPlace → Except QueryError Predicate
  | parameter key => Parameters.compileOne schema single key value
  | leaf => Condition.compileLeaf schema single ⟨f.name, op, value⟩

/-- The filter as a part of a request. -/
def part (f : Field) (op : Operator) (value : Json) : FilterPlace → ListRequest.Part
  | parameter key => .parameter key value
  | leaf => .leaf ⟨f.name, op, value⟩

variable {place : FilterPlace} {f : Field} {op : Operator} {value : Json}

theorem compile_eq {schema : Schema} (hf : schema.scalarField f.name = .ok f)
    (hplace : place.Means schema f op) (single : Bool) :
    place.compile schema single f op value = op.compile f value place.grammar single := by
  cases place with
  | parameter key =>
    obtain ⟨hfield, hscalar⟩ := Schema.scalarField_ok.mp hf
    exact Parameters.compileOne_of_parse hplace hfield hscalar value
  | leaf => simp [compile, Condition.compileLeaf, hf, bind, Except.bind, grammar]

theorem fault?_part {c : Collection} (hf : c.schema.scalarField f.name = .ok f)
    (hplace : place.Means c.schema f op) : c.fault? (place.part f op value) = op.fault? f value := by
  obtain ⟨hfield, hscalar⟩ := Schema.scalarField_ok.mp hf
  cases place with
  | parameter key =>
    have hparse : FlatKey.parse c.schema key = .ok ⟨f.name, op⟩ := hplace
    simp [part, Collection.fault?, Parameters.fault?, hparse, Schema.filterFault?, hfield, hscalar]
  | leaf => simp [part, Collection.fault?, Leaf.fault?, Schema.filterFault?, hfield, hscalar]

end FilterPlace

-- ---------------------------------------------------------------------------
-- Requests
-- ---------------------------------------------------------------------------

namespace Collection

variable {c : Collection} {r : ListRequest} {part : ListRequest.Part}
  {before after : List ListRequest.Part} {e : QueryError}

theorem compile_error_of_part (hpart : part ∈ r.parts) (hfault : c.fault? part ≠ none) :
    ∃ e, c.compile r = .error e := by
  cases h : c.compile r with
  | error e => exact ⟨e, rfl⟩
  | ok q =>
    have hsound := error?_eq_none.mpr ⟨q, h⟩
    rw [error?_compile, List.findSome?_eq_none_iff] at hsound
    exact absurd (hsound part hpart) hfault

/-- A fault counts when everything before it is sound. -/
theorem compile_error_of_first (hparts : r.parts = before ++ part :: after)
    (hbefore : ∀ p ∈ before, c.fault? p = none) (hfault : c.fault? part = some e) :
    c.compile r = .error e := by
  rw [← error?_eq_some, error?_compile, hparts, List.findSome?_append,
    List.findSome?_eq_none_iff.mpr hbefore, Option.none_or, List.findSome?_cons, hfault]

/-- For `in` and `not_in`, in either grammar and under either setting of the switch: the texts
of a list of values, with blanks around them and blank items among them, compile to the predicate
of these values that the array compiles to. In any text, an item that is no value of the column's
type makes every request fail that has the filter, and for this field unless something before it
is at fault; and what compiles lists the values of all items that are not blank, in their order. -/
theorem comma_list_compiles_as_array (c : Collection) (f : Field)
    (hf : c.schema.scalarField f.name = .ok f) (op : Operator) (hop : op = .oneOf ∨ op = .noneOf)
    (place : FilterPlace) (hplace : place.Means c.schema f op) :
    (∀ single vs texts cells, List.Forall₂ f.type.Writes vs texts → Text.Spread texts cells →
      ∃ p, place.compile c.schema single f op (.string (Text.joined "," cells)) = .ok p ∧
        place.compile c.schema single f op (.array vs) = .ok p ∧ p.Lists f.name op vs) ∧
    (∀ s cells, Text.CutAtCommas s cells → ∀ item ∈ Text.names cells,
      (¬ ∃ v, f.type.Reads item v) →
      ∃ fault,
        (∀ single, place.compile c.schema single f op (.string s) =
          .error (.invalidValue f.name fault)) ∧
        ∀ r before after, r.parts = before ++ place.part f op (.string s) :: after →
          (∃ e, c.compile r = .error e) ∧
          ((∀ p ∈ before, c.fault? p = none) →
            c.compile r = .error (.invalidValue f.name fault))) ∧
    (∀ single s cells p, Text.CutAtCommas s cells →
      place.compile c.schema single f op (.string s) = .ok p →
      ∃ vs, List.Forall₂ f.type.Reads (Text.names cells) vs ∧ p.Lists f.name op vs ∧
        place.compile c.schema single f op (.array vs) = .ok p) := by
  refine ⟨fun single vs texts cells hwrites hspread => ?_, fun s cells hcut item hitem hreads => ?_,
    fun single s cells p hcut hp => ?_⟩
  · have hvalues := f.values_spread hwrites hspread
    obtain ⟨p, hp, hlists⟩ := op.compile_lists hop hvalues
    refine ⟨p, ?_, ?_, hlists⟩
    · rw [place.compile_eq hf hplace, hp]
    · rw [place.compile_eq hf hplace, ← op.compile_congr hop hvalues, hp]
  · rw [← hcut.items_eq] at hitem
    have hlist := Field.listFault?_ne_none hitem hreads
    obtain ⟨e, he⟩ := Option.ne_none_iff_exists'.mp hlist
    have hfault : op.fault? f (.string s) = some e := by rcases hop with rfl | rfl <;> exact he
    obtain ⟨fault, rfl⟩ := Operator.fault?_eq_some hfault
    have hpart : c.fault? (place.part f op (.string s)) = some (.invalidValue f.name fault) :=
      (FilterPlace.fault?_part hf hplace).trans hfault
    refine ⟨fault, fun single => ?_, fun r before after hparts => ⟨?_, fun hbefore => ?_⟩⟩
    · rw [place.compile_eq hf hplace, ← error?_eq_some, Operator.error?_compile, hfault]
    · have hmem : place.part f op (.string s) ∈ r.parts := by simp [hparts]
      exact compile_error_of_part hmem (by simp [hpart])
    · exact compile_error_of_first hparts hbefore hpart
  · rw [place.compile_eq hf hplace] at hp
    obtain ⟨vs, hvalues, hlists⟩ := op.exists_lists hop hp
    have hreads : f.typedAll (Text.names cells) = .ok vs := hcut.items_eq ▸ hvalues
    refine ⟨vs, Field.typedAll_eq_ok.mp hreads, hlists, ?_⟩
    have harray : f.values (.array vs) = f.values (.string s) := hvalues.symm
    rw [place.compile_eq hf hplace, op.compile_congr hop harray, hp]

/-- The extremes of 64 bits with a blank item between them. An item that is no integer counts
before the page, which is at fault too. -/
theorem comma_list_compiles_as_array_ages :
    let c : Collection := ⟨"Hero", Sample.heroSchema, {}⟩
    let age : Field := ⟨"age", .integer, false, false, none⟩
    (c.schema.scalarField "age" = .ok age ∧
      (FilterPlace.parameter "age__in").Means c.schema age .oneOf) ∧
      (∃ p, Parameters.compileOne c.schema true "age__in"
          (.string " -9223372036854775808,,9223372036854775807 ") = .ok p ∧
        Parameters.compileOne c.schema true "age__in"
          (.array [.int (-9223372036854775808), .int 9223372036854775807]) = .ok p) ∧
      ∃ fault, c.compile { params := [("age__in", .string "3,x")], page := some 0 } =
        .error (.invalidValue "age" fault) := by
  intro c age
  have hf : c.schema.scalarField age.name = .ok age := rfl
  have hplace : (FilterPlace.parameter "age__in").Means c.schema age .oneOf := by rfl
  obtain ⟨hsame, hfault, -⟩ :=
    comma_list_compiles_as_array c age hf .oneOf (.inl rfl) (.parameter "age__in") hplace
  have hblank : Text.Blank " " := by
    intro c hc
    obtain rfl := List.mem_singleton.mp hc
    rfl
  have hnone : Text.Blank "" := nofun
  refine ⟨⟨hf, hplace⟩, ?_, ?_⟩
  · obtain ⟨p, hp, harray, -⟩ := hsame true _ _ _
      (.cons (.integer (i := -9223372036854775808) rfl)
        (.cons (.integer (i := 9223372036854775807) rfl) .nil))
      (.item _ hblank hnone (.blank hnone (.item _ hnone hblank .nil)))
    exact ⟨p, hp, harray⟩
  · have hx : "x" ∈ Text.names ["3", "x"] := by decide +kernel
    have hnever : ¬ ∃ v, age.type.Reads "x" v := by
      rintro ⟨v, hv⟩
      cases hv with
      | integer hread =>
        have hnone : Numeral.int64? "x".toList = none := by decide +kernel
        rw [hnone] at hread
        cases hread
      | string _ htype => exact absurd htype (by decide)
    have hcut : Text.CutAtCommas "3,x" ["3", "x"] :=
      ⟨by decide, by decide +kernel, by decide +kernel⟩
    obtain ⟨fault, -, hrequest⟩ := hfault _ _ hcut "x" hx hnever
    exact ⟨fault, (hrequest _ [] _ rfl).2 nofun⟩

end Collection

end RecordQuery
