import RecordQuery.Proofs.Predicate.Retyped
import RecordQuery.Proofs.Collection.Query
import RecordQuery.Proofs.Request.Written
import RecordQuery.Sample.Heroes

/-!
# Parameters as texts

A query string gives every parameter as a text, a JSON object can give integers, truth
values and lists of them. A list in one text is split at commas and its items are read by the
type of the column. As long as the rows hold what they are compared with, a read answers the
same for both forms.
-/

namespace RecordQuery

/-- An item of a list for a column of this type is taken for the literal. -/
def ColumnType.takes : ColumnType → Json → Bool
  | .integer, .number (.int i) => Numeral.isInt64 i.val
  | .float, .number (.int _) => true
  | .boolean, .bool _ => true
  | .text, _ => true
  | .timestamp, _ => true
  | .json, _ => true
  | _, _ => false

/-- The columns of a record in the table. -/
def Store.HasRow (s : Store) (table : String) (row : KeyMap Json) : Prop :=
  ∃ r ∈ s.rows table, r.columns = row

/-- The predicates hold of the same ones among the rows. -/
def Predicate.SameOn (rows : KeyMap Json → Prop) (p q : Predicate) : Prop :=
  ∀ row, rows row → p.holds row = q.holds row

theorem Predicate.all_holds_of_sameOn {rows : KeyMap Json → Prop} {ps qs : List Predicate}
    (h : List.Forall₂ (SameOn rows) ps qs) {row : KeyMap Json} (hrow : rows row) :
    ps.all (·.holds row) = qs.all (·.holds row) := by
  induction h with
  | nil => rfl
  | cons hp _ ih => rw [List.all_cons, List.all_cons, hp row hrow, ih]

-- ---------------------------------------------------------------------------
-- Items of a list
-- ---------------------------------------------------------------------------

theorem Json.int_val (i : Json.Integer) : Json.int i.val = .number (.int i) := by
  rw [Json.int, Json.Number.ofInt?, dif_pos ⟨i.lower, i.upper⟩]

namespace Field

/-- On a float column an integer is read as the float that it is compared as. -/
theorem typed_spelled (f : Field) {v : Json} {item : String} (h : v.Spelled item)
    (htype : f.type.takes v = true) :
    ∃ w, f.typed item = .ok w ∧
      ∀ actual : Json, actual.meets v → actual.Interchangeable v w := by
  have htext : ∀ actual : Json, actual.meets v → actual.Interchangeable v (.string item) :=
    fun _ hmeets => h.interchangeable hmeets
  unfold typed
  cases hf : f.type with
  | integer =>
    rw [hf] at htype
    cases h with
    | integer i =>
      refine ⟨.number (.int i), ?_, fun _ _ => .refl _ _⟩
      simp only [Numeral.int64?_toString htype, Json.int_val]
    | boolean b => cases htype
  | float =>
    rw [hf] at htype
    cases h with
    | integer i =>
      refine ⟨.number (.float (Json.Number.int i).toBinary64), ?_, fun actual hmeets => ?_⟩
      · simp only [i.real?_toString]
      · refine ⟨rfl, fun hactual => ?_⟩
        cases actual with
        | null => cases hactual
        | number x => rfl
        | _ => cases hmeets
    | boolean b => cases htype
  | boolean =>
    rw [hf] at htype
    cases h with
    | integer i => cases htype
    | boolean b =>
      have hlower : Text.lowerAscii (Json.boolText b) = Json.boolText b := by
        cases b <;> decide +kernel
      refine ⟨.bool b, ?_, fun _ _ => .refl _ _⟩
      simp only [hlower]
      cases b <;> simp [Json.boolText]
  | text => exact ⟨_, rfl, htext⟩
  | timestamp => exact ⟨_, rfl, htext⟩
  | json => exact ⟨_, rfl, htext⟩

theorem typedAll_spelled (f : Field) {rows : KeyMap Json → Prop} {vs : List Json}
    {items : List String}
    (h : List.Forall₂ (fun v item => v.Spelled item ∧ f.type.takes v ∧
      ∀ row, rows row → (column row f.name).meets v) vs items) :
    ∃ ws, f.typedAll items = .ok ws ∧
      List.Forall₂ (fun v w => ∀ row, rows row → (column row f.name).Interchangeable v w)
        vs ws := by
  induction h with
  | nil => exact ⟨[], rfl, .nil⟩
  | cons hv _ ih =>
    obtain ⟨hspelled, htype, hmeets⟩ := hv
    obtain ⟨w, hw, hsame⟩ := f.typed_spelled hspelled htype
    obtain ⟨ws, hws, hrest⟩ := ih
    refine ⟨w :: ws, ?_, .cons (fun row hrow => hsame _ (hmeets row hrow)) hrest⟩
    rw [typedAll, hw, hws]
    rfl

end Field

-- ---------------------------------------------------------------------------
-- One operator
-- ---------------------------------------------------------------------------

namespace Operator

variable {op : Operator} {f : Field} {rows : KeyMap Json → Prop}

/-- A single literal and its text, apart from memberships, which take lists. -/
theorem compile_spelled {v : Json} {s : String} (h : v.Spelled s) (hone : op ≠ .oneOf)
    (hnone : op ≠ .noneOf)
    (hrows : ∀ row, rows row → (column row f.name).Interchangeable v (.string s))
    (grammar : Grammar) (single : Bool) :
    SameOutcome (Predicate.SameOn rows) (op.compile f v grammar single)
      (op.compile f (.string s) grammar single) := by
  have hcompare (cmp : Comparison) : SameOutcome (Predicate.SameOn rows)
      (.ok (.compare f.name cmp v) : Except QueryError Predicate)
      (.ok (.compare f.name cmp (.string s))) :=
    .ok fun row hrow => Predicate.holds_compare_congr cmp (hrows row hrow)
  have htext : f.scalarText v = f.scalarText (.string s) := by
    cases h <;> rfl
  cases op with
  | oneOf => exact absurd rfl hone
  | noneOf => exact absurd rfl hnone
  | jsonContains =>
    rw [compile, compile, htext]
    exact .refl (fun _ _ _ => rfl) _
  | like =>
    rw [compile, compile, htext]
    exact .refl (fun _ _ _ => rfl) _
  | _ => exact hcompare _

/-- A membership in a list of literals and in a list of what the items are read as. -/
theorem compile_members {x y : Json} {vs ws : List Json} (hx : f.values x = .ok vs)
    (hy : f.values y = .ok ws) (hop : op = .oneOf ∨ op = .noneOf)
    (h : List.Forall₂ (fun v w => ∀ row, rows row → (column row f.name).Interchangeable v w) vs ws)
    (grammar : Grammar) (single : Bool) :
    SameOutcome (Predicate.SameOn rows) (op.compile f x grammar single)
      (op.compile f y grammar single) := by
  have hrow (row : KeyMap Json) (hrow : rows row) :
      List.Forall₂ (column row f.name).Interchangeable vs ws :=
    h.imp fun _ _ hv => hv row hrow
  have hone : SameOutcome (Predicate.SameOn rows)
      (.ok (.oneOf f.name vs) : Except QueryError Predicate) (.ok (.oneOf f.name ws)) :=
    .ok fun row hin => Predicate.holds_oneOf_congr (hrow row hin)
  rcases hop with rfl | rfl
  · rw [compile, compile, hx, hy]
    -- with the switch on, a list of one value becomes equality with it
    cases grammar with
    | tree => exact hone
    | flat =>
      cases single with
      | false => exact hone
      | true =>
        cases h with
        | nil => exact hone
        | cons hv hrest =>
          cases hrest with
          | nil => exact .ok fun row hin => Predicate.holds_compare_congr .eq (hv row hin)
          | cons _ _ => exact hone
  · rw [compile, compile, hx, hy]
    exact .ok fun row hin => Predicate.holds_noneOf_congr (hrow row hin)

end Operator

-- ---------------------------------------------------------------------------
-- Parameters
-- ---------------------------------------------------------------------------

/-- The parameter stays, or a literal becomes its text, or a list of literals becomes a text
whose items stand for them. In all of the rows the column is null or of the literal's kind. -/
inductive Parameters.Retyped (schema : Schema) (rows : KeyMap Json → Prop) :
    String × Json → String × Json → Prop
  | same (e : String × Json) : Retyped schema rows e e
  | literal {key : String} {v : Json} {s : String} : v.Spelled s →
    (∀ k f, FlatKey.parse schema key = .ok k → schema.field? k.field = some f →
      k.operator ≠ .oneOf ∧ k.operator ≠ .noneOf ∧
      ∀ row, rows row → (column row f.name).meets v) →
    Retyped schema rows (key, v) (key, .string s)
  | list {key : String} {vs : List Json} {s : String} :
    (∀ k f, FlatKey.parse schema key = .ok k → schema.field? k.field = some f →
      (k.operator = .oneOf ∨ k.operator = .noneOf) ∧
      List.Forall₂ (fun v item => v.Spelled item ∧ f.type.takes v ∧
        ∀ row, rows row → (column row f.name).meets v) vs (Text.items s)) →
    Retyped schema rows (key, .array vs) (key, .string s)

namespace Parameters

variable {schema : Schema} {rows : KeyMap Json → Prop}

theorem Retyped.fst_eq {e e' : String × Json} (h : Retyped schema rows e e') : e.1 = e'.1 := by
  cases h <;> rfl

theorem Retyped.isNull_eq {e e' : String × Json} (h : Retyped schema rows e e') :
    e.2.isNull = e'.2.isNull := by
  cases h with
  | same => rfl
  | literal hspelled _ => exact hspelled.isNull
  | list _ => rfl

/-- What becomes of a value is decided behind the checks of its key. -/
theorem compileOne_congr {related : Predicate → Predicate → Prop} {single : Bool} {key : String}
    {x y : Json}
    (h : ∀ k f, FlatKey.parse schema key = .ok k → schema.field? k.field = some f →
      SameOutcome related (k.operator.compile f x .flat single)
        (k.operator.compile f y .flat single)) :
    SameOutcome related (compileOne schema single key x) (compileOne schema single key y) := by
  unfold compileOne
  cases hkey : FlatKey.parse schema key with
  | error e => exact .error e
  | ok k =>
    simp only [bind, Except.bind]
    cases hf : schema.field? k.field with
    | none => exact .error _
    | some f =>
      cases hrelation : f.isRelation with
      | true => simpa [hrelation] using SameOutcome.error _
      | false => simpa [hrelation] using h k f hkey hf

theorem Retyped.compileOne {e e' : String × Json} (h : Retyped schema rows e e')
    (single : Bool) :
    SameOutcome (Predicate.SameOn rows) (compileOne schema single e.1 e.2)
      (compileOne schema single e'.1 e'.2) := by
  cases h with
  | same => exact .refl (fun _ _ _ => rfl) _
  | @literal key v s hspelled hkey =>
    refine compileOne_congr fun k f hparse hfield => ?_
    obtain ⟨hone, hnone, hmeets⟩ := hkey k f hparse hfield
    refine Operator.compile_spelled hspelled hone hnone (fun row hrow => ?_) .flat single
    exact hspelled.interchangeable (hmeets row hrow)
  | @list key vs s hkey =>
    refine compileOne_congr fun k f hparse hfield => ?_
    obtain ⟨hop, hitems⟩ := hkey k f hparse hfield
    obtain ⟨ws, hws, hsame⟩ := f.typedAll_spelled hitems
    have hvalues : f.values (.string s) = .ok ws := hws
    exact Operator.compile_members rfl hvalues hop hsame .flat single

/-- Both lists are refused for one reason, or become predicates that hold of the same rows. -/
theorem Retyped.compile {params texts : List (String × Json)}
    (h : List.Forall₂ (Retyped schema rows) params texts) (single : Bool) :
    SameOutcome (List.Forall₂ (Predicate.SameOn rows)) (compile schema single params)
      (compile schema single texts) := by
  induction h with
  | nil => exact .ok .nil
  | @cons e e' _ _ he _ ih =>
    obtain ⟨key, value⟩ := e
    obtain ⟨key', value'⟩ := e'
    have hnull : value.isNull = value'.isNull := he.isNull_eq
    simp only [Parameters.compile, hnull]
    cases value'.isNull with
    | true => exact ih
    | false =>
      refine (he.compileOne single).bind fun p q hp => ?_
      exact ih.bind fun ps qs hps => .ok (.cons hp hps)

end Parameters

-- ---------------------------------------------------------------------------
-- Reads
-- ---------------------------------------------------------------------------

/-- The queries differ in their predicates alone, which hold of the same ones among the rows. -/
structure CompiledQuery.SameOn (rows : KeyMap Json → Prop) (a b : CompiledQuery) : Prop where
  predicates :
    List.Forall₂ (Predicate.SameOn rows) a.statement.predicates b.statement.predicates
  rest : { a.statement with predicates := b.statement.predicates } = b.statement
  fields : a.fields = b.fields

namespace Collection

variable {c : Collection} {rows : KeyMap Json → Prop}

theorem compile_retyped {r : ListRequest} {texts : KeyMap Json}
    (h : List.Forall₂ (Parameters.Retyped c.schema rows) r.params texts) :
    SameOutcome (CompiledQuery.SameOn rows) (c.compile r)
      (c.compile { r with params := texts }) := by
  have hsame {α : Type} (x : Except QueryError α) : SameOutcome Eq x x := .refl (fun _ => rfl) x
  have hfilters : SameOutcome (List.Forall₂ (Predicate.SameOn rows))
      (c.compilePredicates r.params r.condition) (c.compilePredicates texts r.condition) := by
    refine (Parameters.Retyped.compile h c.config.singleValueInAsEq).bind fun ps qs hps => ?_
    refine (hsame _).bind fun tree _ htree => ?_
    subst htree
    exact .ok (List.rel_append hps (List.forall₂_same.mpr fun _ _ _ _ => rfl))
  refine hfilters.bind fun ps qs hps => ?_
  refine (hsame _).bind fun sort _ hsort => ?_
  refine (hsame _).bind fun window _ hwindow => ?_
  subst hsort hwindow
  exact .ok ⟨hps, rfl, rfl⟩

theorem page_sameOn {s : Store} {a b : CompiledQuery} (h : a.SameOn rows b)
    (hrows : ∀ r ∈ s.rows a.statement.table, rows r.columns) (count : Bool) :
    c.page a count s = c.page b count s := by
  have hmatching : s.matching a.statement = s.matching b.statement := by
    rw [← h.rest, Store.matching_eq, Store.matching_eq]
    refine List.filter_congr fun r hr => ?_
    exact Predicate.all_holds_of_sameOn h.predicates (hrows r hr)
  have hanswer : s.answer c.schema a.statement = s.answer c.schema b.statement := by
    unfold Store.answer
    rw [hmatching, ← h.rest]
  rw [page, page, hmatching, hanswer]

theorem forall₂_filterParams {q : FlatQuery} {texts : KeyMap Json}
    (h : List.Forall₂ (Parameters.Retyped c.schema rows) q.params texts) :
    List.Forall₂ (Parameters.Retyped c.schema rows) q.filterParams
      { q with params := texts }.filterParams :=
  List.rel_filter (fun _ _ he => by simp only [he.fst_eq]) h

/-- A list is read alike, counts and errors included. -/
theorem list_retyped {q : FlatQuery} {texts : KeyMap Json} {s : Store}
    (h : List.Forall₂ (Parameters.Retyped c.schema (s.HasRow c.schema.table)) q.params texts)
    (condition : Option Condition) :
    (c.list q condition).runOn s = (c.list { q with params := texts } condition).runOn s := by
  have hcompile : SameOutcome (CompiledQuery.SameOn (s.HasRow c.schema.table))
      (c.compileFlat q condition) (c.compileFlat { q with params := texts } condition) := by
    have hparams := forall₂_filterParams h
    exact compile_retyped (r := c.ofFlat q condition) hparams
  unfold list
  generalize hq : c.compileFlat q condition = x at hcompile ⊢
  generalize c.compileFlat { q with params := texts } condition = y at hcompile ⊢
  cases hcompile with
  | error e => rfl
  | @ok a b hab =>
    obtain ⟨_, -, _, -, _, -, rfl⟩ := compile_ok.mp hq
    rw [StoreM.runOn_bind_ok (StoreM.runOn_lift _), StoreM.runOn_bind_ok (StoreM.runOn_lift _),
      runOn_execute, runOn_execute, page_sameOn hab fun r hr => ⟨r, hr, rfl⟩]

end Collection

namespace FlatQuery

/-- All parameters are texts. -/
def Textual (q : FlatQuery) : Prop := ∀ e ∈ q.params, ∃ s, e.2 = .string s

theorem Textual.takePair {q q' : FlatQuery} (h : q.Textual) {key value : String}
    (htake : q.takePair key value = .ok q') : q'.Textual := by
  cases hkey : isReserved key with
  | true =>
    rw [Textual, (takePair_reserved hkey htake).1]
    exact h
  | false =>
    rw [takePair_unreserved hkey] at htake
    cases htake
    intro e he
    rcases KeyMap.mem_put he with rfl | he
    · exact ⟨value, rfl⟩
    · exact h e he

theorem Textual.takePairs {q q' : FlatQuery} (h : q.Textual) {pairs : List (String × String)}
    (htake : q.takePairs pairs = .ok q') : q'.Textual := by
  induction pairs generalizing q with
  | nil =>
    cases htake
    exact h
  | cons pair rest ih =>
    simp only [FlatQuery.takePairs, bind_ok] at htake
    obtain ⟨q₁, hq₁, hrest⟩ := htake
    exact ih (h.takePair hq₁) hrest

theorem textual_of_ofPairs {pairs : List (String × String)} {q : FlatQuery}
    (h : ofPairs pairs = .ok q) : q.Textual := by
  have hempty : Textual {} := List.forall_mem_nil _
  exact hempty.takePairs h

end FlatQuery

-- ---------------------------------------------------------------------------
-- Both forms
-- ---------------------------------------------------------------------------

/-- A predicate and the one with texts in place of any of its literals hold of every row whose
columns are null or of the kinds of these literals. A query string has texts alone, and a list
that is read by typed parameters is read alike when they come as texts. -/
theorem texts_select_as_literals :
    (∀ (row : KeyMap Json) (p p' : Predicate), p.Retyped row p' → p.holds row = p'.holds row) ∧
    (∀ pairs q, FlatQuery.ofPairs pairs = .ok q → ∀ e ∈ q.params, ∃ s, e.2 = .string s) ∧
    ∀ (c : Collection) (s : Store) (q : FlatQuery) (texts : KeyMap Json)
      (condition : Option Condition),
      List.Forall₂ (Parameters.Retyped c.schema (s.HasRow c.schema.table)) q.params texts →
      (c.list q condition).runOn s = (c.list { q with params := texts } condition).runOn s := by
  refine ⟨fun row p p' h => ?_, fun pairs q h => ?_, fun c s q texts condition h => ?_⟩
  · exact h.holds_eq
  · exact FlatQuery.textual_of_ofPairs h
  · exact Collection.list_retyped h condition

/-- Integers at both ends of their range, rounded to floats, among values that stay; and a
list of ages in one text, beside a bound and a flag. -/
theorem texts_select_as_literals_heroes :
    let least : Json := .number (.int ⟨-0x8000000000000000, by decide, by decide⟩)
    let greatest : Json := .number (.int ⟨0xffffffffffffffff, by decide, by decide⟩)
    let row : KeyMap Json := [("age", .number (.float ⟨false, 0x43f0000000000000, by decide⟩)),
      ("is_deprecated", .bool true)]
    let p : Predicate := .or [.and [.compare "age" .ge least, .oneOf "is_deprecated" [.bool false]],
      .noneOf "age" [greatest, .string "x", .null], .compare "team_id" .ne greatest]
    let p' : Predicate := .or [.and [.compare "age" .ge (.string "-9223372036854775808"),
        .oneOf "is_deprecated" [.string "false"]],
      .noneOf "age" [.string "18446744073709551615", .string "x", .null],
      .compare "team_id" .ne (.string "18446744073709551615")]
    let q : FlatQuery := { params := [("age__in", .array [.word 3, .word 18]),
      ("age__lt", .word 48), ("is_deprecated", .bool false)] }
    let pairs := [("age__lt", "48"), ("is_deprecated", "false"), ("age__in", " 3,, 18")]
    let texts : KeyMap Json := [("age__in", .string " 3,, 18"), ("age__lt", .string "48"),
      ("is_deprecated", .string "false")]
    let c : Collection := ⟨"Hero", Sample.heroSchema, {}⟩
    (p.Retyped row p' ∧ p.holds row = p'.holds row) ∧
    (FlatQuery.ofPairs pairs = .ok { q with params := texts } ∧
      ∀ e ∈ texts, ∃ s, e.2 = .string s) ∧
    List.Forall₂ (Parameters.Retyped c.schema (Sample.store.HasRow c.schema.table))
      q.params texts ∧
    (c.list q none).runOn Sample.store =
      (c.list { q with params := texts } none).runOn Sample.store := by
  intro least greatest row p p' q pairs texts c
  have hleast : least.Spelled "-9223372036854775808" := .integer _
  have hgreatest : greatest.Spelled "18446744073709551615" := .integer _
  have hpredicate : p.Retyped row p' := by
    refine .or (.cons (.and (.cons ?_ (.cons ?_ .nil))) (.cons ?_ (.cons ?_ .nil)))
    · exact .compare "age" .ge (.text hleast rfl)
    · exact .oneOf "is_deprecated" (.cons (.text (.boolean false) rfl) .nil)
    · exact .noneOf "age" (.cons (.text hgreatest rfl) (.cons (.same _) (.cons (.same _) .nil)))
    · exact .compare "team_id" .ne (.text hgreatest rfl)
  have hpairs : FlatQuery.ofPairs pairs = .ok { q with params := texts } := by
    rfl
  have hparams : List.Forall₂ (Parameters.Retyped c.schema (Sample.store.HasRow c.schema.table))
      q.params texts := by
    have hmeets (field : String) (v : Json)
        (h : ∀ r ∈ Sample.store.rows "hero", (column r.columns field).meets v) :
        ∀ row, Sample.store.HasRow "hero" row → (column row field).meets v := by
      rintro _ ⟨r, hr, rfl⟩
      exact h r hr
    have hage : c.schema.field? "age" = some ⟨"age", .integer, false, false, none⟩ := rfl
    have hflag : c.schema.field? "is_deprecated" =
      some ⟨"is_deprecated", .boolean, false, false, none⟩ := rfl
    refine .cons (.list ?_) (.cons (.literal (.integer _) ?_)
      (.cons (.literal (.boolean _) ?_) .nil))
    · intro k f hk hf
      have hparse : FlatKey.parse c.schema "age__in" = .ok ⟨"age", .oneOf⟩ := rfl
      cases hparse.symm.trans hk
      cases hage.symm.trans hf
      have hitems : Text.items " 3,, 18" = ["3", "18"] := by decide +kernel
      rw [hitems]
      have hthree : (Json.word 3).Spelled "3" := .integer _
      have heighteen : (Json.word 18).Spelled "18" := .integer _
      refine ⟨.inl rfl, .cons ⟨hthree, by decide, ?_⟩ (.cons ⟨heighteen, by decide, ?_⟩ .nil)⟩
      · exact hmeets "age" _ (by decide +kernel)
      · exact hmeets "age" _ (by decide +kernel)
    · intro k f hk hf
      have hparse : FlatKey.parse c.schema "age__lt" = .ok ⟨"age", .lt⟩ := rfl
      cases hparse.symm.trans hk
      cases hage.symm.trans hf
      exact ⟨by decide, by decide, hmeets "age" _ (by decide +kernel)⟩
    · intro k f hk hf
      have hparse : FlatKey.parse c.schema "is_deprecated" = .ok ⟨"is_deprecated", .eq⟩ := rfl
      cases hparse.symm.trans hk
      cases hflag.symm.trans hf
      exact ⟨by decide, by decide, hmeets "is_deprecated" _ (by decide +kernel)⟩
  obtain ⟨hholds, htexts, hlist⟩ := texts_select_as_literals
  exact ⟨⟨hpredicate, hholds row p p' hpredicate⟩, ⟨hpairs, htexts pairs _ hpairs⟩, hparams,
    hlist c Sample.store q texts none hparams⟩

end RecordQuery
