import RecordQuery.Proofs.Sql.Precedence
import RecordQuery.Proofs.Sql.Renderings

/-!
# Groups and precedence

A predicate is a tree of conjunctions and disjunctions, and its SQL is a row of leaves,
connectives and parentheses. Read under SQL's precedence, the row has the truth value of the
tree, whatever the leaves are: with literals, with placeholders, and for the whole of a
statement's filter.
-/

namespace RecordQuery

-- ---------------------------------------------------------------------------
-- Trees of texts
-- ---------------------------------------------------------------------------

inductive Connective
  | all
  | any

namespace Connective

def join : Connective → List Bool → Bool
  | all, bs => bs.all id
  | any, bs => bs.any id

/-- What a group of nothing is written as. -/
def constant : Connective → String
  | all => "1=1"
  | any => "1=0"

def token : Connective → SqlToken
  | all => .and
  | any => .or

/-- What a group without its parentheses is read as. -/
def level : Connective → SqlLevel
  | all => .conjunction
  | any => .disjunction

theorem join_join (c : Connective) (a b : Bool) (bs : List Bool) :
    c.join (c.join [a, b] :: bs) = c.join (a :: b :: bs) := by
  cases c <;> simp [join, Bool.and_assoc, Bool.or_assoc]

end Connective

/-- A tree of groups over leaves that are texts. -/
inductive Formula
  | leaf (text : String)
  | group (c : Connective) (operands : List Formula)

namespace Formula

@[elab_as_elim, induction_eliminator]
theorem induct {motive : Formula → Prop} (leaf : ∀ s, motive (.leaf s))
    (group : ∀ c operands, (∀ f ∈ operands, motive f) → motive (.group c operands))
    (f : Formula) : motive f :=
  @Formula.rec motive (fun fs => ∀ f ∈ fs, motive f) leaf group (by simp)
    (fun _ _ hf hrest => List.forall_mem_cons.mpr ⟨hf, hrest⟩) f

mutual

/-- The truth value of the tree under those of its leaves. -/
def value (v : LeafTruth) : Formula → Bool
  | leaf s => v.of s
  | group c operands => c.join (values v operands)

def values (v : LeafTruth) : List Formula → List Bool
  | [] => []
  | f :: rest => value v f :: values v rest

end

mutual

/-- The leaves from left to right. A group of nothing has its constant for a leaf. -/
def leaves : Formula → List String
  | leaf s => [s]
  | group c [] => [c.constant]
  | group _ (f :: rest) => leaves f ++ leavesAll rest

def leavesAll : List Formula → List String
  | [] => []
  | f :: rest => leaves f ++ leavesAll rest

end

theorem mem_leavesAll {s : String} {fs : List Formula} :
    s ∈ leavesAll fs ↔ ∃ f ∈ fs, s ∈ f.leaves := by
  induction fs with
  | nil => simp [leavesAll]
  | cons f rest ih => simp [leavesAll, ih]

/-- The text can be taken apart into the leaves of the tree, connectives and parentheses, and
read; and however it is taken apart and read, it has the truth value of the tree. -/
structure ReadFrom (f : Formula) (v : LeafTruth) (text : String) : Prop where
  readable : ∃ ts, SqlToken.spelled ts = text ∧ SqlToken.leaves ts = f.leaves ∧
    ReadAs v .disjunction ts (f.value v)
  only : ∀ ts b, SqlToken.spelled ts = text → SqlToken.leaves ts = f.leaves →
    ReadAs v .disjunction ts b → b = f.value v

end Formula

-- ---------------------------------------------------------------------------
-- The row of a tree
-- ---------------------------------------------------------------------------

/-- The rows with the token between neighbours. -/
def SqlToken.between (t : SqlToken) : List (List SqlToken) → List SqlToken
  | [] => []
  | [ts] => ts
  | ts :: rest => ts ++ t :: between t rest

/-- The row of a group. One operand stands for itself, and none for a constant. -/
def SqlToken.grouped (c : Connective) : List (List SqlToken) → List SqlToken
  | [] => [.leaf c.constant]
  | [ts] => ts
  | tss => .opening :: (between c.token tss ++ [.closing])

namespace Formula

mutual

def tokens : Formula → List SqlToken
  | leaf s => [.leaf s]
  | group c operands => SqlToken.grouped c (tokensAll operands)

def tokensAll : List Formula → List (List SqlToken)
  | [] => []
  | f :: rest => tokens f :: tokensAll rest

end

theorem leaves_between (c : Connective) {fs : List Formula}
    (ih : ∀ f ∈ fs, SqlToken.leaves f.tokens = f.leaves) :
    SqlToken.leaves (SqlToken.between c.token (tokensAll fs)) = leavesAll fs := by
  have htoken (ts : List SqlToken) : SqlToken.leaves (c.token :: ts) = SqlToken.leaves ts := by
    cases c <;> rfl
  induction fs with
  | nil => rfl
  | cons f rest ihrest =>
    obtain ⟨hf, hrest⟩ := List.forall_mem_cons.mp ih
    cases rest with
    | nil => simpa [tokensAll, SqlToken.between, leavesAll] using hf
    | cons g rest =>
      show SqlToken.leaves (f.tokens ++ c.token :: SqlToken.between _ (tokensAll (g :: rest))) = _
      rw [SqlToken.leaves_append, htoken, hf, ihrest hrest]
      rfl

theorem leaves_tokens (f : Formula) : SqlToken.leaves f.tokens = f.leaves := by
  induction f with
  | leaf s => rfl
  | group c operands ih =>
    match operands with
    | [] => rfl
    | [f] => simpa [tokens, tokensAll, SqlToken.grouped, leaves, leavesAll] using ih
    | f :: g :: rest =>
      have hbetween := leaves_between c ih
      show SqlToken.leaves (SqlToken.between _ (tokensAll (f :: g :: rest)) ++ [.closing]) = _
      rw [SqlToken.leaves_append, hbetween]
      exact List.append_nil _

end Formula

-- ---------------------------------------------------------------------------
-- Reading the row
-- ---------------------------------------------------------------------------

namespace ReadAs

variable {v : LeafTruth} {c : Connective} {ts us : List SqlToken} {a b : Bool}

theorem of_operand (h : ReadAs v .operand ts b) : ReadAs v c.level ts b := by
  cases c with
  | all => exact .operand h
  | any => exact .conjunction (.operand h)

theorem disjunction (h : ReadAs v c.level ts b) : ReadAs v .disjunction ts b := by
  cases c with
  | all => exact .conjunction h
  | any => exact h

theorem join (ht : ReadAs v c.level ts a) (hu : ReadAs v .operand us b) :
    ReadAs v c.level (ts ++ c.token :: us) (c.join [a, b]) := by
  cases c with
  | all =>
    have hjoin : Connective.all.join [a, b] = (a && b) := by simp [Connective.join]
    rw [hjoin]
    exact .and ht hu
  | any =>
    have hjoin : Connective.any.join [a, b] = (a || b) := by simp [Connective.join]
    rw [hjoin]
    exact .or ht (.operand hu)

/-- What has been read of a group is the left operand of the next connective, so the induction
is on the operands that follow. -/
theorem join_between {f : Formula} {rest : List Formula} (h : ReadAs v c.level ts b)
    (ih : ∀ g ∈ f :: rest, ReadAs v .operand g.tokens (g.value v)) :
    ReadAs v c.level (ts ++ c.token :: SqlToken.between c.token (Formula.tokensAll (f :: rest)))
      (c.join (b :: Formula.values v (f :: rest))) := by
  induction rest generalizing ts b f with
  | nil => exact h.join (ih f List.mem_cons_self)
  | cons g rest ihrest =>
    obtain ⟨hf, hrest⟩ := List.forall_mem_cons.mp ih
    have hread := ihrest (h.join hf) hrest
    rw [List.append_assoc, List.cons_append, Connective.join_join] at hread
    exact hread

end ReadAs

namespace Formula

/-- The row of a tree is one operand with the truth value of the tree. -/
theorem readAs_tokens (v : LeafTruth) (f : Formula) : ReadAs v .operand f.tokens (f.value v) := by
  induction f with
  | leaf s => exact .leaf s
  | group c operands ih =>
    match operands with
    | [] =>
      have hconstant : (group c []).value v = v.of c.constant := by
        cases c with
        | all => exact v.always.symm
        | any => exact v.never.symm
      rw [hconstant]
      exact .leaf c.constant
    | [f] =>
      have hsingle : (group c [f]).value v = f.value v := by
        cases c <;> simp [value, values, Connective.join]
      rw [hsingle]
      exact ih f List.mem_cons_self
    | f :: g :: rest =>
      obtain ⟨hf, hrest⟩ := List.forall_mem_cons.mp ih
      have hgroup := ReadAs.join_between (c := c) (.of_operand hf) hrest
      exact .parenthesized (.disjunction hgroup)

/-- The row of a tree is the only way to take its text apart. -/
theorem readFrom_spelled {f : Formula} (h : ∀ s ∈ f.leaves, SqlToken.Solid s) (v : LeafTruth) :
    f.ReadFrom v (SqlToken.spelled f.tokens) := by
  have hrow : ReadAs v .disjunction f.tokens (f.value v) :=
    .conjunction (.operand (f.readAs_tokens v))
  refine ⟨⟨f.tokens, rfl, f.leaves_tokens, hrow⟩, ?_⟩
  intro ts b hspelled hleaves hread
  have hsolid : ∀ s ∈ SqlToken.leaves ts, SqlToken.Solid s := by rwa [hleaves]
  obtain rfl : ts = f.tokens := SqlToken.eq_of_spelled_eq hread.alternates hrow.alternates
    (hleaves.trans f.leaves_tokens.symm) hsolid hspelled
  exact hread.unique hrow

end Formula

-- ---------------------------------------------------------------------------
-- Renderings
-- ---------------------------------------------------------------------------

/-- A way to write templates piece by piece. What is written can depend on the number of
values before it, and text is written as it is. -/
structure Rendering where
  text : Nat → Template → String
  nil : ∀ n, text n [] = ""
  raw : ∀ n s, text n [.raw s] = s
  append : ∀ n t u, text n (t ++ u) = text n t ++ text (n + t.fillings.length) u

namespace Rendering

/-- With literals for the values. -/
def literals : Rendering where
  text _ t := t.text
  nil _ := rfl
  raw _ s := by simp [Template.text, Piece.text]
  append _ t u := t.text_append u

/-- The text that a template adds to a query with `n` arguments. -/
def boundText (schema : Schema) (n : Nat) (t : Template) : String :=
  t.outline.fill (placeholders (n + 1) (t.fillings.map (Filling.cast schema)))

theorem text_bind (schema : Schema) (t : Template) (q : BoundSql) :
    (t.bind schema q).text = q.text ++ boundText schema q.arguments.length t := by
  rw [Template.bind_eq_fill, boundText]

theorem boundText_append (schema : Schema) (n : Nat) (t u : Template) :
    boundText schema n (t ++ u) =
      boundText schema n t ++ boundText schema (n + t.fillings.length) u := by
  -- any query with `n` arguments will do
  let q : BoundSql := ⟨"", List.replicate n (.bool true)⟩
  have harguments : (t.bind schema q).arguments.length = n + t.fillings.length := by
    simp [Template.bind_eq_fill, q]
  have htext := congrArg BoundSql.text (Template.bind_append schema t u q)
  rw [text_bind, text_bind, text_bind, harguments, String.append_assoc] at htext
  simpa [q] using htext

/-- With placeholders for the values. -/
def placed (schema : Schema) : Rendering where
  text := boundText schema
  nil _ := rfl
  raw _ s := by simp [boundText, Template.outline, Piece.outline, Outline.fill]
  append := boundText_append schema

theorem text_raw_cons (r : Rendering) (n : Nat) (s : String) (t : Template) :
    r.text n (.raw s :: t) = s ++ r.text n t := by
  have happend := r.append n [.raw s] t
  rw [r.raw] at happend
  exact happend

theorem text_parenthesized (r : Rendering) (n : Nat) (t : Template) :
    r.text n (.raw "(" :: (t ++ [.raw ")"])) = "(" ++ (r.text n t ++ ")") := by
  rw [text_raw_cons, r.append, r.raw]

end Rendering

-- ---------------------------------------------------------------------------
-- Predicates
-- ---------------------------------------------------------------------------

/-- How a predicate is written after `n` values. -/
def Rendering.predicate (r : Rendering) (n : Nat) (p : Predicate) : String :=
  r.text n p.condition.template

theorem Rendering.predicate_literals (n : Nat) (p : Predicate) :
    literals.predicate n p = p.sql := p.text_condition

theorem Rendering.predicate_placed (schema : Schema) (p : Predicate) (q : BoundSql) :
    (p.bind schema q).text = q.text ++ (placed schema).predicate q.arguments.length p := by
  rw [← p.bind_condition]
  exact text_bind schema _ q

namespace Predicate

mutual

/-- The tree of a predicate that is written after `n` values. -/
def formula (r : Rendering) : Predicate → Nat → Formula
  | .and operands, n => .group .all (formulas r operands n)
  | .or operands, n => .group .any (formulas r operands n)
  | p, n => .leaf (r.predicate n p)

def formulas (r : Rendering) : List Predicate → Nat → List Formula
  | [], _ => []
  | p :: rest, n => formula r p n :: formulas r rest (n + p.fillings.length)

end

theorem mem_formulas {r : Rendering} {f : Formula} {ps : List Predicate} {n : Nat}
    (h : f ∈ formulas r ps n) : ∃ p ∈ ps, ∃ k, f = p.formula r k := by
  induction ps generalizing n with
  | nil => cases h
  | cons p rest ih =>
    rcases List.mem_cons.mp h with rfl | h
    · exact ⟨p, List.mem_cons_self, n, rfl⟩
    · obtain ⟨q, hq, k, rfl⟩ := ih h
      exact ⟨q, List.mem_cons_of_mem _ hq, k, rfl⟩

section
variable (r : Rendering)

theorem spelled_between (c : Connective) {ps : List Predicate}
    (ih : ∀ p ∈ ps, ∀ n, SqlToken.spelled (p.formula r n).tokens = r.predicate n p) (n : Nat) :
    SqlToken.spelled (SqlToken.between c.token (Formula.tokensAll (formulas r ps n))) =
      r.text n (Template.between c.token.text (ps.map fun p => p.condition.template)) := by
  induction ps generalizing n with
  | nil => exact (r.nil n).symm
  | cons p rest ihrest =>
    obtain ⟨hp, hrest⟩ := List.forall_mem_cons.mp ih
    cases rest with
    | nil => exact hp n
    | cons q rest =>
      show SqlToken.spelled ((p.formula r n).tokens ++ c.token :: SqlToken.between _
          (Formula.tokensAll (formulas r (q :: rest) (n + p.fillings.length)))) =
        r.text n (p.condition.template ++ .raw c.token.text :: Template.between _
          ((q :: rest).map fun p => p.condition.template))
      rw [SqlToken.spelled_append, hp, SqlToken.spelled, ihrest hrest, r.append, r.text_raw_cons,
        fillings_condition]
      rfl

theorem spelled_group (c : Connective) {join : List SqlCondition → SqlCondition} {empty : Bool}
    {ps : List Predicate}
    (hjoin : ∀ cs, (join cs).template = .raw "(" ::
      (Template.between c.token.text (cs.map SqlCondition.template) ++ [.raw ")"]))
    (hempty : (SqlCondition.constant empty).template = [.raw c.constant])
    (ih : ∀ p ∈ ps, ∀ n, SqlToken.spelled (p.formula r n).tokens = r.predicate n p) (n : Nat) :
    SqlToken.spelled (Formula.group c (formulas r ps n)).tokens =
      r.text n (grouped join empty (ps.map condition)).template := by
  match ps with
  | [] =>
    show c.constant ++ "" = r.text n (SqlCondition.constant empty).template
    rw [hempty, r.raw, String.append_empty]
  | [p] => exact ih p List.mem_cons_self n
  | p :: q :: rest =>
    show "(" ++ SqlToken.spelled (SqlToken.between c.token
      (Formula.tokensAll (formulas r (p :: q :: rest) n)) ++ [.closing]) =
        r.text n (join ((p :: q :: rest).map condition)).template
    rw [SqlToken.spelled_append, spelled_between r c ih n, hjoin, List.map_map,
      r.text_parenthesized]
    rfl

/-- The row of a predicate's tree makes up the predicate's SQL. -/
theorem spelled_formula (p : Predicate) (n : Nat) :
    SqlToken.spelled (p.formula r n).tokens = r.predicate n p := by
  induction p generalizing n with
  | and operands ih =>
    rw [formula, Rendering.predicate, condition, conditions_eq]
    exact spelled_group r .all SqlCondition.template_and rfl ih n
  | or operands ih =>
    rw [formula, Rendering.predicate, condition, conditions_eq]
    exact spelled_group r .any SqlCondition.template_or rfl ih n
  | _ => exact String.append_empty

/-- The text in front of a template shows in how it is written. -/
theorem solid_text {t : Template} {s : String} (n : Nat) (hs : SqlToken.Solid s) :
    SqlToken.Solid (r.text n (.raw s :: t)) := by
  rw [r.text_raw_cons]
  exact hs.append_right _

theorem solid_constant (c : Connective) : SqlToken.Solid c.constant := by
  cases c <;> exact ⟨'1', by decide, by decide⟩

/-- A leaf has more in front than opening parentheses. -/
theorem solid_leaf {p : Predicate} (hand : ∀ ps, p ≠ .and ps) (hor : ∀ ps, p ≠ .or ps) (n : Nat) :
    SqlToken.Solid (r.predicate n p) := by
  have hname (field : String) {rest : String} (h : ' ' ∈ rest.toList) :
      SqlToken.Solid (field ++ rest) := .append_left field ⟨' ', h, by decide⟩
  unfold Rendering.predicate
  cases p with
  | compare field op value =>
    unfold condition
    split
    · cases op with
      | eq => exact solid_text r n (hname field (by decide))
      | ne => exact solid_text r n (hname field (by decide))
      | _ => exact solid_text r n (solid_constant .any)
    · rw [SqlCondition.template, String.append_assoc, String.append_assoc]
      exact solid_text r n (hname field (by simp))
  | oneOf field values =>
    unfold condition
    split
    · exact solid_text r n (solid_constant .any)
    · exact solid_text r n (hname field (by decide))
  | noneOf field values =>
    unfold condition
    split
    · exact solid_text r n (solid_constant .all)
    · exact solid_text r n ⟨'N', by decide, by decide⟩
  | holdsText field text => exact solid_text r n (hname field (by decide))
  | like field pattern => exact solid_text r n (hname field (by decide))
  | and ps => exact absurd rfl (hand ps)
  | or ps => exact absurd rfl (hor ps)

theorem solid_group (c : Connective) {ps : List Predicate}
    (ih : ∀ p ∈ ps, ∀ n, ∀ s ∈ (p.formula r n).leaves, SqlToken.Solid s) (n : Nat) :
    ∀ s ∈ (Formula.group c (formulas r ps n)).leaves, SqlToken.Solid s := by
  intro s hs
  match ps with
  | [] =>
    obtain rfl := List.mem_singleton.mp hs
    exact solid_constant c
  | p :: rest =>
    have hs : s ∈ Formula.leavesAll (formulas r (p :: rest) n) := hs
    obtain ⟨f, hf, hs⟩ := Formula.mem_leavesAll.mp hs
    obtain ⟨q, hq, k, rfl⟩ := mem_formulas hf
    exact ih q hq k s hs

theorem solid_formula (p : Predicate) (n : Nat) :
    ∀ s ∈ (p.formula r n).leaves, SqlToken.Solid s := by
  induction p generalizing n with
  | and operands ih => exact solid_group r .all ih n
  | or operands ih => exact solid_group r .any ih n
  | _ => exact List.forall_mem_singleton.mpr (solid_leaf r (by simp) (by simp) n)

/-- A predicate's SQL, wherever it stands, is read as the predicate's tree. -/
theorem formula_readFrom (v : LeafTruth) (p : Predicate) (n : Nat) :
    (p.formula r n).ReadFrom v (r.predicate n p) := by
  rw [← spelled_formula]
  exact Formula.readFrom_spelled (solid_formula r p n) v

end

end Predicate

-- ---------------------------------------------------------------------------
-- Statements
-- ---------------------------------------------------------------------------

namespace Statement

/-- The tree of a statement's filter. -/
def formula (s : Statement) (r : Rendering) : Formula :=
  .group .all (Predicate.formulas r s.predicates 0)

/-- The filter of a statement in its place; there is none without predicates. -/
def whereText (s : Statement) (filter : String) : String :=
  if s.predicates.isEmpty then "" else " WHERE " ++ filter

theorem text_filterTemplate_eq (s : Statement) (r : Rendering) :
    r.text 0 s.filterTemplate =
      s.whereText (r.predicate 0 (Predicate.conjunction s.predicates)) := by
  unfold filterTemplate whereText
  rw [predicate_eq]
  cases s.predicates with
  | nil => exact r.nil 0
  | cons p ps => exact r.text_raw_cons 0 " WHERE " _

theorem formula_readFrom (s : Statement) (r : Rendering) (v : LeafTruth) :
    (s.formula r).ReadFrom v (r.predicate 0 (Predicate.conjunction s.predicates)) := by
  have hspelled : SqlToken.spelled (s.formula r).tokens =
      r.predicate 0 (Predicate.conjunction s.predicates) := by
    unfold formula
    match s.predicates with
    | [] => exact (Predicate.and []).spelled_formula r 0
    | [p] => exact p.spelled_formula r 0
    | p :: q :: rest => exact (Predicate.and (p :: q :: rest)).spelled_formula r 0
  rw [← hspelled]
  exact Formula.readFrom_spelled
    (Predicate.solid_group r .all (fun p _ n => p.solid_formula r n) 0) v

/-- A predicate is written as its tree, with literals and with placeholders, wherever it
stands. So is the filter of a statement in its text, in its row query and in its count query;
its tree is the conjunction of the statement's predicates. -/
theorem renderings_readFrom (schema : Schema) (v : LeafTruth) :
    (∀ (r : Rendering) (p : Predicate) (n : Nat), (p.formula r n).ReadFrom v (r.predicate n p)) ∧
    (∀ (p : Predicate) (n : Nat), Rendering.literals.predicate n p = p.sql) ∧
    (∀ (p : Predicate) (q : BoundSql), (p.bind schema q).text =
      q.text ++ (Rendering.placed schema).predicate q.arguments.length p) ∧
    ∀ s : Statement, ∃ written sent,
      (s.formula .literals).ReadFrom v written ∧ (s.formula (.placed schema)).ReadFrom v sent ∧
      s.sql = "SELECT " ++ s.selectList ++ " FROM " ++ s.table ++ s.whereText written ++
        s.orderSql ++ (s.window.map Window.sql).getD "" ∧
      (s.rowQuery schema).text = "SELECT " ++ s.recordSql ++ " AS record FROM " ++ s.table ++
        s.whereText sent ++ s.orderSql ++ s.windowText s.fillings.length ∧
      (s.countQuery schema).text = "SELECT COUNT(*) FROM " ++ s.table ++ s.whereText sent := by
  refine ⟨fun r p n => p.formula_readFrom r v n, fun p n => Rendering.predicate_literals n p,
    fun p q => Rendering.predicate_placed schema p q, fun s => ?_⟩
  have hliteral : s.filterTemplate.outline.fill (s.fillings.map Filling.literal) =
      Rendering.literals.text 0 s.filterTemplate := by
    rw [← fillings_filterTemplate]
    exact s.filterTemplate.text_eq_fill.symm
  have hplaced : s.filterTemplate.outline.fill
      (placeholders 1 (s.fillings.map (Filling.cast schema))) =
        (Rendering.placed schema).text 0 s.filterTemplate := by
    rw [← fillings_filterTemplate]
    rfl
  refine ⟨_, _, s.formula_readFrom .literals v, s.formula_readFrom (.placed schema) v, ?_, ?_, ?_⟩
  · rw [sql_eq, hliteral, text_filterTemplate_eq]
  · rw [rowQuery_eq, hplaced, text_filterTemplate_eq]
  · rw [countQuery_eq, hplaced, text_filterTemplate_eq]

/-- Disjunctions within a conjunction, one of them of a single operand. With literals the first
leaf alone is true, and the whole would be true with it if `OR` bound tighter or a pair of
parentheses were missing; with placeholders a leaf on either side is. -/
theorem renderings_readFrom_nested :
    let named (name : String) : Predicate := .compare "name" .eq (.string name)
    let p : Predicate := .and [.or [named "a", named "b"], .or [.and [named "c", .and []]]]
    let s : Statement := { table := "hero", predicates := [p, named "d"] }
    let first := LeafTruth.among ["name = 'a'"]
    let either := LeafTruth.among ["name = $2", "name = $3"]
    (p.formula .literals 0).ReadFrom first
        "((name = 'a' OR name = 'b') AND (name = 'c' AND 1=1))" ∧
      (p.formula .literals 0).value first = false ∧
      (p.formula (.placed Sample.heroSchema) 0).ReadFrom either
        "((name = $1 OR name = $2) AND (name = $3 AND 1=1))" ∧
      (p.formula (.placed Sample.heroSchema) 0).value either = true ∧
      ∃ filter, (s.formula (.placed Sample.heroSchema)).ReadFrom either filter ∧
        (s.formula (.placed Sample.heroSchema)).value either = false ∧
        (s.countQuery Sample.heroSchema).text = "SELECT COUNT(*) FROM hero WHERE " ++ filter := by
  intro named p s first either
  have hwritten : Rendering.literals.predicate 0 p =
      "((name = 'a' OR name = 'b') AND (name = 'c' AND 1=1))" := by decide
  have hsent : (Rendering.placed Sample.heroSchema).predicate 0 p =
      "((name = $1 OR name = $2) AND (name = $3 AND 1=1))" := by decide
  obtain ⟨hliterals, -⟩ := renderings_readFrom Sample.heroSchema first
  obtain ⟨hplaced, -, -, hstatements⟩ := renderings_readFrom Sample.heroSchema either
  obtain ⟨_, filter, -, hfilter, -, -, hcount⟩ := hstatements s
  refine ⟨hwritten ▸ hliterals _ p 0, by decide, hsent ▸ hplaced _ p 0, by decide, filter,
    hfilter, by decide, ?_⟩
  rw [hcount, whereText]
  simp [s, ← String.append_assoc]

/-- Groups of one operand have no parentheses, and need none within a group of another kind. -/
example :
    let named (name : String) : Predicate := .compare "name" .eq (.string name)
    let p : Predicate := .and [.or [.and [named "a", .or []]], .or [named "b", .and [named "c"]]]
    p.sql = "((name = 'a' AND 1=0) AND (name = 'b' OR name = 'c'))" ∧
      (p.formula .literals 0).leaves = ["name = 'a'", "1=0", "name = 'b'", "name = 'c'"] := by
  decide

end Statement

end RecordQuery
