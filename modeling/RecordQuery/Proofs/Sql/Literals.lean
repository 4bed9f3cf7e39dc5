import RecordQuery.Proofs.Sql.Lexemes
import RecordQuery.Proofs.Sql.Renderings

/-!
# Texts in their literals

The text of a predicate is read with the strings, patterns and JSON texts of the predicate for
literals, whatever characters they have, and around them there is nothing that depends on
these texts.
-/

namespace RecordQuery

-- ---------------------------------------------------------------------------
-- Groups of templates
-- ---------------------------------------------------------------------------

/-- The operands of a group in parentheses; one stands for itself, and none for a constant. -/
def Template.grouped (connective none : String) : List Template → Template
  | [] => [.raw none]
  | [t] => t
  | ts => .raw "(" :: (between connective ts ++ [.raw ")"])

theorem Template.Sealed.grouped {connective none : String} {ts : List Template}
    (hconnective : Unquoted connective) (hne : connective ≠ "") (hnone : Unquoted none)
    (hts : ∀ t ∈ ts, t.Sealed) : (Template.grouped connective none ts).Sealed := by
  match ts with
  | [] => exact .raw hnone .nil
  | [t] => exact hts t List.mem_cons_self
  | t :: u :: rest =>
    exact (between hconnective hne hts).enclosed (by decide) (by decide) (by decide)

namespace Predicate

theorem template_grouped {connective none : String}
    {join : List SqlCondition → SqlCondition} {empty : Bool} (ps : List Predicate)
    (hjoin : ∀ cs, (join cs).template =
      .raw "(" :: (Template.between connective (cs.map SqlCondition.template) ++ [.raw ")"]))
    (hempty : (SqlCondition.constant empty).template = [.raw none]) :
    (grouped join empty (ps.map condition)).template =
      Template.grouped connective none (ps.map fun p => p.condition.template) := by
  match ps with
  | [] => exact hempty
  | [p] => rfl
  | p :: q :: rest =>
    show (join ((p :: q :: rest).map condition)).template = _
    rw [hjoin, List.map_map]
    rfl

theorem template_condition_and (ps : List Predicate) :
    (Predicate.and ps).condition.template =
      Template.grouped " AND " "1=1" (ps.map fun p => p.condition.template) := by
  rw [condition, conditions_eq]
  exact template_grouped ps SqlCondition.template_and rfl

theorem template_condition_or (ps : List Predicate) :
    (Predicate.or ps).condition.template =
      Template.grouped " OR " "1=0" (ps.map fun p => p.condition.template) := by
  rw [condition, conditions_eq]
  exact template_grouped ps SqlCondition.template_or rfl

end Predicate

-- ---------------------------------------------------------------------------
-- Texts of a predicate
-- ---------------------------------------------------------------------------

def Filling.literalText? : Filling → Option String
  | value _ v => v.literalText?
  | pattern s => some s
  | quoted s => some (Json.quoted s)

theorem Piece.literalText?_of_filling? (piece : Piece) :
    piece.filling?.bind Filling.literalText? = piece.literalText? := by
  cases piece with
  | value field v => cases v <;> rfl
  | _ => rfl

/-- The literals of a template are those of the values that belong in its holes. -/
theorem Template.filterMap_lexemes (t : Template) :
    t.lexemes.filterMap Lexeme.literal? = t.fillings.filterMap Filling.literalText? := by
  rw [fillings, List.filterMap_filterMap]
  simp only [Piece.literalText?_of_filling?]
  induction t with
  | nil => rfl
  | cons piece rest ih =>
    rw [lexemes_cons, List.filterMap_append, ih, Piece.filterMap_lexemes, List.filterMap_cons]
    cases piece.literalText? <;> rfl

namespace Predicate

/-- The strings, patterns and JSON texts of a predicate, from left to right. -/
def texts (p : Predicate) : List String := p.fillings.filterMap Filling.literalText?

mutual

def fieldNames : Predicate → List String
  | .compare field _ _ => [field]
  | .oneOf field _ => [field]
  | .noneOf field _ => [field]
  | .holdsText field _ => [field]
  | .like field _ => [field]
  | .and operands => fieldNamesAll operands
  | .or operands => fieldNamesAll operands

def fieldNamesAll : List Predicate → List String
  | [] => []
  | p :: rest => fieldNames p ++ fieldNamesAll rest

end

theorem fieldNamesAll_eq (ps : List Predicate) : fieldNamesAll ps = ps.flatMap fieldNames := by
  induction ps with
  | nil => rfl
  | cons p rest ih => rw [fieldNamesAll, ih, List.flatMap_cons]

theorem sealed_nullTest {field : String} (h : Unquoted field) (op : Comparison) :
    (nullTest field op).template.Sealed := by
  cases op with
  | eq => exact .raw (h.append (by decide)) .nil
  | ne => exact .raw (h.append (by decide)) .nil
  | _ => exact .raw (by decide) .nil

theorem sealed_inList {field : String} (h : Unquoted field) (values : List Json) :
    (SqlCondition.inList field values).template.Sealed := by
  have hvalues : ∀ t ∈ values.map fun v => [Piece.value field v], Template.Sealed t :=
    List.forall_mem_map.mpr fun v _ => .value field v
  exact (Template.Sealed.between (by decide) (by decide) hvalues).enclosed
    (h.append (by decide)) (by decide) (by decide)

/-- The text of a predicate has quotes in its literals alone when no field name has one. -/
theorem sealed_condition {p : Predicate} (h : ∀ field ∈ p.fieldNames, Unquoted field) :
    p.condition.template.Sealed := by
  induction p with
  | compare field op value =>
    have hfield := h field (List.mem_singleton_self _)
    have hop : Unquoted op.sql := by cases op <;> decide
    unfold condition
    split
    · exact sealed_nullTest hfield op
    · exact .raw (((hfield.append (by decide)).append hop).append (by decide)) (.value field value)
  | oneOf field values =>
    unfold condition
    split
    · exact .raw (by decide) .nil
    · exact sealed_inList (h field (List.mem_singleton_self _)) values
  | noneOf field values =>
    unfold condition
    split
    · exact .raw (by decide) .nil
    · exact (sealed_inList (h field (List.mem_singleton_self _)) values).enclosed (by decide)
        (by decide) (by decide)
  | holdsText field text =>
    have hfield := h field (List.mem_singleton_self _)
    refine .raw (hfield.append (by decide)) (.literal rfl ?_ (.raw (by decide) .nil))
    exact Unquoted.head_append (by decide) (by decide) ""
  | like field pattern =>
    have hfield := h field (List.mem_singleton_self _)
    exact .raw (hfield.append (by decide)) (.literal rfl (by decide) .nil)
  | and operands ih =>
    rw [fieldNames, fieldNamesAll_eq] at h
    rw [template_condition_and]
    refine .grouped (by decide) (by decide) (by decide) (List.forall_mem_map.mpr fun p hp => ?_)
    exact ih p hp fun field hfield => h field (List.mem_flatMap_of_mem hp hfield)
  | or operands ih =>
    rw [fieldNames, fieldNamesAll_eq] at h
    rw [template_condition_or]
    refine .grouped (by decide) (by decide) (by decide) (List.forall_mem_map.mpr fun p hp => ?_)
    exact ih p hp fun field hfield => h field (List.mem_flatMap_of_mem hp hfield)

/-- What the text of a predicate is read as. -/
theorem read_sql {p : Predicate} (h : ∀ field ∈ p.fieldNames, Unquoted field) :
    Lexeme.read p.sql.toList = some p.condition.template.lexemes ∧
      p.condition.template.lexemes.filterMap Lexeme.literal? = p.texts := by
  constructor
  · rw [← text_condition]
    exact (sealed_condition h).read
  · rw [Template.filterMap_lexemes, fillings_condition, texts]

end Predicate

-- ---------------------------------------------------------------------------
-- Emptied texts
-- ---------------------------------------------------------------------------

/-- What is written as a literal becomes the empty text. -/
def Json.emptied : Json → Json
  | .string _ => .string ""
  | .array _ => .string ""
  | .object _ => .string ""
  | v => v

theorem Json.isNull_emptied (v : Json) : v.emptied.isNull = v.isNull := by
  cases v <;> rfl

def Piece.emptied : Piece → Piece
  | .raw s => .raw s
  | .value field v => .value field v.emptied
  | .pattern _ => .pattern ""
  | .quoted _ => .quoted ""

theorem Piece.lexemes_emptied (piece : Piece) :
    piece.emptied.lexemes.map Lexeme.emptied = piece.lexemes.map Lexeme.emptied := by
  cases piece with
  | value field v => cases v <;> rfl
  | _ => rfl

namespace Template

theorem lexemes_emptied (t : Template) :
    (lexemes (t.map Piece.emptied)).map Lexeme.emptied = t.lexemes.map Lexeme.emptied := by
  induction t with
  | nil => rfl
  | cons piece rest ih =>
    rw [List.map_cons, lexemes_cons, lexemes_cons, List.map_append, List.map_append, ih,
      Piece.lexemes_emptied]

theorem between_emptied (separator : String) (ts : List Template) :
    between separator (ts.map (List.map Piece.emptied)) =
      (between separator ts).map Piece.emptied := by
  induction ts with
  | nil => rfl
  | cons t rest ih =>
    cases rest with
    | nil => rfl
    | cons u rest =>
      simp only [List.map_cons, between, List.map_append] at ih ⊢
      rw [ih]
      rfl

theorem emptied_enclosed (opening closing : String) (t : Template) :
    (Piece.raw opening :: (t ++ [.raw closing])).map Piece.emptied =
      .raw opening :: (t.map Piece.emptied ++ [.raw closing]) := by
  rw [List.map_cons, List.map_append]
  rfl

theorem grouped_emptied (connective none : String) (ts : List Template) :
    grouped connective none (ts.map (List.map Piece.emptied)) =
      (grouped connective none ts).map Piece.emptied := by
  match ts with
  | [] => rfl
  | [t] => rfl
  | t :: u :: rest =>
    show Piece.raw "(" :: (between connective ((t :: u :: rest).map (List.map Piece.emptied)) ++
      [.raw ")"]) = (Piece.raw "(" :: (between connective (t :: u :: rest) ++ [.raw ")"])).map
        Piece.emptied
    rw [between_emptied, emptied_enclosed]

end Template

namespace Predicate

mutual

/-- The predicate with every string, pattern, list and object in it emptied. -/
def emptied : Predicate → Predicate
  | .compare field op value => .compare field op value.emptied
  | .oneOf field values => .oneOf field (values.map Json.emptied)
  | .noneOf field values => .noneOf field (values.map Json.emptied)
  | .holdsText field _ => .holdsText field ""
  | .like field _ => .like field ""
  | .and operands => .and (emptiedAll operands)
  | .or operands => .or (emptiedAll operands)

def emptiedAll : List Predicate → List Predicate
  | [] => []
  | p :: rest => emptied p :: emptiedAll rest

end

theorem emptiedAll_eq (ps : List Predicate) : emptiedAll ps = ps.map emptied := by
  induction ps with
  | nil => rfl
  | cons p rest ih => rw [emptiedAll, ih, List.map_cons]

theorem fieldNames_emptied (p : Predicate) : p.emptied.fieldNames = p.fieldNames := by
  have hall {ps : List Predicate} (ih : ∀ p ∈ ps, p.emptied.fieldNames = p.fieldNames) :
      fieldNamesAll (emptiedAll ps) = fieldNamesAll ps := by
    rw [fieldNamesAll_eq, fieldNamesAll_eq, emptiedAll_eq, List.flatMap_map, List.flatMap_def,
      List.flatMap_def]
    exact congrArg List.flatten (List.map_congr_left ih)
  induction p with
  | and operands ih => exact hall ih
  | or operands ih => exact hall ih
  | _ => rfl

theorem template_inList_emptied (field : String) (values : List Json) :
    (SqlCondition.inList field (values.map Json.emptied)).template =
      (SqlCondition.inList field values).template.map Piece.emptied := by
  have hvalues : (values.map Json.emptied).map (fun v => [Piece.value field v]) =
      (values.map fun v => [Piece.value field v]).map (List.map Piece.emptied) := by
    rw [List.map_map, List.map_map]
    rfl
  rw [SqlCondition.template, hvalues, Template.between_emptied, SqlCondition.template,
    Template.emptied_enclosed]

theorem template_emptied (p : Predicate) :
    p.emptied.condition.template = p.condition.template.map Piece.emptied := by
  induction p with
  | compare field op value =>
    rw [emptied, condition, condition, Json.isNull_emptied]
    split
    · cases op <;> rfl
    · rfl
  | oneOf field values =>
    rw [emptied, condition, condition, List.isEmpty_map]
    split
    · rfl
    · exact template_inList_emptied field values
  | noneOf field values =>
    rw [emptied, condition, condition, List.isEmpty_map]
    split
    · rfl
    · have hnot (c : SqlCondition) :
          c.not.template = .raw "NOT (" :: (c.template ++ [.raw ")"]) := by
        rw [SqlCondition.template]
      rw [hnot, hnot, template_inList_emptied, Template.emptied_enclosed]
  | holdsText field text => rfl
  | like field pattern => rfl
  | and operands ih =>
    rw [emptied, template_condition_and, template_condition_and, emptiedAll_eq,
      ← Template.grouped_emptied, List.map_map, List.map_map]
    exact congrArg _ (List.map_congr_left ih)
  | or operands ih =>
    rw [emptied, template_condition_or, template_condition_or, emptiedAll_eq,
      ← Template.grouped_emptied, List.map_map, List.map_map]
    exact congrArg _ (List.map_congr_left ih)

/-- Predicates that are the same but for the texts in them have the same text around the
literals. -/
theorem lexemes_of_emptied {p q : Predicate} (h : q.emptied = p.emptied) :
    q.condition.template.lexemes.map Lexeme.emptied =
      p.condition.template.lexemes.map Lexeme.emptied := by
  rw [← Template.lexemes_emptied, ← template_emptied, h, template_emptied,
    Template.lexemes_emptied]

/-- No text breaks out of its literal: the text of a predicate is read with its texts as the
literals, in their order, and what is around them is the same for all predicates that differ
from it in such texts alone. -/
theorem literals_contain_texts (p : Predicate) (h : ∀ field ∈ p.fieldNames, '\'' ∉ field.toList) :
    ∃ lexemes, Lexeme.read p.sql.toList = some lexemes ∧
      lexemes.filterMap Lexeme.literal? = p.texts ∧
      ∀ q : Predicate, q.emptied = p.emptied →
        ∃ others, Lexeme.read q.sql.toList = some others ∧
          others.filterMap Lexeme.literal? = q.texts ∧
          others.map Lexeme.emptied = lexemes.map Lexeme.emptied := by
  obtain ⟨hread, htexts⟩ := read_sql h
  refine ⟨_, hread, htexts, fun q hq => ?_⟩
  have hfields : q.fieldNames = p.fieldNames := by
    rw [← fieldNames_emptied q, hq, fieldNames_emptied]
  obtain ⟨hread', htexts'⟩ := read_sql (p := q) (hfields ▸ h)
  exact ⟨_, hread', htexts', lexemes_of_emptied hq⟩

/-- Quotes at the ends of texts, in rows, in front of connectives and within JSON text. -/
theorem literals_contain_texts_hostile :
    let query (name first second pet pattern city : String) : Predicate :=
      .and [.compare "name" .eq (.string name), .oneOf "name" [.string first, .string second],
        .or [.holdsText "pets" pet, .like "name" pattern],
        .compare "address_info" .eq (.object [("city", .string city)]),
        .compare "age" .ge (.int 18)]
    let hostile := query "' OR '1'='1" "''" "'" "it's" "%'" "O'Hare"
    let plain := query "n1" "" "n2" "cat" "%n%" "Gotham"
    ∃ lexemes others,
      Lexeme.read hostile.sql.toList = some lexemes ∧ Lexeme.read plain.sql.toList = some others ∧
      lexemes.filterMap Lexeme.literal? = ["' OR '1'='1", "''", "'", "\"it's\"", "%'",
        "\x7b\"city\":\"O'Hare\"\x7d"] ∧
      others.filterMap Lexeme.literal? = ["n1", "", "n2", "\"cat\"", "%n%",
        "\x7b\"city\":\"Gotham\"\x7d"] ∧
      others.map Lexeme.emptied = lexemes.map Lexeme.emptied := by
  intro query hostile plain
  obtain ⟨lexemes, hread, htexts, hsame⟩ := literals_contain_texts hostile (by decide)
  obtain ⟨others, hread', htexts', houtside⟩ := hsame plain rfl
  exact ⟨lexemes, others, hread, hread', htexts, htexts', houtside⟩

end Predicate

end RecordQuery
