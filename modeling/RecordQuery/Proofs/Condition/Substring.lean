import RecordQuery.Proofs.Condition.Meaning
import RecordQuery.Proofs.Json.FilterOrder
import RecordQuery.Proofs.Schema.Built

/-!
# Searching for a text

A `like` leaf looks for the text of its value inside the text of the column: the wildcards of
patterns and the backslash stand for themselves on both sides.
-/

namespace RecordQuery

namespace Json

/-- A text as it is, any other value as JSON text. -/
def plainText : Json → String
  | .string s => s
  | j => j.text

theorem patternText_eq_some {j : Json} {s : String} :
    j.patternText = some s ↔ j ≠ .null ∧ j.plainText = s := by
  cases j <;> simp [patternText, plainText]

end Json

theorem Field.scalarText_of_isScalar (f : Field) {v : Json} (h : v.isScalar = true) :
    f.scalarText v = .ok v.plainText := by
  cases v with
  | string s => rfl
  | number n => rfl
  | bool b => rfl
  | _ => cases h

/-- A column that is found is not null by its value alone. -/
theorem exists_patternText_column {r : Record} {field : String} {P : String → Prop} :
    (∃ text, (column r.columns field).patternText = some text ∧ P text) ↔
      ∃ actual, r.get? field = some actual ∧ actual ≠ .null ∧ P actual.plainText := by
  simp only [Json.patternText_eq_some, column]
  cases hget : KeyMap.get? r.columns field with
  | none => simp [Record.get?, hget]
  | some actual =>
    simp only [Record.get?, hget, Option.getD_some, Option.some.injEq, exists_eq_left']
    constructor
    · rintro ⟨_, ⟨hne, rfl⟩, h⟩
      exact ⟨hne, h⟩
    · rintro ⟨hne, h⟩
      exact ⟨_, ⟨hne, rfl⟩, h⟩

namespace Condition

theorem compile?_like {schema : Schema} {name : String} {f : Field} {v : Json}
    (hf : schema.scalarField name = .ok f) (hv : v.isScalar = true) (single : Bool) :
    compile? schema single (some (.leaf ⟨name, .like, v⟩)) =
      .ok (some (Predicate.contains f.name v.plainText)) := by
  have hleaf : compileLeaf schema single ⟨name, .like, v⟩ =
      .ok (Predicate.contains f.name v.plainText) :=
    bind_ok.mpr ⟨f, hf, bind_ok.mpr ⟨_, f.scalarText_of_isScalar hv, rfl⟩⟩
  exact bind_ok.mpr ⟨_, hleaf, rfl⟩

/-- A `like` leaf with a scalar value compiles, and it holds of the records in which the text of
the column, present and not null, contains the text of the value. An escaped text is matched
by itself alone. -/
theorem like_is_substring_search :
    (∀ (schema : Schema) (single : Bool) (name : String) (f : Field) (v : Json),
      schema.scalarField name = .ok f → v.isScalar = true →
        (schema.Built → f.name = name) ∧
        ∃ p, compile? schema single (some (.leaf ⟨name, .like, v⟩)) = .ok (some p) ∧
          ∀ r : Record, p.holds r.columns = true ↔
            ∃ actual, r.get? f.name = some actual ∧ actual ≠ .null ∧
              v.plainText.toList <:+: actual.plainText.toList) ∧
    ∀ s t : String, Pattern.accepts (Pattern.escape s) t = true ↔ t = s := by
  refine ⟨fun schema single name f v hf hv => ⟨fun hbuilt => ?_, ?_⟩,
    fun s t => Pattern.accepts_escape⟩
  · exact hbuilt.name_of_field? (Schema.scalarField_ok.mp hf).1
  · refine ⟨_, compile?_like hf hv single, fun r => ?_⟩
    rw [holds_contains, exists_patternText_column]

/-- A percent sign before a backslash, found where both stand and not where a digit comes
before the backslash; the digit of a number; and an escaped pattern. -/
theorem like_is_substring_search_wildcards :
    let found : Record := .ofColumns [("age", .word 18), ("name", .string "50%\\_")]
    let other : Record := .ofColumns [("age", .null), ("name", .string "%5\\")]
    (∃ p, compile? Sample.heroSchema true (some (.leaf ⟨"name", .like, .string "%\\"⟩)) =
        .ok (some p) ∧ p.holds found.columns = true ∧ p.holds other.columns = false) ∧
    (∃ p, compile? Sample.heroSchema true (some (.leaf ⟨"age", .like, .word 8⟩)) =
        .ok (some p) ∧ p.holds found.columns = true ∧ p.holds other.columns = false) ∧
    Pattern.accepts (Pattern.escape "50%\\_") "50%\\_" = true := by
  intro found other
  obtain ⟨-, p, hp, hname⟩ := like_is_substring_search.1 Sample.heroSchema true "name"
    ⟨"name", .text, true, false, none⟩ (.string "%\\") rfl rfl
  obtain ⟨-, q, hq, hage⟩ := like_is_substring_search.1 Sample.heroSchema true "age"
    ⟨"age", .integer, false, false, none⟩ (.word 8) rfl rfl
  refine ⟨⟨p, hp, ?_, ?_⟩, ⟨q, hq, ?_, ?_⟩, (like_is_substring_search.2 _ _).mpr rfl⟩
  · exact (hname found).mpr ⟨.string "50%\\_", rfl, nofun, by decide⟩
  · refine Bool.eq_false_iff.mpr fun h => ?_
    obtain ⟨actual, hget, -, hin⟩ := (hname other).mp h
    cases hget
    revert hin
    decide
  · exact (hage found).mpr ⟨.word 18, rfl, nofun, by decide⟩
  · refine Bool.eq_false_iff.mpr fun h => ?_
    obtain ⟨actual, hget, hne, -⟩ := (hage other).mp h
    cases hget
    exact hne rfl

end Condition

end RecordQuery
