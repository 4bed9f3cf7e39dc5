import RecordQuery.Json.Basic
import RecordQuery.Text.Pattern

/-!
# Predicates

What a filter compiles to, whichever store answers it: comparisons and memberships of
columns, combined by conjunction and disjunction of any number of operands.
-/

namespace RecordQuery

inductive Comparison
  | eq
  | ne
  | lt
  | gt
  | le
  | ge
  deriving DecidableEq

def Comparison.sql : Comparison → String
  | eq => "="
  | ne => "<>"
  | lt => "<"
  | gt => ">"
  | le => "<="
  | ge => ">="

def Comparison.word : Comparison → String
  | eq => "eq"
  | ne => "ne"
  | lt => "lt"
  | gt => "gt"
  | le => "le"
  | ge => "ge"

inductive Predicate
  | compare (field : String) (op : Comparison) (value : Json)
  | oneOf (field : String) (values : List Json)
  | noneOf (field : String) (values : List Json)
  /-- The column is a document list that holds the text, or the text itself. -/
  | holdsText (field : String) (text : String)
  | like (field : String) (pattern : String)
  | and (operands : List Predicate)
  | or (operands : List Predicate)

namespace Predicate

instance : Inhabited Predicate := ⟨.and []⟩

@[elab_as_elim, induction_eliminator]
theorem induct {motive : Predicate → Prop}
    (compare : ∀ field op value, motive (.compare field op value))
    (oneOf : ∀ field values, motive (.oneOf field values))
    (noneOf : ∀ field values, motive (.noneOf field values))
    (holdsText : ∀ field text, motive (.holdsText field text))
    (like : ∀ field pattern, motive (.like field pattern))
    (and : ∀ operands, (∀ p ∈ operands, motive p) → motive (.and operands))
    (or : ∀ operands, (∀ p ∈ operands, motive p) → motive (.or operands))
    (p : Predicate) : motive p :=
  @Predicate.rec motive (fun ps => ∀ p ∈ ps, motive p) compare oneOf noneOf holdsText like and or
    (by simp) (fun _ _ hp hrest => List.forall_mem_cons.mpr ⟨hp, hrest⟩) p

/-- The column's text contains the given one, whatever characters it has. -/
def contains (field needle : String) : Predicate := .like field (Pattern.containing needle)

/-- Conjunction; a single operand stands for itself. -/
def conjunction : List Predicate → Predicate
  | [p] => p
  | operands => .and operands

/-- Disjunction; a single operand stands for itself. -/
def disjunction : List Predicate → Predicate
  | [p] => p
  | operands => .or operands

end Predicate

end RecordQuery
