import RecordQuery.Text.Blank

/-!
# Comma-separated lists

A list written in one text: items stand between commas, blanks around an item do not
count, and an item that is blank altogether is no item.
-/

namespace RecordQuery.Text

/-- The pieces between the commas, one more than there are commas. -/
def splitCommas : List Char → List (List Char)
  | [] => [[]]
  | c :: rest =>
    if c = ',' then [] :: splitCommas rest else (splitCommas rest).modifyHead (c :: ·)

theorem splitCommas_ne_nil (cs : List Char) : splitCommas cs ≠ [] := by
  induction cs with
  | nil => simp [splitCommas]
  | cons c rest ih =>
    simp only [splitCommas]
    split
    · simp
    · simpa using ih

/-- The trimmed pieces, blank ones included. -/
def pieces (s : String) : List String :=
  (splitCommas s.toList).map fun piece => String.ofList (trimChars piece)

/-- The items of a comma-separated list. -/
def items (s : String) : List String := (pieces s).filter (· ≠ "")

/-- The names of a list given item by item: trimmed, blank ones left out. -/
def names (given : List String) : List String := (given.map trim).filter (· ≠ "")

end RecordQuery.Text
