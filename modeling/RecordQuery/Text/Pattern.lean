/-!
# LIKE patterns

In a pattern `%` stands for any text and `_` for any one character; a backslash takes
away the special meaning of the character after it, and stands for itself at the end.
-/

namespace RecordQuery.Pattern

def escapeChar (c : Char) : List Char :=
  if c = '%' ∨ c = '_' ∨ c = '\\' then ['\\', c] else [c]

/-- The pattern that stands for exactly the given text. -/
def escape (s : String) : String := String.ofList (s.toList.flatMap escapeChar)

/-- The pattern of all texts that contain the given one. -/
def containing (s : String) : String := "%" ++ escape s ++ "%"

/-- Every remainder of a text, from the whole of it to nothing. -/
def remainders : List Char → List (List Char)
  | [] => [[]]
  | c :: rest => (c :: rest) :: remainders rest

def matchChars : List Char → List Char → Bool
  | [], text => text.isEmpty
  | '%' :: pattern, text => (remainders text).any fun rest => matchChars pattern rest
  | '_' :: pattern, text =>
    match text with
    | [] => false
    | _ :: rest => matchChars pattern rest
  | '\\' :: c :: pattern, text =>
    match text with
    | [] => false
    | d :: rest => c == d && matchChars pattern rest
  | c :: pattern, text =>
    match text with
    | [] => false
    | d :: rest => c == d && matchChars pattern rest

/-- Whether the text is one of those that the pattern stands for. -/
def accepts (pattern text : String) : Bool := matchChars pattern.toList text.toList

end RecordQuery.Pattern
