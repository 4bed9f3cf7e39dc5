import RecordQuery.Proofs.Json.NumberText
import RecordQuery.Proofs.Sql.Template

/-!
# Reading SQL text

A reader of SQL text takes a quote for the beginning of a literal, two quotes in a literal for
one, and a single quote for its end. A template is read as what it was made of when its own
text has no quotes and its literals are kept apart.
-/

namespace RecordQuery

-- ---------------------------------------------------------------------------
-- Reading literals
-- ---------------------------------------------------------------------------

inductive Lexeme
  /-- A character outside all literals. -/
  | outside (c : Char)
  | literal (s : String)
  deriving DecidableEq

namespace Lexeme

mutual

/-- The characters outside the literals of a text, and the literals, from left to right;
nothing when a literal is not closed. -/
def read : List Char → Option (List Lexeme)
  | [] => some []
  | c :: rest => if c = '\'' then readLiteral [] rest else (read rest).map (outside c :: ·)

/-- The same from within a literal of which some characters have been read. -/
def readLiteral (seen : List Char) : List Char → Option (List Lexeme)
  | [] => none
  | '\'' :: '\'' :: rest => readLiteral (seen ++ ['\'']) rest
  | '\'' :: rest => (read rest).map (literal (String.ofList seen) :: ·)
  | c :: rest => readLiteral (seen ++ [c]) rest

end

def literal? : Lexeme → Option String
  | outside _ => none
  | literal s => some s

/-- A literal is emptied, other text is left as it is. -/
def emptied : Lexeme → Lexeme
  | outside c => outside c
  | literal _ => literal ""

theorem read_outside {s : List Char} (h : '\'' ∉ s) (rest : List Char) :
    read (s ++ rest) = (read rest).map (s.map outside ++ ·) := by
  induction s with
  | nil => simp
  | cons c s ih =>
    obtain ⟨hc, hs⟩ := not_or.mp (mt List.mem_cons.mpr h)
    rw [List.cons_append, read, if_neg (Ne.symm hc), ih hs, Option.map_map]
    rfl

theorem readLiteral_doubled (seen rest : List Char) :
    readLiteral seen ('\'' :: '\'' :: rest) = readLiteral (seen ++ ['\'']) rest := by
  rw [readLiteral]

theorem readLiteral_closed (seen : List Char) {rest : List Char} (h : rest.head? ≠ some '\'') :
    readLiteral seen ('\'' :: rest) =
      (read rest).map (literal (String.ofList seen) :: ·) := by
  rw [readLiteral]
  rintro after rfl
  exact h rfl

theorem readLiteral_other (seen rest : List Char) {c : Char} (h : c ≠ '\'') :
    readLiteral seen (c :: rest) = readLiteral (seen ++ [c]) rest := by
  rw [readLiteral]
  · exact fun _ heq _ => h heq
  · exact h

theorem readLiteral_twiceIfQuote (s seen : List Char) {rest : List Char}
    (h : rest.head? ≠ some '\'') :
    readLiteral seen (s.flatMap twiceIfQuote ++ '\'' :: rest) =
      (read rest).map (literal (String.ofList (seen ++ s)) :: ·) := by
  induction s generalizing seen with
  | nil => rw [List.append_nil, List.flatMap_nil, List.nil_append, readLiteral_closed seen h]
  | cons c s ih =>
    rw [List.flatMap_cons, twiceIfQuote, List.append_cons seen, ← ih]
    by_cases hc : c = '\''
    · subst hc
      rw [if_pos rfl]
      exact readLiteral_doubled ..
    · rw [if_neg hc]
      exact readLiteral_other _ _ hc

/-- A literal is read as the text it was written for, unless a quote comes right behind it. -/
theorem read_sqlLiteral (s : String) {rest : List Char} (h : rest.head? ≠ some '\'') :
    read ((sqlLiteral s).toList ++ rest) = (read rest).map (literal s :: ·) := by
  have hread := readLiteral_twiceIfQuote s.toList [] h
  rw [List.nil_append, String.ofList_toList] at hread
  rw [sqlLiteral, String.toList_ofList, List.append_assoc, List.cons_append, List.cons_append,
    List.nil_append, read, if_pos rfl, ← hread]

end Lexeme

-- ---------------------------------------------------------------------------
-- Text without quotes
-- ---------------------------------------------------------------------------

def Unquoted (s : String) : Prop := '\'' ∉ s.toList

instance : DecidablePred Unquoted := fun s => inferInstanceAs (Decidable ('\'' ∉ s.toList))

namespace Unquoted

theorem append {s t : String} (hs : Unquoted s) (ht : Unquoted t) : Unquoted (s ++ t) := by
  rw [Unquoted, String.toList_append, List.mem_append]
  exact not_or.mpr ⟨hs, ht⟩

/-- What begins with such text does not begin with a quote. -/
theorem head_append {s : String} (hs : Unquoted s) (hne : s ≠ "") (t : String) :
    (s ++ t).toList.head? ≠ some '\'' := by
  cases hchars : s.toList with
  | nil => exact absurd (String.toList_eq_nil_iff.mp hchars) hne
  | cons c rest =>
    rw [String.toList_append, hchars, List.cons_append, List.head?_cons]
    intro hc
    rw [Unquoted, hchars] at hs
    exact hs (Option.some.inj hc ▸ List.mem_cons_self)

end Unquoted

namespace Json

theorem Number.unquoted_text (n : Number) : Unquoted n.text := by
  intro h
  cases List.all_eq_true.mp n.chars_text.2 _ h

/-- The text that a value is written as a literal of, if it is. -/
def literalText? : Json → Option String
  | .string s => some s
  | .array items => some (text (.array items))
  | .object members => some (text (.object members))
  | _ => none

theorem sql_of_literalText? {v : Json} {s : String} (h : v.literalText? = some s) :
    v.sql = sqlLiteral s := by
  cases v <;> cases h <;> rfl

theorem unquoted_sql {v : Json} (h : v.literalText? = none) : Unquoted v.sql := by
  cases v with
  | null => decide
  | bool b => cases b <;> decide
  | number n => exact n.unquoted_text
  | _ => cases h

end Json

-- ---------------------------------------------------------------------------
-- Templates
-- ---------------------------------------------------------------------------

namespace Piece

/-- The text that a piece is written as a literal of, if it is. -/
def literalText? : Piece → Option String
  | .raw _ => none
  | .value _ v => v.literalText?
  | .pattern s => some s
  | .quoted s => some (Json.quoted s)

/-- What the piece is read as. -/
def lexemes (piece : Piece) : List Lexeme :=
  match piece.literalText? with
  | some s => [.literal s]
  | none => piece.text.toList.map .outside

theorem text_of_literalText? {piece : Piece} {s : String} (h : piece.literalText? = some s) :
    piece.text = sqlLiteral s := by
  cases piece with
  | raw _ => cases h
  | value _ v => exact Json.sql_of_literalText? h
  | pattern _ => cases h; rfl
  | quoted _ => cases h; rfl

theorem lexemes_of_none {piece : Piece} (h : piece.literalText? = none) :
    piece.lexemes = piece.text.toList.map .outside := by
  rw [lexemes, h]

theorem lexemes_of_some {piece : Piece} {s : String} (h : piece.literalText? = some s) :
    piece.lexemes = [.literal s] := by
  rw [lexemes, h]

theorem filterMap_lexemes (piece : Piece) :
    piece.lexemes.filterMap Lexeme.literal? = piece.literalText?.toList := by
  cases h : piece.literalText? with
  | none =>
    rw [lexemes_of_none h, List.filterMap_map]
    exact List.filterMap_eq_nil_iff.mpr fun _ _ => rfl
  | some s =>
    rw [lexemes_of_some h]
    rfl

end Piece

namespace Template

def lexemes (t : Template) : List Lexeme := t.flatMap Piece.lexemes

theorem lexemes_cons (piece : Piece) (t : Template) :
    lexemes (piece :: t) = piece.lexemes ++ t.lexemes := rfl

/-- There is no quote outside the literals, and none right behind one. -/
inductive Sealed : Template → Prop
  | nil : Sealed []
  | outside {piece : Piece} {rest : Template} :
    piece.literalText? = none → Unquoted piece.text → Sealed rest → Sealed (piece :: rest)
  | literal {piece : Piece} {rest : Template} {s : String} :
    piece.literalText? = some s → rest.text.toList.head? ≠ some '\'' → Sealed rest →
      Sealed (piece :: rest)

namespace Sealed

theorem read {t : Template} (h : t.Sealed) : Lexeme.read t.text.toList = some t.lexemes := by
  induction h with
  | nil => rfl
  | outside hnone hs _ ih =>
    rw [text, String.toList_append, Lexeme.read_outside hs, ih, lexemes_cons,
      Piece.lexemes_of_none hnone]
    rfl
  | literal hsome hhead _ ih =>
    rw [text, String.toList_append, Piece.text_of_literalText? hsome,
      Lexeme.read_sqlLiteral _ hhead, ih, lexemes_cons, Piece.lexemes_of_some hsome]
    rfl

theorem raw {s : String} {t : Template} (hs : Unquoted s) (ht : t.Sealed) :
    Sealed (.raw s :: t) :=
  .outside rfl hs ht

theorem single (piece : Piece) (h : piece.literalText? = none → Unquoted piece.text) :
    Sealed [piece] := by
  cases hpiece : piece.literalText? with
  | none => exact .outside hpiece (h hpiece) .nil
  | some s => exact .literal hpiece (by decide) .nil

theorem value (field : String) (v : Json) : Sealed [.value field v] :=
  single _ Json.unquoted_sql

theorem append {t u : Template} (ht : t.Sealed) (hu : u.Sealed)
    (hhead : u.text.toList.head? ≠ some '\'') : Sealed (t ++ u) := by
  induction ht with
  | nil => exact hu
  | outside hnone hs _ ih => exact .outside hnone hs ih
  | @literal piece rest _ hsome hrest _ ih =>
    refine .literal hsome ?_ ih
    show (text (rest ++ u)).toList.head? ≠ some '\''
    rw [text_append, String.toList_append, List.head?_append, Ne, Option.or_eq_some_iff]
    rintro (h | ⟨-, h⟩)
    · exact hrest h
    · exact hhead h

theorem append_raw {t u : Template} {s : String} (ht : t.Sealed) (hs : Unquoted s)
    (hne : s ≠ "") (hu : u.Sealed) : Sealed (t ++ .raw s :: u) :=
  ht.append (.raw hs hu) (hs.head_append hne _)

theorem between {separator : String} {ts : List Template} (hs : Unquoted separator)
    (hne : separator ≠ "") (hts : ∀ t ∈ ts, t.Sealed) :
    (Template.between separator ts).Sealed := by
  induction ts with
  | nil => exact .nil
  | cons t rest ih =>
    obtain ⟨ht, hrest⟩ := List.forall_mem_cons.mp hts
    cases rest with
    | nil => exact ht
    | cons u rest => exact ht.append_raw hs hne (ih hrest)

/-- Behind an opening and before a closing text there is what may be there alone. -/
theorem enclosed {t : Template} {opening closing : String} (ht : t.Sealed)
    (hopening : Unquoted opening) (hclosing : Unquoted closing) (hne : closing ≠ "") :
    Sealed (.raw opening :: (t ++ [.raw closing])) :=
  .raw hopening (ht.append_raw hclosing hne .nil)

end Sealed

end Template

end RecordQuery
