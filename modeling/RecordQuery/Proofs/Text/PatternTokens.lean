import Mathlib.Data.List.Forall2
import RecordQuery.Proofs.Text.Pattern

/-!
# Patterns as lists of tokens

A pattern is read from left to right as tokens, each of which says what one piece of a text
has to be. The texts that a pattern accepts are those that can be cut into consecutive pieces,
one for each token and allowed by it. The same matcher on slices, which takes a slice only
where there is one, never asks for one that is out of range.
-/

namespace RecordQuery.Pattern

-- ---------------------------------------------------------------------------
-- Tokens
-- ---------------------------------------------------------------------------

inductive Token
  | anyText
  | anyChar
  | literal (c : Char)
  deriving DecidableEq

/-- The tokens of a pattern. A backslash makes a literal of the character after it, and is
one itself at the end. -/
def tokens : List Char → List Token
  | [] => []
  | '%' :: pattern => .anyText :: tokens pattern
  | '_' :: pattern => .anyChar :: tokens pattern
  | '\\' :: c :: pattern => .literal c :: tokens pattern
  | c :: pattern => .literal c :: tokens pattern

def Token.Allows : Token → List Char → Prop
  | anyText, _ => True
  | anyChar, piece => piece.length = 1
  | literal c, piece => piece = [c]

/-- The text is made of consecutive pieces, one for each token and allowed by it. -/
def Cut (ts : List Token) (text : List Char) : Prop :=
  ∃ pieces, pieces.flatten = text ∧ List.Forall₂ Token.Allows ts pieces

theorem cut_nil {text : List Char} : Cut [] text ↔ text = [] := by
  constructor
  · rintro ⟨_, rfl, ⟨⟩⟩
    rfl
  · rintro rfl
    exact ⟨[], rfl, .nil⟩

theorem cut_cons {t : Token} {ts : List Token} {text : List Char} :
    Cut (t :: ts) text ↔ ∃ piece rest, text = piece ++ rest ∧ t.Allows piece ∧ Cut ts rest := by
  constructor
  · rintro ⟨_, rfl, hpieces⟩
    cases hpieces with
    | cons hpiece hrest => exact ⟨_, _, rfl, hpiece, _, rfl, hrest⟩
  · rintro ⟨piece, _, rfl, hpiece, pieces, rfl, hpieces⟩
    exact ⟨piece :: pieces, rfl, .cons hpiece hpieces⟩

theorem cut_anyText {ts : List Token} {text : List Char} :
    Cut (.anyText :: ts) text ↔ ∃ rest, rest <:+ text ∧ Cut ts rest := by
  rw [cut_cons]
  constructor
  · rintro ⟨piece, rest, rfl, -, hrest⟩
    exact ⟨rest, List.suffix_append _ _, hrest⟩
  · rintro ⟨rest, ⟨piece, rfl⟩, hrest⟩
    exact ⟨piece, rest, rfl, trivial, hrest⟩

theorem cut_anyChar {ts : List Token} {text : List Char} :
    Cut (.anyChar :: ts) text ↔ ∃ c rest, text = c :: rest ∧ Cut ts rest := by
  rw [cut_cons]
  constructor
  · rintro ⟨piece, rest, rfl, hpiece, hrest⟩
    obtain ⟨c, rfl⟩ := List.length_eq_one_iff.mp hpiece
    exact ⟨c, rest, rfl, hrest⟩
  · rintro ⟨c, rest, rfl, hrest⟩
    exact ⟨[c], rest, rfl, rfl, hrest⟩

theorem cut_literal {c : Char} {ts : List Token} {text : List Char} :
    Cut (.literal c :: ts) text ↔ ∃ rest, text = c :: rest ∧ Cut ts rest := by
  rw [cut_cons]
  constructor
  · rintro ⟨_, rest, rfl, rfl, hrest⟩
    exact ⟨rest, rfl, hrest⟩
  · rintro ⟨rest, rfl, hrest⟩
    exact ⟨[c], rest, rfl, rfl, hrest⟩

/-- A backslash that escapes nothing is the last character. -/
theorem escape_at_end {c : Char} {pattern : List Char}
    (h : ∀ d after, c = '\\' → pattern = d :: after → False) (hc : c = '\\') : pattern = [] := by
  cases pattern with
  | nil => rfl
  | cons d after => exact (h d after hc rfl).elim

theorem matchChars_iff_cut (pattern text : List Char) :
    matchChars pattern text = true ↔ Cut (tokens pattern) text := by
  induction pattern using tokens.induct generalizing text with
  | case1 => rw [tokens, cut_nil, matchChars, List.isEmpty_iff]
  | case2 pattern ih =>
    rw [tokens, cut_anyText, matchChars_percent]
    simp only [ih]
  | case3 pattern ih =>
    rw [tokens, cut_anyChar, matchChars_underscore]
    simp only [ih]
  | case4 c pattern ih =>
    rw [tokens, cut_literal, matchChars_escaped]
    simp only [ih]
  | case5 c pattern hpercent hunderscore hescape ih =>
    rw [tokens, cut_literal, matchChars_plain hpercent hunderscore (escape_at_end hescape)]
    · simp only [ih]
    · exact hpercent
    · exact hunderscore
    · exact hescape

-- ---------------------------------------------------------------------------
-- Slices
-- ---------------------------------------------------------------------------

/-- The slice of a text from a place on; there is none past the end. -/
def slice? (cs : List Char) (start : Nat) : Option (List Char) :=
  if start ≤ cs.length then some (cs.drop start) else none

theorem slice?_of_le {cs : List Char} {start : Nat} (h : start ≤ cs.length) :
    slice? cs start = some (cs.drop start) := if_pos h

theorem length_slice?_le {cs slice : List Char} {start : Nat} (h : slice? cs start = some slice) :
    slice.length ≤ cs.length := by
  simp only [slice?, Option.ite_none_right_eq_some, Option.some.injEq] at h
  obtain ⟨-, rfl⟩ := h
  exact List.length_drop ▸ Nat.sub_le ..

/-- The matcher on slices of the pattern and the text, with no answer once a slice is out of
range. -/
def matchSlices? (pattern text : List Char) : Option Bool :=
  match pattern with
  | [] => some text.isEmpty
  | p :: rest =>
    if p = '%' then
      (List.range (text.length + 1)).anyM fun skip => do matchSlices? rest (← slice? text skip)
    else if p = '_' then
      if text.isEmpty then some false else do matchSlices? rest (← slice? text 1)
    else if p = '\\' ∧ ¬rest.isEmpty then
      if text.head? = rest.head? then
        match h : slice? rest 1 with
        | none => none
        | some after =>
          have : after.length ≤ rest.length := length_slice?_le h
          do matchSlices? after (← slice? text 1)
      else some false
    else if text.head? = some p then do matchSlices? rest (← slice? text 1)
    else some false
termination_by pattern.length

theorem anyM_some {α : Type} {f : α → Option Bool} {g : α → Bool} {xs : List α}
    (h : ∀ x ∈ xs, f x = some (g x)) : xs.anyM f = some (xs.any g) := by
  induction xs with
  | nil => rfl
  | cons x xs ih =>
    obtain ⟨hx, hxs⟩ := List.forall_mem_cons.mp h
    rw [List.anyM, hx, List.any_cons, ih hxs]
    cases g x <;> rfl

/-- Every remainder of a text is the slice from some place on. -/
theorem any_remainders (f : List Char → Bool) (text : List Char) :
    (remainders text).any f =
      (List.range (text.length + 1)).any fun skip => f (text.drop skip) := by
  induction text with
  | nil => rfl
  | cons c text ih =>
    rw [remainders, List.any_cons, ih, List.length_cons,
      List.range_succ_eq_map (n := text.length + 1), List.any_cons, List.any_map]
    rfl

theorem slice?_tail (c : Char) (rest : List Char) : slice? (c :: rest) 1 = some rest :=
  slice?_of_le (Nat.le_add_left ..)

/-- The text is sliced behind its first character only if it has one, the literal. -/
theorem sliced_literal {c : Char} {text : List Char} {answer : List Char → Option Bool}
    {matched : List Char → Bool} {b : Bool} (hanswer : ∀ rest, answer rest = some (matched rest))
    (hb : b = true ↔ ∃ rest, text = c :: rest ∧ matched rest = true) :
    (if text.head? = some c then do answer (← slice? text 1) else some false) = some b := by
  cases text with
  | nil =>
    rw [if_neg (by simp), Option.some.injEq, eq_comm, ← Bool.not_eq_true, hb]
    rintro ⟨_, ⟨⟩, _⟩
  | cons d rest =>
    by_cases hd : d = c
    · subst hd
      rw [List.head?_cons, if_pos rfl, slice?_tail, Option.bind_eq_bind, Option.bind_some,
        hanswer, Option.some.injEq, Bool.eq_iff_iff, hb]
      constructor
      · exact fun h => ⟨rest, rfl, h⟩
      · rintro ⟨_, ⟨⟩, h⟩
        exact h
    · rw [List.head?_cons, if_neg (by simpa using hd), Option.some.injEq, eq_comm,
        ← Bool.not_eq_true, hb]
      rintro ⟨_, heq, _⟩
      exact hd (List.cons.inj heq).1

/-- The pattern is sliced behind a backslash only if a character follows it. -/
theorem matchSlices?_escaped (c : Char) (pattern text : List Char) :
    matchSlices? ('\\' :: c :: pattern) text =
      if text.head? = some c then do matchSlices? pattern (← slice? text 1) else some false := by
  rw [matchSlices?, if_neg (by decide), if_neg (by decide), if_pos (by simp)]
  refine if_congr Iff.rfl ?_ rfl
  split
  · next hnone => cases (slice?_tail c pattern).symm.trans hnone
  · next after hafter =>
    obtain rfl : pattern = after := Option.some_inj.mp ((slice?_tail c pattern).symm.trans hafter)
    rfl

/-- Every slice that the matcher takes is in range. -/
theorem matchSlices?_eq (pattern text : List Char) :
    matchSlices? pattern text = some (matchChars pattern text) := by
  induction pattern using tokens.induct generalizing text with
  | case1 => rw [matchSlices?, matchChars]
  | case2 pattern ih =>
    rw [matchSlices?, if_pos rfl, matchChars, any_remainders]
    refine anyM_some fun skip hskip => ?_
    rw [slice?_of_le (by simpa [Nat.lt_succ_iff] using hskip)]
    exact ih _
  | case3 pattern ih =>
    rw [matchSlices?, if_neg (by decide), if_pos rfl]
    cases text with
    | nil => rfl
    | cons d rest => exact ih rest
  | case4 c pattern ih =>
    rw [matchSlices?_escaped]
    exact sliced_literal ih matchChars_escaped
  | case5 c pattern hpercent hunderscore hescape ih =>
    have hend : c = '\\' → pattern = [] := escape_at_end hescape
    rw [matchSlices?, if_neg hpercent, if_neg hunderscore, if_neg (by simpa using hend)]
    exact sliced_literal ih (matchChars_plain hpercent hunderscore hend)

-- ---------------------------------------------------------------------------
-- Patterns and texts
-- ---------------------------------------------------------------------------

/-- A pattern accepts the texts that can be cut into consecutive pieces, one for each of its
tokens and allowed by it; and the matcher on slices always has an answer, the same one. -/
theorem accepts_iff_cut_at_tokens (pattern text : String) :
    (accepts pattern text = true ↔
      ∃ pieces : List (List Char), pieces.flatten = text.toList ∧
        List.Forall₂ Token.Allows (tokens pattern.toList) pieces) ∧
    matchSlices? pattern.toList text.toList = some (accepts pattern text) :=
  ⟨matchChars_iff_cut pattern.toList text.toList,
    matchSlices?_eq pattern.toList text.toList⟩

/-- An escaped sign, two runs of any length and a backslash at the end. -/
example : tokens "%%\\%_\\".toList =
    [.anyText, .anyText, .literal '%', .anyChar, .literal '\\'] := by
  decide

end RecordQuery.Pattern
