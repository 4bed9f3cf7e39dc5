import RecordQuery.Text.Pattern

/-!
# What escaped patterns match

An escaped text matches itself and nothing else, so the pattern made by `containing`
accepts exactly the texts in which the given one stands, whatever characters it has.
-/

namespace RecordQuery.Pattern

theorem mem_remainders {rest text : List Char} : rest ∈ remainders text ↔ rest <:+ text := by
  induction text with
  | nil => simp [remainders]
  | cons c text ih => simp [remainders, ih, List.suffix_cons_iff]

theorem matchChars_percent {pattern text : List Char} :
    matchChars ('%' :: pattern) text = true ↔
      ∃ rest, rest <:+ text ∧ matchChars pattern rest = true := by
  simp [matchChars, mem_remainders]

theorem matchChars_underscore {pattern text : List Char} :
    matchChars ('_' :: pattern) text = true ↔
      ∃ c rest, text = c :: rest ∧ matchChars pattern rest = true := by
  cases text with
  | nil => simp [matchChars]
  | cons c rest =>
    rw [matchChars]
    constructor
    · exact fun h => ⟨c, rest, rfl, h⟩
    · rintro ⟨_, _, heq, h⟩
      cases heq
      exact h

theorem head_matches_iff {c d : Char} {rest : List Char} {matched : List Char → Bool} :
    (c == d && matched rest) = true ↔
      ∃ rest', d :: rest = c :: rest' ∧ matched rest' = true := by
  simp only [Bool.and_eq_true, beq_iff_eq, List.cons.injEq]
  constructor
  · rintro ⟨rfl, h⟩
    exact ⟨rest, ⟨rfl, rfl⟩, h⟩
  · rintro ⟨_, ⟨rfl, rfl⟩, h⟩
    exact ⟨rfl, h⟩

theorem matchChars_escaped {c : Char} {pattern text : List Char} :
    matchChars ('\\' :: c :: pattern) text = true ↔
      ∃ rest, text = c :: rest ∧ matchChars pattern rest = true := by
  cases text with
  | nil => simp [matchChars]
  | cons d rest => exact head_matches_iff

/-- A backslash at the end is a plain character. -/
theorem matchChars_plain {c : Char} {pattern text : List Char} (hpercent : c ≠ '%')
    (hunderscore : c ≠ '_') (hescape : c = '\\' → pattern = []) :
    matchChars (c :: pattern) text = true ↔
      ∃ rest, text = c :: rest ∧ matchChars pattern rest = true := by
  have hstart : ∀ d after, c = '\\' → pattern = d :: after → False :=
    fun d after hc hp => List.cons_ne_nil d after (hp.symm.trans (hescape hc))
  cases text with
  | nil => simp [matchChars]
  | cons d rest =>
    rw [← head_matches_iff, matchChars]
    · exact hpercent
    · exact hunderscore
    · exact hstart

/-- A character of an escaped text stands for itself. -/
theorem matchChars_escapeChar {c : Char} {pattern text : List Char} :
    matchChars (escapeChar c ++ pattern) text = true ↔
      ∃ rest, text = c :: rest ∧ matchChars pattern rest = true := by
  unfold escapeChar
  split
  · exact matchChars_escaped
  · next h =>
    obtain ⟨hpercent, hunderscore, hescape⟩ : c ≠ '%' ∧ c ≠ '_' ∧ c ≠ '\\' := by
      simpa only [not_or] using h
    exact matchChars_plain hpercent hunderscore fun hc => absurd hc hescape

theorem matchChars_escape {s pattern text : List Char} :
    matchChars (s.flatMap escapeChar ++ pattern) text = true ↔
      ∃ rest, text = s ++ rest ∧ matchChars pattern rest = true := by
  induction s generalizing text with
  | nil => simp
  | cons c s ih =>
    simp only [List.flatMap_cons, List.append_assoc, matchChars_escapeChar, ih]
    constructor
    · rintro ⟨_, rfl, rest, rfl, h⟩
      exact ⟨rest, rfl, h⟩
    · rintro ⟨rest, rfl, h⟩
      exact ⟨s ++ rest, rfl, rest, rfl, h⟩

theorem accepts_escape {s text : String} : accepts (escape s) text = true ↔ text = s := by
  have hchars : (escape s).toList = s.toList.flatMap escapeChar ++ [] := by simp [escape]
  rw [accepts, hchars, matchChars_escape]
  constructor
  · rintro ⟨rest, htext, hrest⟩
    obtain rfl : rest = [] := List.isEmpty_iff.mp hrest
    rwa [List.append_nil, String.toList_inj] at htext
  · rintro rfl
    exact ⟨[], (List.append_nil _).symm, rfl⟩

theorem accepts_containing {needle text : String} :
    accepts (containing needle) text = true ↔ needle.toList <:+: text.toList := by
  have hany (rest : List Char) : matchChars ['%'] rest = true :=
    matchChars_percent.mpr ⟨[], List.nil_suffix, rfl⟩
  have hchars : (containing needle).toList =
      '%' :: (needle.toList.flatMap escapeChar ++ ['%']) := by
    simp [containing, escape]
  rw [accepts, hchars, matchChars_percent, List.infix_iff_prefix_suffix]
  refine exists_congr fun rest => ?_
  rw [matchChars_escape, and_comm]
  refine and_congr_left fun _ => ?_
  constructor
  · rintro ⟨tail, rfl, _⟩
    exact List.prefix_append _ _
  · rintro ⟨tail, rfl⟩
    exact ⟨tail, rfl, hany tail⟩

end RecordQuery.Pattern
