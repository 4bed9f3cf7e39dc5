import RecordQuery.Proofs.Number.Padded
import RecordQuery.Request

/-!
# Values in a query string

The texts that a number, a sort order and a flag of a query string are given by. All other
texts are refused, each parser with one error.
-/

namespace RecordQuery

-- ---------------------------------------------------------------------------
-- Digits
-- ---------------------------------------------------------------------------

namespace Numeral

theorem digits?_eq_some {cs : List Char} {k : Nat} :
    digits? cs = some k ↔ cs ≠ [] ∧ cs.all isDigit = true ∧ digitsValue cs = k := by
  simp [digits?, and_assoc]

/-- A number without minus is its digits, behind a plus or not. -/
theorem nat?_eq_some {cs : List Char} {k : Nat} :
    nat? cs = some k ↔
      ∃ sign digits, (sign = [] ∨ sign = ['+']) ∧ cs = sign ++ digits ∧
        digits? digits = some k := by
  constructor
  · intro h
    unfold nat? at h
    split at h
    · next rest => exact ⟨['+'], rest, .inr rfl, rfl, h⟩
    · exact ⟨[], cs, .inl rfl, rfl, h⟩
  · rintro ⟨sign, digits, hsign, rfl, h⟩
    rcases hsign with rfl | rfl
    · rw [List.nil_append]
      unfold nat?
      split
      · -- a plus is no digit
        obtain ⟨-, hall, -⟩ := digits?_eq_some.mp h
        simp [isDigit] at hall
      · exact h
    · exact h

theorem word?_eq_some {cs : List Char} {n : UInt32} :
    word? cs = some n ↔ nat? cs = some n.toNat := by
  have hn : n.toNat < UInt32.size := n.toNat_lt
  unfold word?
  cases h : nat? cs with
  | none => simp
  | some k =>
    simp only [Option.some.injEq]
    split
    · next hk =>
      rw [Option.some.injEq]
      constructor
      · rintro rfl
        exact (UInt32.toNat_ofNat_of_lt' hk).symm
      · rintro rfl
        exact UInt32.ofNat_toNat
    · next hk =>
      simp only [reduceCtorEq, false_iff]
      rintro rfl
      exact hk hn

end Numeral

-- ---------------------------------------------------------------------------
-- What a text means
-- ---------------------------------------------------------------------------

theorem SortOrder.word_of_ofWord? {word : String} {order : SortOrder}
    (h : ofWord? word = some order) : order.word = word := by
  have hword := List.find?_some h
  exact beq_iff_eq.mp hword

namespace FlatQuery

/-- The text is the number in digits, with a plus in front or without, and blanks around. -/
inductive CountText (n : UInt32) : String → Prop
  | digits (before sign digits after : List Char) :
    (∀ c ∈ before, Text.isBlank c = true) → sign = [] ∨ sign = ['+'] →
    digits ≠ [] → digits.all Numeral.isDigit = true → Numeral.digitsValue digits = n.toNat →
    (∀ c ∈ after, Text.isBlank c = true) →
    CountText n (String.ofList (before ++ (sign ++ digits ++ after)))

/-- The text is the word for the order, in any case of its letters and with blanks around. -/
def OrderText (order : SortOrder) (text : String) : Prop :=
  Text.lowerAscii (Text.trim text) = order.word

def flagWords : Bool → List String
  | true => ["true", "1", "yes", "on"]
  | false => ["false", "0", "no", "off", ""]

/-- The text is a word for the flag, in any case of its letters and with blanks around. -/
def FlagText (flag : Bool) (text : String) : Prop :=
  Text.lowerAscii (Text.trim text) ∈ flagWords flag

/-- The parser has a result exactly for what a text means, and one error for all other texts. -/
structure Decides (x : Except QueryError α) (meant : α → Prop) (fault : QueryError) : Prop where
  ok : ∀ a, x = .ok a ↔ meant a
  error : ∀ e, x = .error e → e = fault

/-- A text means one thing. -/
theorem Decides.unique {x : Except QueryError α} {meant : α → Prop} {fault : QueryError} {a b : α}
    (h : Decides x meant fault) (ha : meant a) (hb : meant b) : a = b := by
  have hsame := ((h.ok a).mpr ha).symm.trans ((h.ok b).mpr hb)
  exact Except.ok.inj hsame

theorem word?_trimmed {text : String} {n : UInt32} :
    Numeral.word? (Text.trimChars text.toList) = some n ↔ CountText n text := by
  rw [Numeral.word?_eq_some, Numeral.nat?_eq_some]
  constructor
  · rintro ⟨sign, digits, hsign, hchars, hdigits⟩
    obtain ⟨hne, hall, hvalue⟩ := Numeral.digits?_eq_some.mp hdigits
    obtain ⟨before, after, hbefore, hafter, htext⟩ := Text.exists_around_trimChars text.toList
    rw [← text.ofList_toList, htext, hchars]
    exact .digits before sign digits after hbefore hsign hne hall hvalue hafter
  · rintro ⟨before, sign, digits, after, hbefore, hsign, hne, hall, hvalue, hafter⟩
    refine ⟨sign, digits, hsign, ?_, Numeral.digits?_eq_some.mpr ⟨hne, hall, hvalue⟩⟩
    have hsolid : ∀ c ∈ sign ++ digits, Text.isBlank c = false := by
      intro c hc
      rcases List.mem_append.mp hc with hc | hc
      · rcases hsign with rfl | rfl
        · cases hc
        · obtain rfl := List.mem_singleton.mp hc
          decide
      · exact Numeral.isBlank_of_isDigit (List.all_eq_true.mp hall c hc)
    rw [String.toList_ofList, Text.trimChars_around _ hbefore hafter,
      Text.trimChars_of_solid hsolid]

theorem parseNumber_decides (key text : String) :
    Decides (parseNumber key text) (CountText · text) (.invalidWindow (.notCount key text)) := by
  constructor
  · intro n
    rw [← word?_trimmed]
    unfold parseNumber
    cases Numeral.word? (Text.trimChars text.toList) <;> simp
  · intro e h
    unfold parseNumber at h
    split at h
    · cases h
    · exact (Except.error.inj h).symm

theorem parseOrder_decides (text : String) :
    Decides (SortOrder.parse text) (OrderText · text)
      (.invalidValue "sort_order" (.unknownOrder (Text.lowerAscii (Text.trim text)))) := by
  constructor
  · intro order
    simp only [SortOrder.parse, OrderText]
    generalize Text.lowerAscii (Text.trim text) = word
    constructor
    · intro h
      split at h
      · next found hfound =>
        obtain rfl := Except.ok.inj h
        exact (SortOrder.word_of_ofWord? hfound).symm
      · cases h
    · rintro rfl
      simp [SortOrder.ofWord?_word]
  · intro e h
    simp only [SortOrder.parse] at h
    split at h
    · cases h
    · exact (Except.error.inj h).symm

theorem parseFlag_decides (key text : String) :
    Decides (parseFlag key text) (FlagText · text) (.invalidValue key (.notFlag text)) := by
  constructor
  · intro flag
    unfold parseFlag FlagText
    generalize Text.lowerAscii (Text.trim text) = word
    cases flag <;> simp [flagWords] <;> grind
  · intro e h
    unfold parseFlag at h
    grind

end FlatQuery

end RecordQuery
