import Mathlib.Data.List.TakeWhile
import RecordQuery.Json.Basic
import RecordQuery.Number.Numeral
import RecordQuery.Text.Blank

/-!
# Integers as numerals

The decimal text of an integer is one of its numerals: trimming leaves it alone, reading it
gives the integer back, and read as a real number it denotes the float that the integer
itself is rounded to. So an integer and its text meet a float at the same place.
-/

namespace RecordQuery

namespace Numeral

-- ---------------------------------------------------------------------------
-- Digits
-- ---------------------------------------------------------------------------

theorem isDigit_iff {c : Char} : isDigit c = true ↔ 48 ≤ c.toNat ∧ c.toNat ≤ 57 := by
  rw [isDigit, Bool.and_eq_true, decide_eq_true_eq, decide_eq_true_eq]
  exact Iff.rfl

theorem isDigit_of_mem_toDigits {c : Char} {n : Nat} (h : c ∈ Nat.toDigits 10 n) :
    isDigit c = true := by
  have hdigit : c.isDigit = true := Nat.isDigit_of_mem_toDigits (by decide) (by decide) h
  rw [Char.isDigit, Bool.and_eq_true, decide_eq_true_eq, decide_eq_true_eq] at hdigit
  exact isDigit_iff.mpr hdigit

theorem all_isDigit_toDigits (n : Nat) : (Nat.toDigits 10 n).all isDigit = true :=
  List.all_eq_true.mpr fun _ => isDigit_of_mem_toDigits

theorem digitsValue_toDigits (n : Nat) : digitsValue (Nat.toDigits 10 n) = n := by
  have hread : Nat.ofDigitChars 10 (Nat.toDigits 10 n) 0 = n := Nat.ofDigitChars_ten_toDigits
  rwa [Nat.ofDigitChars_eq_foldl] at hread

theorem digits?_toDigits (n : Nat) : digits? (Nat.toDigits 10 n) = some n := by
  rw [digits?, if_pos ⟨Nat.toDigits_ne_nil, all_isDigit_toDigits n⟩, digitsValue_toDigits]

theorem toLower_of_isDigit {c : Char} (h : isDigit c = true) : c.toLower = c := by
  refine dif_neg ?_
  rintro ⟨hA, -⟩
  have hletter : 65 ≤ c.toNat := hA
  have hdigit := (isDigit_iff.mp h).2
  omega

-- ---------------------------------------------------------------------------
-- Integers
-- ---------------------------------------------------------------------------

/-- Digits behind a minus sign, which only a negative integer has. -/
theorem toList_toString (i : Int) :
    (toString i).toList = (if i < 0 then ['-'] else []) ++ Nat.toDigits 10 i.natAbs := by
  rw [Int.toString_eq_repr, Int.repr_eq_if]
  by_cases hi : 0 ≤ i
  · rw [if_pos hi, if_neg (by omega), Nat.toList_repr, List.nil_append,
      show i.toNat = i.natAbs by omega]
  · rw [if_neg hi, if_pos (by omega), String.toList_append, Nat.toList_repr,
      show (-i).toNat = i.natAbs by omega]
    rfl

theorem head_of_digits {cs : List Char} (hne : cs ≠ []) (h : cs.all isDigit = true)
    (rest : List Char) : ∃ c tail, cs ++ rest = c :: tail ∧ isDigit c = true := by
  obtain ⟨c, tail, rfl⟩ := List.exists_cons_of_ne_nil hne
  rw [List.all_cons, Bool.and_eq_true] at h
  exact ⟨c, tail ++ rest, rfl, h.1⟩

/-- What starts with a digit has a sign only if one is put in front. -/
theorem sign_of_head {cs : List Char} (h : ∃ c rest, cs = c :: rest ∧ isDigit c = true)
    (negative : Bool) : sign (if negative then '-' :: cs else cs) = (negative, cs) := by
  obtain ⟨c, rest, rfl, hc⟩ := h
  cases negative with
  | true => rfl
  | false =>
    show sign (c :: rest) = (false, c :: rest)
    unfold sign
    split
    · next heq => cases heq; cases hc
    · next heq => cases heq; cases hc
    · rfl

theorem sign_toString (i : Int) :
    sign (toString i).toList = (decide (i < 0), Nat.toDigits 10 i.natAbs) := by
  have hhead := head_of_digits Nat.toDigits_ne_nil (all_isDigit_toDigits i.natAbs) []
  rw [List.append_nil] at hhead
  rw [← sign_of_head hhead, toList_toString]
  by_cases hi : i < 0 <;> simp [hi]

theorem trim_toString (i : Int) : Text.trim (toString i) = toString i := by
  have hsolid : ∀ c ∈ (toString i).toList, Text.isBlank c = false := by
    intro c hc
    rw [toList_toString, List.mem_append] at hc
    rcases hc with hc | hc
    · split at hc
      · rw [List.mem_singleton] at hc
        subst hc
        decide
      · cases hc
    · have hdigit := isDigit_iff.mp (isDigit_of_mem_toDigits hc)
      simp [Text.isBlank]
      omega
  rw [Text.trim, Text.trimChars_of_solid hsolid, String.ofList_toList]

/-- The text of an integer reads back. -/
theorem int?_toString (i : Int) : int? (toString i).toList = some i := by
  have hread : int? (toString i).toList =
      some (if i < 0 then -(i.natAbs : Int) else i.natAbs) := by
    rw [int?, sign_toString]
    simp [digits?_toDigits]
  rw [hread, Option.some.injEq]
  split
  · omega
  · omega

theorem toString_injective : Function.Injective (toString : Int → String) := by
  intro i j h
  have hread := congrArg (fun s : String => int? s.toList) h
  simpa only [int?_toString, Option.some.injEq] using hread

theorem int64?_toString {i : Int} (h : isInt64 i = true) :
    int64? (toString i).toList = some i := by
  rw [int64?, int?_toString, Option.filter_some, if_pos h]

-- ---------------------------------------------------------------------------
-- Integers as real numbers
-- ---------------------------------------------------------------------------

theorem decimal?_of_digits (negative : Bool) {cs : List Char} (hne : cs ≠ [])
    (hdigits : cs.all isDigit = true) :
    decimal? negative cs = some (Binary64.Extended.ofDecimal negative (digitsValue cs) 0) := by
  have htake : cs.takeWhile isDigit = cs := List.takeWhile_eq_self_iff.mpr (by simpa using hdigits)
  have hdrop : cs.dropWhile isDigit = [] := List.dropWhile_eq_nil_iff.mpr (by simpa using hdigits)
  simp [decimal?, htake, hdrop, hne, exponent?]

/-- What starts with a digit is none of the words for infinity and NaN. -/
theorem real?_of_head {s : String} {negative : Bool} {cs : List Char}
    (hsign : sign s.toList = (negative, cs)) (h : ∃ c rest, cs = c :: rest ∧ isDigit c = true) :
    real? s = decimal? negative cs := by
  obtain ⟨c, rest, rfl, hc⟩ := h
  have hword (word : String) (hw : word.toList.head?.any isDigit = false) :
      String.ofList ((c :: rest).map Char.toLower) ≠ word := by
    rintro rfl
    simp [toLower_of_isDigit hc, hc] at hw
  simp only [real?, hsign]
  rw [if_neg (hword _ rfl), if_neg (not_or.mpr ⟨hword _ rfl, hword _ rfl⟩)]

theorem real?_of_digits {s : String} {negative : Bool} {cs : List Char}
    (hsign : sign s.toList = (negative, cs)) (hne : cs ≠ []) (hdigits : cs.all isDigit = true) :
    real? s = some (Binary64.Extended.ofDecimal negative (digitsValue cs) 0) := by
  have hhead := head_of_digits hne hdigits []
  rw [List.append_nil] at hhead
  rw [real?_of_head hsign hhead, decimal?_of_digits negative hne hdigits]

end Numeral

namespace Binary64

theorem nearestRank_zero : nearestRank 0 1 = 0 := by
  simp [nearestRank]

/-- An integer of at most 64 bits is far below the first power of ten that is cut off. -/
theorem ofDecimal_natAbs (i : Int) (h : i.natAbs ≤ 0x10000000000000000) :
    Extended.ofDecimal (decide (i < 0)) i.natAbs 0 = .finite (ofInt i h) := by
  by_cases hzero : i = 0
  · subst hzero
    simp [Extended.ofDecimal, ofInt, signedZero, nearestRank_zero]
  · have hlog : i.natAbs.log2 < 1024 := by
      calc i.natAbs.log2 ≤ (0x10000000000000000 : Nat).log2 := log2_mono h
        _ < 1024 := by decide +kernel
    simp [Extended.ofDecimal, hzero, hlog, Extended.ofRank, nearestRank_lt _ h, ofInt]

end Binary64

/-- Reading the text of an integer rounds as converting the integer does. -/
theorem Json.Integer.real?_toString (i : Json.Integer) :
    Numeral.real? (toString i.val) = some (.finite (Json.Number.int i).toBinary64) := by
  rw [Numeral.real?_of_digits (Numeral.sign_toString i.val) Nat.toDigits_ne_nil
      (Numeral.all_isDigit_toDigits _),
    Numeral.digitsValue_toDigits, Binary64.ofDecimal_natAbs i.val i.natAbs_le]
  rfl

end RecordQuery
