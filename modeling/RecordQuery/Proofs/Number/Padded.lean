import Mathlib.Algebra.Ring.Nat
import RecordQuery.Instant.Reader
import RecordQuery.Proofs.Number.Integers

/-!
# Numerals of fixed width

A number with zeros in front of it, as dates and clocks write it. Where the width leaves room for
the number, a reader of that many digits takes the numeral and nothing else.
-/

namespace RecordQuery

namespace Numeral

/-- The decimal numeral of the number, with zeros in front up to the width. -/
def padded (width n : Nat) : List Char := (Nat.toDigits 10 n).leftpad width '0'

theorem isDigit_of_mem_padded {width n : Nat} {c : Char} (h : c ∈ padded width n) :
    isDigit c = true := by
  rw [padded, List.leftpad, List.mem_append] at h
  rcases h with h | h
  · rw [List.eq_of_mem_replicate h]
    rfl
  · exact isDigit_of_mem_toDigits h

theorem digitsValue_zeros (k : Nat) (cs : List Char) :
    digitsValue (List.replicate k '0' ++ cs) = digitsValue cs := by
  induction k with
  | zero => rfl
  | succ k ih => exact ih

theorem digitsValue_padded (width n : Nat) : digitsValue (padded width n) = n := by
  rw [padded, List.leftpad, digitsValue_zeros, digitsValue_toDigits]

theorem length_padded {width n : Nat} (hwidth : 0 < width) (hn : n < 10 ^ width) :
    (padded width n).length = width := by
  have hdigits : (Nat.toDigits 10 n).length ≤ width :=
    (Nat.length_toDigits_le_iff (by decide) hwidth).mpr hn
  rw [padded, List.length_leftpad, max_eq_left hdigits]

theorem padded_ne_nil (width n : Nat) : padded width n ≠ [] :=
  List.append_ne_nil_of_right_ne_nil _ Nat.toDigits_ne_nil

theorem isBlank_of_isDigit {c : Char} (h : isDigit c = true) : Text.isBlank c = false := by
  have hdigit := isDigit_iff.mp h
  simp [Text.isBlank]
  omega

/-- A numeral starts with a digit. -/
theorem padded_eq_cons (width n : Nat) : ∃ c rest, padded width n = c :: rest ∧ isDigit c = true := by
  obtain ⟨c, rest, hcons⟩ := List.exists_cons_of_ne_nil (padded_ne_nil width n)
  exact ⟨c, rest, hcons, isDigit_of_mem_padded (hcons ▸ List.mem_cons_self ..)⟩

end Numeral

namespace Instant

theorem readDigits?_padded {low width n : Nat} (hlow : low ≤ width) (hwidth : 0 < width)
    (hn : n < 10 ^ width) (rest : List Char) :
    readDigits? low width (Numeral.padded width n ++ rest) = some (n, rest) := by
  have hlength := Numeral.length_padded hwidth hn
  have hrun : ((Numeral.padded width n ++ rest).take width).takeWhile Numeral.isDigit =
      Numeral.padded width n := by
    rw [List.take_left' hlength, List.takeWhile_eq_self_iff]
    exact fun c => Numeral.isDigit_of_mem_padded
  rw [readDigits?, hrun, if_neg (by omega), Numeral.digitsValue_padded, List.drop_left]

theorem skipBlanks_padded (width n : Nat) (rest : List Char) :
    skipBlanks (Numeral.padded width n ++ rest) = Numeral.padded width n ++ rest := by
  obtain ⟨c, cs, hcons, hc⟩ := Numeral.padded_eq_cons width n
  rw [skipBlanks, hcons, List.cons_append,
    List.dropWhile_cons_of_neg (by simp [Numeral.isBlank_of_isDigit hc])]

end Instant

end RecordQuery
