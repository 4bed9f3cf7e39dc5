/-!
# Finite binary64 numbers

A number is a sign and a rank: the place of its absolute value in the increasing
list of the finite magnitudes, zero first. Every magnitude is a whole number of
units of `2 ^ -1074`, so comparison is comparison of integers and rounding a
quotient is integer division. No arithmetic beyond rounding is needed here.
-/

namespace RecordQuery

/-- The bound is the rank that infinity would have. -/
structure Binary64 where
  negative : Bool
  rank : Nat
  rank_lt : rank < 0x7ff0000000000000
  deriving DecidableEq

namespace Binary64

/-- The rank that follows every finite one; infinity has it. -/
def rankBound : Nat := 0x7ff0000000000000

/-- From one power of two to the next there are `2 ^ 52` ranks. -/
abbrev binade : Nat := 0x10000000000000

def signedZero (negative : Bool) : Binary64 := ⟨negative, 0, by decide⟩

instance : Inhabited Binary64 := ⟨signedZero false⟩

/-- The number one, counted in units of `2 ^ -1074`. -/
def one : Nat := 1 <<< 1074

/-- The magnitude at a rank, counted in units of `2 ^ -1074`. -/
def units (rank : Nat) : Nat :=
  if rank < binade then rank else (binade + rank % binade) <<< (rank / binade - 1)

/-- Signed rank: the two zeros share it, so it orders numbers by value. -/
def key (x : Binary64) : Int := if x.negative then -(x.rank : Int) else x.rank

/-- Signed rank with the negative zero just below the positive one. -/
def totalKey (x : Binary64) : Int := if x.negative then -(x.rank : Int) - 1 else x.rank

/-- The rank nearest to `num / den`, of two equally near the even one; it can
reach `rankBound`. -/
def nearestRank (num den : Nat) : Nat :=
  let scaled := num * one
  let whole := scaled / den
  let shift := whole.log2 - 52
  let step := 1 <<< shift
  let below := shift * binade + whole / step
  let rest := (whole % step) * den + scaled % den
  if step * den < 2 * rest ∨ (2 * rest = step * den ∧ below % 2 = 1) then below + 1 else below

theorem nearestRank_le (num den : Nat) :
    nearestRank num den ≤ ((num * one / den).log2 - 52) * binade + 2 * binade := by
  have hm : num * one / den / 1 <<< ((num * one / den).log2 - 52) < 2 * binade := by
    generalize num * one / den = whole
    rw [Nat.one_shiftLeft, Nat.div_lt_iff_lt_mul (Nat.two_pow_pos _),
      show 2 * binade = 2 ^ 53 from rfl, ← Nat.pow_add]
    exact Nat.lt_of_lt_of_le Nat.lt_log2_self
      (Nat.pow_le_pow_right (by decide) (by omega))
  simp only [nearestRank]
  split <;> omega

/-- What a numeral can denote besides a finite number. -/
inductive Extended
  | nan
  | infinite (negative : Bool)
  | finite (x : Binary64)
  deriving DecidableEq

namespace Extended

def ofRank (negative : Bool) (rank : Nat) : Extended :=
  if h : rank < 0x7ff0000000000000 then .finite ⟨negative, rank, h⟩ else .infinite negative

def key? : Extended → Option Int
  | .nan => none
  | .infinite negative => some (if negative then -(rankBound : Int) else rankBound)
  | .finite x => some x.key

/-- Order by value; nothing is ordered with NaN. -/
def compare? (x y : Extended) : Option Ordering := do
  return compare (← x.key?) (← y.key?)

/-- The number nearest to `digits * 10 ^ exponent`. The two early answers keep the
powers small: beyond them the value is past every finite number, or too small
to differ from zero. -/
def ofDecimal (negative : Bool) (digits : Nat) (exponent : Int) : Extended :=
  if digits = 0 then .finite (signedZero negative)
  else
    match exponent with
    | .ofNat up =>
      if 1024 ≤ digits.log2 + 3 * up then .infinite negative
      else ofRank negative (nearestRank (digits * Nat.pow 10 up) 1)
    | .negSucc n =>
      if digits.log2 + 1076 < 3 * (n + 1) then .finite (signedZero negative)
      else ofRank negative (nearestRank digits (Nat.pow 10 (n + 1)))

end Extended

theorem log2_mono {m n : Nat} (h : m ≤ n) : m.log2 ≤ n.log2 := by
  by_cases hm : m = 0
  · subst hm
    exact Nat.zero_le _
  · exact (Nat.le_log2 (by omega)).mpr (Nat.le_trans (Nat.log2_self_le hm) h)

theorem nearestRank_lt (n : Nat) (h : n ≤ 0x10000000000000000) :
    nearestRank n 1 < 0x7ff0000000000000 := by
  have hl : (n * one / 1).log2 ≤ (0x10000000000000000 * one).log2 := by
    rw [Nat.div_one]
    exact log2_mono (Nat.mul_le_mul_right _ h)
  have ho : (0x10000000000000000 * one).log2 = 1138 := by decide +kernel
  have hs := Nat.sub_le_sub_right hl 52
  have hr := nearestRank_le n 1
  simp only [binade] at hr
  omega

/-- The number nearest to an integer of at most 64 bits. -/
def ofInt (i : Int) (h : i.natAbs ≤ 0x10000000000000000) : Binary64 :=
  ⟨decide (i < 0), nearestRank i.natAbs 1, nearestRank_lt _ h⟩

end Binary64

end RecordQuery
