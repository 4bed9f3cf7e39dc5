import Mathlib.Order.Monotone.Basic
import Mathlib.Tactic.Ring
import RecordQuery.Number.Binary64

/-!
# Integers as binary64 numbers

An integer becomes the nearest multiple of a power of two that leaves it 53 significant bits.
Numbers compare by value, so two integers compare as their nearest multiples do: in the right
order, but as equal where both have the same one.
-/

namespace RecordQuery.Binary64

-- ---------------------------------------------------------------------------
-- The nearest multiple
-- ---------------------------------------------------------------------------

/-- The step between the numbers of 53 significant bits next to a natural number. -/
def spacing (n : Nat) : Nat := 2 ^ (n.log2 - 52)

/-- The nearest multiple of the spacing, of two equally near the even one. -/
def nearest (n : Nat) : Nat :=
  let low := n / spacing n
  let rest := n % spacing n
  if spacing n < 2 * rest ∨ (2 * rest = spacing n ∧ low % 2 = 1) then (low + 1) * spacing n
  else low * spacing n

theorem spacing_pos (n : Nat) : 0 < spacing n := Nat.two_pow_pos _

theorem div_spacing_lt (n : Nat) : n / spacing n < 2 * binade := by
  rw [spacing, Nat.div_lt_iff_lt_mul (Nat.two_pow_pos _), show 2 * binade = 2 ^ 53 from rfl,
    ← Nat.pow_add]
  exact Nat.lt_of_lt_of_le Nat.lt_log2_self (Nat.pow_le_pow_right (by decide) (by omega))

theorem le_div_spacing {n : Nat} (h : n.log2 - 52 ≠ 0) : binade ≤ n / spacing n := by
  have hn : n ≠ 0 := by
    rintro rfl
    exact h (by simp)
  rw [spacing, Nat.le_div_iff_mul_le (Nat.two_pow_pos _), show binade = 2 ^ 52 from rfl,
    ← Nat.pow_add, show 52 + (n.log2 - 52) = n.log2 by omega]
  exact Nat.log2_self_le hn

theorem nearest_of_dvd {n : Nat} (h : spacing n ∣ n) : nearest n = n := by
  have hpos := spacing_pos n
  have hrest : n % spacing n = 0 := Nat.mod_eq_zero_of_dvd h
  unfold nearest
  simp only [hrest]
  rw [if_neg (by omega), Nat.div_mul_cancel h]

/-- Rounding does not pass a multiple of the spacing. -/
theorem le_nearest {g n : Nat} (hg : spacing n ∣ g) (h : g ≤ n) : g ≤ nearest n := by
  have hlow : g ≤ n / spacing n * spacing n := by
    obtain ⟨k, rfl⟩ := hg
    rw [Nat.mul_comm]
    refine Nat.mul_le_mul_right _ ((Nat.le_div_iff_mul_le (spacing_pos n)).mpr ?_)
    rwa [Nat.mul_comm]
  unfold nearest
  dsimp only
  split
  · exact Nat.le_trans hlow (Nat.mul_le_mul_right _ (Nat.le_succ _))
  · exact hlow

theorem nearest_le {g n : Nat} (hg : spacing n ∣ g) (h : n ≤ g) : nearest n ≤ g := by
  rcases Nat.eq_or_lt_of_le h with rfl | hlt
  · rw [nearest_of_dvd hg]
  · have hhigh : (n / spacing n + 1) * spacing n ≤ g := by
      obtain ⟨k, rfl⟩ := hg
      rw [Nat.mul_comm (spacing n) k] at hlt ⊢
      exact Nat.mul_le_mul_right _ ((Nat.div_lt_iff_lt_mul (spacing_pos n)).mpr hlt)
    unfold nearest
    dsimp only
    split
    · exact hhigh
    · exact Nat.le_trans (Nat.mul_le_mul_right _ (Nat.le_succ _)) hhigh

theorem nearest_mono_of_spacing_eq {m n : Nat} (hspacing : spacing m = spacing n) (h : m ≤ n) :
    nearest m ≤ nearest n := by
  by_cases hgrid : m ≤ n / spacing n * spacing n
  · have hdvd : spacing n ∣ n / spacing n * spacing n := Nat.dvd_mul_left ..
    exact Nat.le_trans (nearest_le (hspacing ▸ hdvd) hgrid)
      (le_nearest hdvd (Nat.div_mul_le_self ..))
  · -- both lie between the same two multiples
    have hlow : m / spacing n = n / spacing n :=
      Nat.le_antisymm (Nat.div_le_div_right h)
        ((Nat.le_div_iff_mul_le (spacing_pos n)).mpr (by omega))
    have hrest : m % spacing n ≤ n % spacing n := by
      have hm := Nat.div_add_mod m (spacing n)
      have hn := Nat.div_add_mod n (spacing n)
      rw [hlow] at hm
      omega
    have hstep : n / spacing n * spacing n ≤ (n / spacing n + 1) * spacing n :=
      Nat.mul_le_mul_right _ (Nat.le_succ _)
    unfold nearest
    rw [hspacing, hlow]
    dsimp only
    split <;> split <;> omega

theorem nearest_mono {m n : Nat} (h : m ≤ n) : nearest m ≤ nearest n := by
  rcases Nat.eq_or_lt_of_le (log2_mono h) with hlog | hlog
  · exact nearest_mono_of_spacing_eq (by rw [spacing, spacing, hlog]) h
  · -- a power of two lies between, and it is a multiple of both spacings
    have hn : n ≠ 0 := by
      rintro rfl
      simp at hlog
    have hm : m ≤ 2 ^ n.log2 :=
      Nat.le_of_lt (Nat.lt_of_lt_of_le Nat.lt_log2_self (Nat.pow_le_pow_right (by decide) hlog))
    have hdvd : spacing n ∣ 2 ^ n.log2 := Nat.pow_dvd_pow 2 (Nat.sub_le ..)
    have hdvd' : spacing m ∣ 2 ^ n.log2 :=
      Nat.pow_dvd_pow 2 (Nat.le_trans (Nat.sub_le ..) (Nat.le_of_lt hlog))
    exact Nat.le_trans (nearest_le hdvd' hm) (le_nearest hdvd (Nat.log2_self_le hn))

/-- Rounding moves a number by half a step at most. -/
theorem nearest_close (n : Nat) :
    2 * nearest n ≤ 2 * n + spacing n ∧ 2 * n ≤ 2 * nearest n + spacing n := by
  have hn := Nat.div_add_mod' n (spacing n)
  have hrest := Nat.mod_lt n (spacing_pos n)
  have hstep : (n / spacing n + 1) * spacing n = n / spacing n * spacing n + spacing n :=
    Nat.succ_mul ..
  unfold nearest
  dsimp only
  split <;> omega

theorem nearest_pos {n : Nat} (h : 0 < n) : 0 < nearest n :=
  Nat.lt_of_lt_of_le (Nat.two_pow_pos n.log2)
    (le_nearest (Nat.pow_dvd_pow 2 (Nat.sub_le ..)) (Nat.log2_self_le (by omega)))

theorem nearest_zero : nearest 0 = 0 := nearest_of_dvd (Nat.dvd_zero _)

/-- Up to 53 bits a number is kept, and so is the first one with more. -/
theorem nearest_of_le {n : Nat} (h : n ≤ 2 ^ 53) : nearest n = n := by
  rcases Nat.eq_or_lt_of_le h with rfl | hlt
  · exact nearest_of_dvd (Nat.pow_dvd_pow 2 (by rw [Nat.log2_two_pow]; decide))
  · have hlog : n.log2 - 52 = 0 := by
      by_cases hn : n = 0
      · simp [hn]
      · have := (Nat.log2_lt hn).mpr hlt
        omega
    exact nearest_of_dvd (by rw [spacing, hlog]; exact Nat.one_dvd n)

theorem log2_mul_two_pow {n : Nat} (h : n ≠ 0) (k : Nat) : (n * 2 ^ k).log2 = n.log2 + k := by
  have hpos := Nat.two_pow_pos k
  rw [Nat.log2_eq_iff (Nat.mul_ne_zero h (by omega)), Nat.pow_add,
    show n.log2 + k + 1 = n.log2 + 1 + k by omega, Nat.pow_add]
  exact ⟨Nat.mul_le_mul_right _ (Nat.log2_self_le h), Nat.mul_lt_mul_of_pos_right Nat.lt_log2_self hpos⟩

theorem spacing_mul_two_pow {n : Nat} (h : 52 ≤ n.log2) (k : Nat) :
    spacing (n * 2 ^ k) = spacing n * 2 ^ k := by
  have hn : n ≠ 0 := by
    rintro rfl
    simp at h
  rw [spacing, log2_mul_two_pow hn, spacing, ← Nat.pow_add]
  congr 1
  omega

/-- Rounding commutes with a shift that leaves no fraction. -/
theorem nearest_mul_two_pow (n : Nat) {k : Nat} (hk : 52 ≤ k) :
    nearest (n * 2 ^ k) = nearest n * 2 ^ k := by
  by_cases hlarge : 52 ≤ n.log2
  · have hspacing := spacing_mul_two_pow hlarge k
    have hpos := Nat.two_pow_pos k
    have hup : spacing n * 2 ^ k < 2 * (n % spacing n * 2 ^ k) ↔ spacing n < 2 * (n % spacing n) := by
      rw [← Nat.mul_assoc, Nat.mul_lt_mul_right hpos]
    have htie : 2 * (n % spacing n * 2 ^ k) = spacing n * 2 ^ k ↔
        2 * (n % spacing n) = spacing n := by
      rw [← Nat.mul_assoc, Nat.mul_left_inj (by omega)]
    unfold nearest
    simp only [hspacing, Nat.mul_div_mul_right _ _ hpos, Nat.mul_mod_mul_right, hup, htie]
    split
    · exact (Nat.mul_assoc ..).symm
    · exact (Nat.mul_assoc ..).symm
  · -- both are exact
    by_cases hn : n = 0
    · simp [hn, nearest_zero]
    have hexact : n ≤ 2 ^ 53 := Nat.le_of_lt ((Nat.log2_lt hn).mp (by omega))
    rw [nearest_of_le hexact]
    refine nearest_of_dvd ?_
    rw [spacing, log2_mul_two_pow hn]
    exact Nat.dvd_trans (Nat.pow_dvd_pow 2 (by omega)) (Nat.dvd_mul_left ..)

-- ---------------------------------------------------------------------------
-- Ranks and values
-- ---------------------------------------------------------------------------

/-- The magnitude at the rank of a significand with an exponent. A significand of all ones may
be exceeded by one, which is the first of the next binade. -/
theorem units_add {s m : Nat} (hm : m ≤ 2 * binade) (hs : s = 0 ∨ binade ≤ m) :
    units (s * binade + m) = m * 2 ^ s := by
  have hbinade : 0 < binade := by decide
  by_cases hsmall : m < binade
  · obtain rfl : s = 0 := hs.resolve_right (by omega)
    simp [units, hsmall]
  rcases Nat.eq_or_lt_of_le hm with rfl | hlt
  · have hrank : s * binade + 2 * binade = (s + 2) * binade := by ring
    rw [units, if_neg (by omega), hrank, Nat.mul_mod_left, Nat.mul_div_left _ hbinade,
      Nat.shiftLeft_eq, show s + 2 - 1 = s + 1 by omega, Nat.pow_succ]
    ring
  · have hrank : s * binade + m = (m - binade) + (s + 1) * binade := by
      rw [Nat.succ_mul]
      omega
    rw [units, if_neg (by omega), hrank, Nat.add_mul_mod_self_right,
      Nat.add_mul_div_right _ _ hbinade, Nat.mod_eq_of_lt (by omega),
      Nat.div_eq_of_lt (by omega), Nat.shiftLeft_eq, show binade + (m - binade) = m by omega,
      show 0 + (s + 1) - 1 = s by omega]

/-- Every rank is that of a significand with an exponent. -/
theorem exists_significand (r : Nat) :
    ∃ s m, r = s * binade + m ∧ m < 2 * binade ∧ (s = 0 ∨ binade ≤ m) := by
  have hbinade : 0 < binade := by decide
  by_cases hr : r < binade
  · exact ⟨0, r, by simp, by omega, .inl rfl⟩
  · refine ⟨r / binade - 1, binade + r % binade, ?_, ?_, .inr (Nat.le_add_right ..)⟩
    · have hdiv := Nat.div_add_mod' r binade
      have hpos : 0 < r / binade := Nat.div_pos (by omega) hbinade
      have hpred : (r / binade - 1 + 1) * binade = r / binade * binade := by
        rw [show r / binade - 1 + 1 = r / binade by omega]
      rw [Nat.succ_mul] at hpred
      omega
    · have hmod := Nat.mod_lt r hbinade
      omega

theorem units_strictMono : StrictMono units := by
  refine strictMono_nat_of_lt_succ fun r => ?_
  obtain ⟨s, m, rfl, hm, hs⟩ := exists_significand r
  rw [units_add (Nat.le_of_lt hm) hs, Nat.add_assoc, units_add hm (hs.imp id (by omega))]
  exact Nat.mul_lt_mul_of_pos_right (Nat.lt_succ_self m) (Nat.two_pow_pos s)

theorem units_nearestRank (n : Nat) : units (nearestRank n 1) = nearest (n * one) := by
  unfold nearestRank nearest
  generalize n * one = w
  dsimp only
  rw [Nat.div_one, Nat.mod_one, Nat.mul_one, Nat.mul_one, Nat.add_zero, Nat.one_shiftLeft,
    show 2 ^ (w.log2 - 52) = spacing w from rfl]
  have hlt := div_spacing_lt w
  have hnormal : w.log2 - 52 = 0 ∨ binade ≤ w / spacing w := or_iff_not_imp_left.mpr le_div_spacing
  have hparity : ((w.log2 - 52) * binade + w / spacing w) % 2 = w / spacing w % 2 := by
    simp only [binade]
    omega
  rw [hparity]
  split
  · rw [Nat.add_assoc, units_add hlt (hnormal.imp id (by omega)), spacing]
  · rw [units_add (Nat.le_of_lt hlt) hnormal, spacing]

-- ---------------------------------------------------------------------------
-- Comparison by value
-- ---------------------------------------------------------------------------

theorem one_pos : 0 < one := by decide

theorem nearest_mul_one (n : Nat) : nearest (n * one) = nearest n * one := by
  obtain ⟨k, hk, hone⟩ : ∃ k, 52 ≤ k ∧ one = 1 <<< k := ⟨1074, by decide, rfl⟩
  rw [hone, Nat.one_shiftLeft]
  exact nearest_mul_two_pow n hk

/-- The value, counted in units of `2 ^ -1074`. -/
def value (x : Binary64) : Int := if x.negative then -(units x.rank : Int) else units x.rank

/-- The nearest integer of 53 significant bits. -/
def rounded (i : Int) : Int := if i < 0 then -(nearest i.natAbs : Int) else nearest i.natAbs

theorem compare_congr {a b c d : Int} (hlt : a < b ↔ c < d) (hgt : b < a ↔ d < c) :
    compare a b = compare c d := by
  rcases Int.lt_trichotomy a b with h | h | h
  · rw [Int.compare_eq_lt.mpr h, Int.compare_eq_lt.mpr (hlt.mp h)]
  · rw [Int.compare_eq_eq.mpr h, Int.compare_eq_eq.mpr (by omega)]
  · rw [Int.compare_eq_gt.mpr h, Int.compare_eq_gt.mpr (hgt.mp h)]

theorem units_pos {r : Nat} : 0 < units r ↔ 0 < r := by
  have hzero : units 0 = 0 := by simp [units]
  have h : units 0 < units r ↔ 0 < r := units_strictMono.lt_iff_lt
  rwa [hzero] at h

theorem key_lt {x y : Binary64} : x.key < y.key ↔ x.value < y.value := by
  have hxy : units x.rank < units y.rank ↔ x.rank < y.rank := units_strictMono.lt_iff_lt
  have hyx : units y.rank < units x.rank ↔ y.rank < x.rank := units_strictMono.lt_iff_lt
  have hx := units_pos (r := x.rank)
  have hy := units_pos (r := y.rank)
  unfold key value
  split <;> split <;> omega

/-- Only the negative zero stands apart from a number of equal value. -/
theorem totalKey_lt {x y : Binary64} (hx : x.negative = true → 0 < x.rank)
    (hy : y.negative = true → 0 < y.rank) : x.totalKey < y.totalKey ↔ x.key < y.key := by
  unfold totalKey key
  split
  · next hneg =>
    have := hx hneg
    split <;> omega
  · split
    · next hneg =>
      have := hy hneg
      omega
    · omega

theorem value_ofInt (i : Int) (h : i.natAbs ≤ 0x10000000000000000) :
    (ofInt i h).value = rounded i * one := by
  unfold value ofInt rounded
  simp only [decide_eq_true_eq, units_nearestRank, nearest_mul_one]
  split
  · rw [Nat.cast_mul, Int.neg_mul]
  · rw [Nat.cast_mul]

/-- The number nearest to an integer: its value is the integer rounded to 53 significant bits,
of two equally near the even one. -/
def nearestTo (i : Int) (h : i.natAbs ≤ 0x10000000000000000) :
    { x : Binary64 // x.value = rounded i * one } :=
  ⟨ofInt i h, value_ofInt i h⟩

section
variable {i j : Int} (hi : i.natAbs ≤ 0x10000000000000000) (hj : j.natAbs ≤ 0x10000000000000000)

theorem key_ofInt_lt : (ofInt i hi).key < (ofInt j hj).key ↔ rounded i < rounded j := by
  rw [key_lt, value_ofInt, value_ofInt]
  exact Int.mul_lt_mul_right (Int.natCast_pos.mpr one_pos)

/-- Two integers compare as the integers that they are rounded to. -/
theorem compare_key_ofInt :
    compare (ofInt i hi).key (ofInt j hj).key = compare (rounded i) (rounded j) :=
  compare_congr (key_ofInt_lt hi hj) (key_ofInt_lt hj hi)

theorem rank_ofInt_pos (h : (ofInt i hi).negative = true) : 0 < (ofInt i hi).rank := by
  have hneg : i < 0 := of_decide_eq_true h
  rw [← units_pos, ofInt, units_nearestRank]
  exact nearest_pos (Nat.mul_pos (by omega) one_pos)

/-- No integer is the negative zero. -/
theorem compare_totalKey_ofInt :
    compare (ofInt i hi).totalKey (ofInt j hj).totalKey = compare (rounded i) (rounded j) := by
  rw [← compare_key_ofInt hi hj]
  have hposi := rank_ofInt_pos hi
  have hposj := rank_ofInt_pos hj
  exact compare_congr (totalKey_lt hposi hposj) (totalKey_lt hposj hposi)

end

-- ---------------------------------------------------------------------------
-- Rounded integers
-- ---------------------------------------------------------------------------

theorem rounded_mono {i j : Int} (h : i ≤ j) : rounded i ≤ rounded j := by
  unfold rounded
  split <;> split
  · have := nearest_mono (show j.natAbs ≤ i.natAbs by omega)
    omega
  · omega
  · omega
  · have := nearest_mono (show i.natAbs ≤ j.natAbs by omega)
    omega

theorem rounded_of_natAbs_le {i : Int} (h : i.natAbs ≤ 2 ^ 53) : rounded i = i := by
  unfold rounded
  rw [nearest_of_le h]
  omega

/-- Among 64 bits the steps are of 2048 at most. -/
theorem rounded_close {i : Int} (h : i.natAbs < 0x10000000000000000) :
    2 * rounded i ≤ 2 * i + 2048 ∧ 2 * i ≤ 2 * rounded i + 2048 := by
  have hspacing : spacing i.natAbs ≤ 2048 := by
    have hlog : i.natAbs.log2 ≤ 63 := by
      by_cases hzero : i.natAbs = 0
      · simp [hzero]
      · have := (Nat.log2_lt hzero).mpr (show i.natAbs < 2 ^ 64 from h)
        omega
    exact Nat.pow_le_pow_right (n := 2) (by decide) (show i.natAbs.log2 - 52 ≤ 11 by omega)
  have hclose := nearest_close i.natAbs
  unfold rounded
  split <;> omega

end RecordQuery.Binary64
