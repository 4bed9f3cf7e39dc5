import Mathlib.Tactic.Ring
import RecordQuery.Number.Shortest
import RecordQuery.Proofs.Number.Rounding

/-!
# The shortest decimal reads back

A fraction is rounded to a number when it lies between the halfway points to the number's
neighbours. The decimal that is written for a number lies there: grids whose step is less than
half the distance to the next number have a point there, and one of those tried is so fine. Neither
closing zeros nor the early answers of the reader change what a decimal is read as.
-/

namespace RecordQuery

namespace Binary64

-- ---------------------------------------------------------------------------
-- The fractions that are rounded to a number
-- ---------------------------------------------------------------------------

/-- `num / den` lies between the halfway points to the neighbours of the number; a halfway
point itself goes to the number of even rank. -/
def RoundsTo (rank num den : Nat) : Prop :=
  let low := (units (rank - 1) + units rank) * den
  let high := (units rank + units (rank + 1)) * den
  if rank % 2 = 0 then low ≤ 2 * (num * one) ∧ 2 * (num * one) ≤ high
  else low < 2 * (num * one) ∧ 2 * (num * one) < high

theorem RoundsTo.lower {rank num den : Nat} (h : RoundsTo rank num den) :
    (units (rank - 1) + units rank) * den ≤ 2 * (num * one) := by
  unfold RoundsTo at h
  dsimp only at h
  split at h <;> omega

theorem RoundsTo.upper {rank num den : Nat} (h : RoundsTo rank num den) :
    2 * (num * one) ≤ (units rank + units (rank + 1)) * den := by
  unfold RoundsTo at h
  dsimp only at h
  split at h <;> omega

/-- The rank below a fraction, what the fraction has more than it, and which way that goes. -/
theorem exists_below (num : Nat) {den : Nat} (hden : 0 < den) :
    ∃ below gap rest, num * one = units below * den + rest ∧ rest < gap * den ∧
      units (below + 1) = units below + gap ∧
      nearestRank num den =
        if gap * den < 2 * rest ∨ (2 * rest = gap * den ∧ below % 2 = 1) then below + 1
        else below := by
  generalize hwhole : num * one / den = whole
  have hscaled : num * one = whole * den + num * one % den := by
    rw [← hwhole, Nat.div_add_mod']
  have hlast := Nat.mod_lt (num * one) hden
  have hsplit := Nat.div_add_mod' whole (spacing whole)
  have hrest := Nat.mod_lt whole (spacing_pos whole)
  have hlt := div_spacing_lt whole
  have hnormal : whole.log2 - 52 = 0 ∨ binade ≤ whole / spacing whole :=
    or_iff_not_imp_left.mpr le_div_spacing
  have hbelow : units ((whole.log2 - 52) * binade + whole / spacing whole) =
      whole / spacing whole * spacing whole := units_add (Nat.le_of_lt hlt) hnormal
  refine ⟨(whole.log2 - 52) * binade + whole / spacing whole, spacing whole,
    whole % spacing whole * den + num * one % den, ?_, ?_, ?_, ?_⟩
  · rw [hbelow, ← Nat.add_assoc, ← Nat.add_mul, hsplit]
    exact hscaled
  · calc whole % spacing whole * den + num * one % den
        < whole % spacing whole * den + den := Nat.add_lt_add_left hlast _
      _ = (whole % spacing whole + 1) * den := (Nat.succ_mul ..).symm
      _ ≤ spacing whole * den := Nat.mul_le_mul_right _ hrest
  · rw [hbelow, Nat.add_assoc, units_add hlt (hnormal.imp id (by omega)), Nat.succ_mul]
    rfl
  · unfold nearestRank
    simp only [hwhole, Nat.one_shiftLeft]
    rfl

theorem nearestRank_of_roundsTo {rank num den : Nat} (hden : 0 < den)
    (h : RoundsTo rank num den) : nearestRank num den = rank := by
  obtain ⟨below, gap, rest, hscaled, hrest, hnext, hnearest⟩ := exists_below num hden
  have hlow := h.lower
  have hhigh := h.upper
  have hlower : below ≤ rank := by
    by_contra! hlt
    have hrank : units rank < units below := units_strictMono hlt
    have hsucc : units (rank + 1) ≤ units below := units_strictMono.monotone hlt
    have hfar : (units rank + units (rank + 1)) * den < 2 * units below * den :=
      Nat.mul_lt_mul_of_pos_right (by omega) hden
    have : 2 * units below * den = 2 * (units below * den) := Nat.mul_assoc ..
    omega
  have hupper : rank ≤ below + 1 := by
    by_contra! hlt
    have hrank : units (below + 1) < units rank := units_strictMono hlt
    have hpred : units (below + 1) ≤ units (rank - 1) :=
      units_strictMono.monotone (show below + 1 ≤ rank - 1 by omega)
    have hfar : 2 * (units below + gap) * den < (units (rank - 1) + units rank) * den :=
      Nat.mul_lt_mul_of_pos_right (by omega) hden
    have : 2 * (units below + gap) * den = 2 * (units below * den) + 2 * (gap * den) := by ring
    omega
  have hmiddle : (units below + (units below + gap)) * den =
      2 * (units below * den) + gap * den := by ring
  rw [hnearest]
  unfold RoundsTo at h
  dsimp only at h
  obtain rfl | rfl : rank = below ∨ rank = below + 1 := by omega
  · rw [hnext, hmiddle] at h
    split at h <;> exact if_neg (by omega)
  · rw [Nat.add_sub_cancel, hnext, hmiddle] at h
    split at h <;> exact if_pos (by omega)

theorem roundsTo_scale {rank num den c : Nat} (hc : 0 < c) :
    RoundsTo rank (num * c) (den * c) ↔ RoundsTo rank num den := by
  have hhalf (a : Nat) : a * (den * c) = a * den * c := (Nat.mul_assoc ..).symm
  have hnum : 2 * (num * c * one) = 2 * (num * one) * c := by ring
  unfold RoundsTo
  simp only [hhalf, hnum, Nat.mul_le_mul_right_iff hc, Nat.mul_lt_mul_right hc]

/-- Only the quotient counts. -/
theorem RoundsTo.congr {rank num den num' den' : Nat} (hden : 0 < den) (hden' : 0 < den')
    (hcross : num * den' = num' * den) (h : RoundsTo rank num den) : RoundsTo rank num' den' := by
  rw [← roundsTo_scale hden, ← hcross, Nat.mul_comm den' den]
  exact (roundsTo_scale hden').mpr h

-- ---------------------------------------------------------------------------
-- Decimals that are read as a number
-- ---------------------------------------------------------------------------

/-- The decimal is rounded to the number of this rank. -/
def Reads (rank : Nat) (d : Decimal) : Prop :=
  RoundsTo rank (d.digits * 10 ^ d.exponent.toNat) (10 ^ (-d.exponent).toNat)

theorem ten_pow_pos (n : Nat) : 0 < 10 ^ n := Nat.pow_pos (by decide)

/-- Closing zeros of the digits may as well be in the exponent. -/
theorem reads_zeros {rank k z : Nat} {e : Int} :
    Reads rank ⟨k * 10 ^ z, e⟩ ↔ Reads rank ⟨k, e + z⟩ := by
  have hcross : k * 10 ^ z * 10 ^ e.toNat * 10 ^ (-(e + z)).toNat =
      k * 10 ^ (e + z).toNat * 10 ^ (-e).toNat := by
    simp only [Nat.mul_assoc, ← Nat.pow_add]
    congr 2
    omega
  constructor
  · exact RoundsTo.congr (ten_pow_pos _) (ten_pow_pos _) hcross
  · exact RoundsTo.congr (ten_pow_pos _) (ten_pow_pos _) hcross.symm

theorem two_pow_le_ten_pow (n : Nat) : 2 ^ (3 * n) ≤ 10 ^ n := by
  rw [Nat.pow_mul]
  exact Nat.pow_le_pow_left (by decide) n

theorem exists_one_eq : ∃ k, k = 1074 ∧ one = 2 ^ k := by
  obtain ⟨k, hk, hone⟩ : ∃ k, k = 1074 ∧ one = 1 <<< k := ⟨1074, rfl, rfl⟩
  exact ⟨k, hk, hone.trans (Nat.one_shiftLeft k)⟩

theorem exists_rankBound_eq : ∃ s, s = 2046 ∧ rankBound = (s + 1) * binade :=
  ⟨_, rfl, by decide⟩

/-- The first rank of a binade has a power of two. -/
theorem units_mul_binade (s : Nat) : units ((s + 1) * binade) = 2 ^ (52 + s) := by
  rw [Nat.succ_mul, units_add (by decide) (.inr (Nat.le_refl _)), Nat.pow_add]

/-- The number that would follow the last finite one is `2 ^ 1024`. -/
theorem units_rankBound_le {n k : Nat} (hk : 1024 ≤ k) (h : 2 ^ k ≤ n) :
    units rankBound ≤ n * one := by
  obtain ⟨j, hj, hone⟩ := exists_one_eq
  obtain ⟨s, hs, hbound⟩ := exists_rankBound_eq
  calc units rankBound = 2 ^ (52 + s) := by rw [hbound, units_mul_binade]
    _ ≤ 2 ^ (k + j) := Nat.pow_le_pow_right (by decide) (by omega)
    _ = 2 ^ k * one := by rw [hone, Nat.pow_add]
    _ ≤ n * one := Nat.mul_le_mul_right _ h

section
variable {rank : Nat} {d : Decimal}

theorem Reads.digits_ne_zero (h : Reads rank d) (hrank : 0 < rank) : d.digits ≠ 0 := by
  intro hzero
  have hlow := h.lower
  have hpos : 0 < (units (rank - 1) + units rank) * 10 ^ (-d.exponent).toNat :=
    Nat.mul_pos (Nat.add_pos_right _ (units_pos.mpr hrank)) (ten_pow_pos _)
  simp only [hzero, Nat.zero_mul, Nat.mul_zero] at hlow
  omega

/-- A decimal that is rounded to a finite number is not past them all. -/
theorem Reads.not_huge {k up : Nat} (h : Reads rank ⟨k, up⟩) (hrank : 0 < rank)
    (hfinite : rank < rankBound) : k.log2 + 3 * up < 1024 := by
  by_contra! hhuge
  have hvalue : 2 ^ (k.log2 + 3 * up) ≤ k * 10 ^ up := by
    rw [Nat.pow_add]
    exact Nat.mul_le_mul (Nat.log2_self_le (h.digits_ne_zero hrank)) (two_pow_le_ten_pow up)
  have hscaled := units_rankBound_le hhuge hvalue
  have hrankUnits : units rank < units rankBound := units_strictMono hfinite
  have hnextUnits : units (rank + 1) ≤ units rankBound := units_strictMono.monotone hfinite
  have hupper := h.upper
  simp only [Int.toNat_natCast, Int.toNat_neg_natCast, Nat.pow_zero, Nat.mul_one] at hupper
  omega

/-- A decimal that is rounded to a number other than zero is not too small to differ from it. -/
theorem Reads.not_tiny {k n : Nat} (h : Reads rank ⟨k, .negSucc n⟩) (hrank : 0 < rank) :
    3 * (n + 1) ≤ k.log2 + 1076 := by
  by_contra! htiny
  obtain ⟨j, hj, hone⟩ := exists_one_eq
  have hvalue : 2 * (k * one) < 10 ^ (n + 1) :=
    calc 2 * (k * one) < 2 * (2 ^ (k.log2 + 1) * one) :=
          Nat.mul_lt_mul_of_pos_left (Nat.mul_lt_mul_of_pos_right Nat.lt_log2_self one_pos)
            (by decide)
      _ = 2 ^ (k.log2 + 1 + j + 1) := by rw [hone, ← Nat.pow_add, Nat.pow_succ']
      _ ≤ 2 ^ (3 * (n + 1)) := Nat.pow_le_pow_right (by decide) (by omega)
      _ ≤ 10 ^ (n + 1) := two_pow_le_ten_pow (n + 1)
  have hunits : 1 * 10 ^ (n + 1) ≤ (units (rank - 1) + units rank) * 10 ^ (n + 1) :=
    Nat.mul_le_mul_right _ (Nat.add_pos_right _ (units_pos.mpr hrank))
  have hlower := h.lower
  simp only [Int.toNat_negSucc, Int.neg_negSucc, Nat.pow_zero, Nat.mul_one] at hlower
  have hexponent : ((n.succ : Int)).toNat = n + 1 := rfl
  rw [hexponent] at hlower
  omega

/-- A decimal is read as the number that it is rounded to. -/
theorem Reads.ofDecimal (h : Reads rank d) (hrank : 0 < rank) (hfinite : rank < rankBound)
    (negative : Bool) :
    Extended.ofDecimal negative d.digits d.exponent = .finite ⟨negative, rank, hfinite⟩ := by
  have hnonzero := h.digits_ne_zero hrank
  obtain ⟨k, exponent⟩ := d
  have hnearest : ∀ num den, 0 < den → RoundsTo rank num den →
      Extended.ofRank negative (nearestRank num den) = .finite ⟨negative, rank, hfinite⟩ := by
    intro num den hden hto
    simp only [nearestRank_of_roundsTo hden hto]
    exact dif_pos hfinite
  cases exponent with
  | ofNat up =>
    have hhuge := h.not_huge hrank hfinite
    simp only [Extended.ofDecimal, if_neg hnonzero, if_neg (Nat.not_le.mpr hhuge)]
    refine hnearest _ _ (by decide) ?_
    simpa [Reads] using h
  | negSucc n =>
    have htiny := h.not_tiny hrank
    simp only [Extended.ofDecimal, if_neg hnonzero, if_neg (Nat.not_lt.mpr htiny)]
    refine hnearest _ _ (ten_pow_pos _) ?_
    simpa [Reads] using h

end

-- ---------------------------------------------------------------------------
-- One grid
-- ---------------------------------------------------------------------------

section
variable {rank : Nat} {e : Int}

/-- What is found on a grid is read as the number, and the point above the number is found if it
is. -/
theorem onGrid?_spec (rank : Nat) (e : Int) :
    (∃ d, onGrid? rank e = some d ∧ Reads rank d) ∨
      onGrid? rank e = none ∧
        ¬ Reads rank ⟨units rank * 10 ^ (-e).toNat / (10 ^ e.toNat * one) + 1, e⟩ := by
  unfold onGrid?
  extract_lets up down value low high step reads k before after
  have hreads (k : Nat) : reads k = true ↔ Reads rank ⟨k, e⟩ := by
    have hpoint : 2 * k * step = 2 * (k * 10 ^ e.toNat * one) := by
      simp only [step, up, Nat.pow_eq, Nat.mul_assoc]
    simp only [reads, Reads, RoundsTo, hpoint]
    split <;> exact decide_eq_true_iff
  split
  · next hfirst => exact .inl ⟨_, rfl, (hreads _).mp (Bool.and_eq_true_iff.mp hfirst).1⟩
  · split
    · next hsecond => exact .inl ⟨_, rfl, (hreads _).mp hsecond⟩
    · next hsecond => exact .inr ⟨rfl, fun h => hsecond ((hreads _).mpr h)⟩

/-- The step of the grid is less than half the distance to the next number. -/
def Fine (rank : Nat) (e : Int) : Prop :=
  2 * (10 ^ e.toNat * one) < (units (rank + 1) - units rank) * 10 ^ (-e).toNat

/-- On a fine grid the point above the number is read as it. -/
theorem reads_above (hfine : Fine rank e) :
    Reads rank ⟨units rank * 10 ^ (-e).toNat / (10 ^ e.toNat * one) + 1, e⟩ := by
  have hstep : 0 < 10 ^ e.toNat * one := Nat.mul_pos (ten_pow_pos _) one_pos
  have hmono : units (rank - 1) ≤ units rank := units_strictMono.monotone (Nat.sub_le ..)
  have hnext : units rank < units (rank + 1) := units_strictMono (Nat.lt_succ_self _)
  unfold Fine at hfine
  unfold Reads RoundsTo
  dsimp only
  generalize 10 ^ (-e).toNat = down at *
  rw [Nat.mul_assoc _ (10 ^ e.toNat)]
  generalize 10 ^ e.toNat * one = step at *
  have hvalue := Nat.div_add_mod' (units rank * down) step
  have hrest := Nat.mod_lt (units rank * down) hstep
  have habove : (units rank * down / step + 1) * step = units rank * down / step * step + step :=
    Nat.succ_mul ..
  have hlow : (units (rank - 1) + units rank) * down ≤ 2 * (units rank * down) := by
    rw [← Nat.mul_assoc]
    exact Nat.mul_le_mul_right _ (by omega)
  have hhigh : (units rank + units (rank + 1)) * down =
      2 * (units rank * down) + (units (rank + 1) - units rank) * down := by
    rw [← Nat.mul_assoc, ← Nat.add_mul]
    congr 1
    omega
  split <;> omega

/-- The search comes to a hit when one of its grids is fine. -/
theorem reads_firstOnGrid {fuel i : Nat} (hi : i < fuel) (h : Fine rank (e - i)) :
    Reads rank (firstOnGrid rank fuel e) := by
  induction fuel generalizing e i with
  | zero => exact absurd hi (Nat.not_lt_zero _)
  | succ fuel ih =>
    unfold firstOnGrid
    rcases onGrid?_spec rank e with ⟨d, hd, hreads⟩ | ⟨hnone, hmiss⟩
    · rwa [hd]
    · rw [hnone]
      cases i with
      | zero => exact absurd (reads_above (by simpa using h)) hmiss
      | succ i =>
        refine ih (Nat.lt_of_succ_lt_succ hi) ?_
        rwa [show e - 1 - (i : Int) = e - (i + 1 : Nat) by omega]

end

-- ---------------------------------------------------------------------------
-- The grids tried
-- ---------------------------------------------------------------------------

/-- The distance to the next number: 53 bits are significant. -/
theorem two_pow_le_gap (rank : Nat) :
    2 ^ ((units rank).log2 - 52) ≤ units (rank + 1) - units rank := by
  obtain ⟨s, m, rfl, hm, hs⟩ := exists_significand rank
  rw [Nat.add_assoc, units_add hm (hs.imp id (by omega)), units_add (Nat.le_of_lt hm) hs,
    Nat.succ_mul, Nat.add_sub_cancel_left]
  refine Nat.pow_le_pow_right (by decide) ?_
  by_cases hzero : m = 0
  · simp [hzero]
  · have hlog : m.log2 < 53 := (Nat.log2_lt hzero).mpr hm
    rw [log2_mul_two_pow hzero]
    omega

theorem ten_pow_le_two_pow (n : Nat) : 10 ^ n ≤ 2 ^ (10 * (n / 3) + 4 * (n % 3)) :=
  calc 10 ^ n = (10 ^ 3) ^ (n / 3) * 10 ^ (n % 3) := by
        rw [← Nat.pow_mul, ← Nat.pow_add, Nat.div_add_mod]
    _ ≤ (2 ^ 10) ^ (n / 3) * (2 ^ 4) ^ (n % 3) :=
        Nat.mul_le_mul (Nat.pow_le_pow_left (by decide) _) (Nat.pow_le_pow_left (by decide) _)
    _ = 2 ^ (10 * (n / 3) + 4 * (n % 3)) := by rw [← Nat.pow_mul, ← Nat.pow_mul, ← Nat.pow_add]

theorem two_pow_le_ten_pow_sharp (n : Nat) : 2 ^ (33 * (n / 10) + 3 * (n % 10)) ≤ 10 ^ n :=
  calc 2 ^ (33 * (n / 10) + 3 * (n % 10)) = (2 ^ 33) ^ (n / 10) * (2 ^ 3) ^ (n % 10) := by
        rw [← Nat.pow_mul, ← Nat.pow_mul, ← Nat.pow_add]
    _ ≤ (10 ^ 10) ^ (n / 10) * 10 ^ (n % 10) :=
        Nat.mul_le_mul (Nat.pow_le_pow_left (by decide) _) (Nat.pow_le_pow_left (by decide) _)
    _ = 10 ^ n := by rw [← Nat.pow_mul, ← Nat.pow_add, Nat.div_add_mod]

theorem log2_units_lt {rank : Nat} (hfinite : rank < rankBound) : (units rank).log2 < 2098 := by
  obtain ⟨s, hs, hbound⟩ := exists_rankBound_eq
  have hlt : units rank < 2 ^ (52 + s) := by
    rw [← units_mul_binade, ← hbound]
    exact units_strictMono hfinite
  by_cases hzero : units rank = 0
  · simp [hzero]
  · have := (Nat.log2_lt hzero).mpr hlt
    omega

/-- The last grid tried is fine enough for every finite number. -/
theorem last_grid_fine {rank : Nat} (hfinite : rank < rankBound) {e : Int}
    (he : e = ((units rank).log2 - 1074 : Int) * 30103 / 100000 + 2 - 21) : Fine rank e := by
  have hlog := log2_units_lt hfinite
  have hgap := two_pow_le_gap rank
  obtain ⟨j, hj, hone⟩ := exists_one_eq
  unfold Fine
  generalize (units rank).log2 = bits at *
  rcases Int.le_total 0 e with hsign | hsign
  · have hlast : (-e).toNat = 0 := by omega
    calc 2 * (10 ^ e.toNat * one)
        ≤ 2 * (2 ^ (10 * (e.toNat / 3) + 4 * (e.toNat % 3)) * one) :=
          Nat.mul_le_mul_left _ (Nat.mul_le_mul_right _ (ten_pow_le_two_pow _))
      _ = 2 ^ (10 * (e.toNat / 3) + 4 * (e.toNat % 3) + j + 1) := by
          rw [hone, ← Nat.pow_add, Nat.pow_succ']
      _ < 2 ^ (bits - 52) := Nat.pow_lt_pow_right (by decide) (by omega)
      _ ≤ (units (rank + 1) - units rank) * 10 ^ (-e).toNat := by
          rwa [hlast, Nat.pow_zero, Nat.mul_one]
  · generalize hn : (-e).toNat = n
    have hfirst : e.toNat = 0 := by omega
    calc 2 * (10 ^ e.toNat * one) = 2 ^ (j + 1) := by
          rw [hfirst, Nat.pow_zero, Nat.one_mul, hone, Nat.pow_succ']
      _ < 2 ^ (bits - 52 + (33 * (n / 10) + 3 * (n % 10))) :=
          Nat.pow_lt_pow_right (by decide) (by omega)
      _ = 2 ^ (bits - 52) * 2 ^ (33 * (n / 10) + 3 * (n % 10)) := Nat.pow_add ..
      _ ≤ (units (rank + 1) - units rank) * 10 ^ n :=
          Nat.mul_le_mul hgap (two_pow_le_ten_pow_sharp n)

/-- The decimal that is written for a number is read as it. -/
theorem reads_shortest {rank : Nat} (hrank : 0 < rank) (hfinite : rank < rankBound) :
    Reads rank (shortest rank) := by
  unfold shortest
  rw [if_neg (by omega)]
  exact reads_firstOnGrid (i := 21) (by decide) (last_grid_fine hfinite rfl)

end Binary64
end RecordQuery
