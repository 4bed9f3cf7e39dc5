import Mathlib.Algebra.BigOperators.Group.List.Basic
import Mathlib.Algebra.Order.Ring.Int
import Mathlib.Order.Compare
import RecordQuery.Instant.Basic

/-!
# Counting time

Dates and times of the day as the calendar has them, and the nanoseconds that have passed since
the year 0 began, counted year by year and month by month. An instant holds the same count in
three parts, and instants are ordered as their counts.
-/

namespace RecordQuery.Instant

-- ---------------------------------------------------------------------------
-- Days
-- ---------------------------------------------------------------------------

/-- A day of a year of at most four digits. There are no days past the twelfth month. -/
structure Date where
  year : Nat
  month : Nat
  day : Nat
  year_lt : year < 10000
  month_pos : 1 ≤ month
  day_pos : 1 ≤ day
  day_le : day ≤ (monthLengths year).getD (month - 1) 0

def yearLength (year : Nat) : Nat := (monthLengths year).sum

/-- The days of all years before. -/
def daysUpTo : Nat → Nat
  | 0 => 0
  | year + 1 => daysUpTo year + yearLength year

/-- The days since the first one of year 0. -/
def Date.number (d : Date) : Nat :=
  daysUpTo d.year + ((monthLengths d.year).take (d.month - 1)).sum + (d.day - 1)

theorem yearLength_eq (year : Nat) : yearLength year = if isLeap year then 366 else 365 := by
  unfold yearLength monthLengths
  cases isLeap year <;> rfl

/-- The closed form has the days of year 0 below its origin. -/
theorem daysBefore_eq (year : Nat) : daysBefore year = daysUpTo year - 366 := by
  induction year with
  | zero => rfl
  | succ year ih =>
    have hstep : daysBefore (year + 1 : Nat) = daysBefore year + yearLength year := by
      rw [yearLength_eq]
      by_cases hleap : isLeap year = true
      · rw [if_pos hleap]
        simp [isLeap] at hleap
        simp only [daysBefore]
        omega
      · rw [if_neg hleap]
        simp [isLeap] at hleap
        simp only [daysBefore]
        omega
    rw [hstep, ih, daysUpTo]
    omega

/-- The month of a date is in the list of months. -/
theorem Date.monthLength (d : Date) :
    ∃ length, (monthLengths d.year)[d.month - 1]? = some length ∧ d.day ≤ length := by
  have hpos := d.day_pos
  have hle := d.day_le
  rw [List.getD_eq_getElem?_getD] at hle
  cases hlength : (monthLengths d.year)[d.month - 1]? with
  | none =>
    rw [hlength, Option.getD_none] at hle
    omega
  | some length => exact ⟨length, rfl, by rwa [hlength, Option.getD_some] at hle⟩

theorem Date.month_lt (d : Date) : d.month < 100 := by
  obtain ⟨length, hlength, -⟩ := d.monthLength
  have hmonth : d.month - 1 < 12 := (List.getElem?_eq_some_iff.mp hlength).1
  omega

theorem Date.day_lt (d : Date) : d.day < 100 := by
  obtain ⟨length, hlength, hday⟩ := d.monthLength
  have hlengths : ∀ n ∈ monthLengths d.year, n < 100 := by
    unfold monthLengths
    cases isLeap d.year <;> decide
  exact hday.trans_lt (hlengths length (List.mem_of_getElem? hlength))

theorem day?_date (d : Date) : day? d.year d.month d.day = some ((d.number : Int) - 366) := by
  obtain ⟨length, hlength, hday⟩ := d.monthLength
  have hyear := d.year_lt
  have hrange : -262143 ≤ (d.year : Int) ∧ (d.year : Int) ≤ 262142 ∧ 1 ≤ d.month ∧ 1 ≤ d.day :=
    ⟨by omega, by omega, d.month_pos, d.day_pos⟩
  rw [day?, if_pos hrange, hlength]
  simp only [if_pos hday, Option.some.injEq]
  rw [daysBefore_eq, daysBeforeMonth, ← List.sum_eq_foldl_nat, Date.number]
  omega

-- ---------------------------------------------------------------------------
-- Moments
-- ---------------------------------------------------------------------------

/-- A time of the day, no leap second. -/
structure Clock where
  hour : Nat
  minute : Nat
  second : Nat
  nano : Nat
  hour_lt : hour < 24
  minute_lt : minute < 60
  second_lt : second < 60
  nano_lt : nano < 1000000000

def Clock.midnight : Clock := ⟨0, 0, 0, 0, by decide, by decide, by decide, by decide⟩

theorem Clock.two_digits (t : Clock) : t.hour < 100 ∧ t.minute < 100 ∧ t.second < 100 := by
  have hhour := t.hour_lt
  have hminute := t.minute_lt
  have hsecond := t.second_lt
  omega

/-- The nanoseconds since the year 0 began. -/
def moment (d : Date) (t : Clock) : Int :=
  (((d.number * 24 + t.hour) * 60 + t.minute) * 60 + t.second) * 1000000000 + t.nano

/-- The same count for an instant; the first day of year 1 is the day 366 of that count. -/
def nanos (t : Instant) : Int := ((t.day + 366) * 86400 + t.second) * 1000000000 + t.nano

/-- The second is one of the day and not a leap second. -/
structure Regular (t : Instant) : Prop where
  second_nonneg : 0 ≤ t.second
  second_lt : t.second < 86400
  nano_lt : t.nano < 1000000000

/-- The instant of a date and a time in universal time. -/
def civil (d : Date) (t : Clock) : Instant :=
  ⟨(d.number : Int) - 366, t.hour * 3600 + t.minute * 60 + t.second, t.nano⟩

theorem ofCivil?_civil (d : Date) (t : Clock) :
    ofCivil? d.year d.month d.day t.hour t.minute t.second t.nano = some (civil d t) := by
  have hsecond := t.second_lt
  have hclock : t.hour < 24 ∧ t.minute < 60 ∧ t.second ≤ 60 :=
    ⟨t.hour_lt, t.minute_lt, by omega⟩
  rw [ofCivil?, if_pos hclock, day?_date]
  simp [civil, show t.second ≠ 60 by omega]

theorem civil_regular (d : Date) (t : Clock) : (civil d t).Regular := by
  have hhour := t.hour_lt
  have hminute := t.minute_lt
  have hsecond := t.second_lt
  refine { second_nonneg := ?_, second_lt := ?_, nano_lt := t.nano_lt }
  · simp only [civil]
    omega
  · simp only [civil]
    omega

theorem nanos_civil (d : Date) (t : Clock) : (civil d t).nanos = moment d t := by
  simp only [nanos, civil, moment]
  omega

theorem Regular.minusSeconds {t : Instant} (h : t.Regular) (seconds : Int) :
    (t.minusSeconds seconds).Regular where
  second_nonneg := Int.emod_nonneg _ (by decide)
  second_lt := Int.emod_lt_of_pos _ (by decide)
  nano_lt := h.nano_lt

theorem nanos_minusSeconds (t : Instant) (seconds : Int) :
    (t.minusSeconds seconds).nanos = t.nanos - seconds * 1000000000 := by
  simp only [nanos, minusSeconds]
  omega

theorem order_eq {a b : Instant} (ha : a.Regular) (hb : b.Regular) :
    a.order b = compare a.nanos b.nanos := by
  have hfirst := And.intro ha.second_nonneg hb.second_nonneg
  have hlast := And.intro ha.second_lt hb.second_lt
  have hnano := And.intro ha.nano_lt hb.nano_lt
  refine ((compare_iff ..).mpr ?_).symm
  -- the first of the three parts that differs outweighs all that follow it
  cases horder : a.order b with
  | lt =>
    simp only [order, Ordering.then_eq_lt, Int.compare_eq_lt, Int.compare_eq_eq,
      Nat.compare_eq_lt] at horder
    simp only [Ordering.Compares, nanos]
    omega
  | eq =>
    simp only [order, Ordering.then_eq_eq, Int.compare_eq_eq, Nat.compare_eq_eq] at horder
    simp only [Ordering.Compares, nanos]
    omega
  | gt =>
    simp only [order, Ordering.then_eq_gt, Int.compare_eq_gt, Int.compare_eq_eq,
      Nat.compare_eq_gt] at horder
    simp only [Ordering.Compares, nanos]
    omega

end RecordQuery.Instant
