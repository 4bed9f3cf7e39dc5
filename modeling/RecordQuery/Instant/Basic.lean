/-!
# Instants

A point of civil time in universal time: the day, the second of the day and the
nanosecond of the second. A leap second is the last second of its minute with a
nanosecond past `10 ^ 9`, so it comes after that second and before the next minute.
-/

namespace RecordQuery

structure Instant where
  day : Int
  second : Int
  nano : Nat
  deriving DecidableEq

namespace Instant

def order (a b : Instant) : Ordering :=
  (compare a.day b.day).then ((compare a.second b.second).then (compare a.nano b.nano))

-- ---------------------------------------------------------------------------
-- The calendar
-- ---------------------------------------------------------------------------

def isLeap (year : Int) : Bool := year % 4 == 0 && (year % 100 != 0 || year % 400 == 0)

def monthLengths (year : Int) : List Nat :=
  [31, if isLeap year then 29 else 28, 31, 30, 31, 30, 31, 31, 30, 31, 30, 31]

/-- The days from the first day of year 1 to that of the given year. -/
def daysBefore (year : Int) : Int :=
  let y := year - 1
  365 * y + y / 4 - y / 100 + y / 400

/-- The days of the year before the month of this number. -/
def daysBeforeMonth (year : Int) (month : Nat) : Nat :=
  ((monthLengths year).take (month - 1)).foldl (· + ·) 0

/-- The number of a day, counted from the first day of year 1; nothing for a date that
the calendar does not have or for a year too far away. -/
def day? (year : Int) (month day : Nat) : Option Int :=
  if -262143 ≤ year ∧ year ≤ 262142 ∧ 1 ≤ month ∧ 1 ≤ day then
    match (monthLengths year)[month - 1]? with
    | some length =>
      if day ≤ length then
        some (daysBefore year + (daysBeforeMonth year month + (day - 1) : Nat))
      else none
    | none => none
  else none

/-- The time of a day; second 60 is the leap second after second 59. -/
def ofCivil? (year : Int) (month day hour minute second nano : Nat) : Option Instant :=
  if hour < 24 ∧ minute < 60 ∧ second ≤ 60 then do
    let d ← day? year month day
    let base : Int := hour * 3600 + minute * 60
    if second = 60 then return ⟨d, base + 59, nano + 1000000000⟩
    else return ⟨d, base + second, nano⟩
  else none

/-- The same nanosecond so many seconds earlier. -/
def minusSeconds (t : Instant) (seconds : Int) : Instant :=
  let total := t.second - seconds
  ⟨t.day + total / 86400, total % 86400, t.nano⟩

end Instant

end RecordQuery
