/-!
# Timestamps with an offset

A local date and time of day together with the offset from universal time. The offset is counted in
whole minutes, so times with seconds in their offset are left out: no text that is read has them, and
no zone that a clock is set to has had them since 1972. A leap second is the second 60 of its minute.
The type holds only dates that exist, within the years that are counted, and times whose universal
date is within them as well.
-/

namespace FiscalGateway.Time

/-- The rule of the Gregorian calendar. -/
def isLeapYear (year : Int) : Bool := year % 4 = 0 ∧ (year % 100 ≠ 0 ∨ year % 400 = 0)

/-- The length of a month. -/
def daysInMonth (year : Int) (month : Nat) : Nat :=
  if month = 2 then (if isLeapYear year then 29 else 28)
  else if month = 4 ∨ month = 6 ∨ month = 9 ∨ month = 11 then 30
  else 31

/-- Days before the first of a month, in a year that is no leap year. -/
def daysBeforeMonth : Nat → Nat
  | 0 | 1 => 0
  | month + 1 => daysBeforeMonth month + daysInMonth 1 month

/-- The number of a day, counted from the first of January of the year 0. -/
def dayNumber (year : Int) (month day : Nat) : Int :=
  let y := year - 1
  365 * year + y.fdiv 4 - y.fdiv 100 + y.fdiv 400 + 1 +
    (daysBeforeMonth month : Int) + (if month > 2 ∧ isLeapYear year then 1 else 0) + (day : Int) - 1

/-- The first year that is counted. -/
def minYear : Int := -262143

/-- The last year that is counted. -/
def maxYear : Int := 262142

/-- A day of the calendar. -/
structure Date where
  year : Int
  month : Nat
  day : Nat
  deriving DecidableEq, Repr, Inhabited

/-- Whether the day exists. -/
def Date.exists? (d : Date) : Bool :=
  minYear ≤ d.year ∧ d.year ≤ maxYear ∧ 1 ≤ d.month ∧ d.month ≤ 12 ∧
    1 ≤ d.day ∧ d.day ≤ daysInMonth d.year d.month

/-- A time of day; the second 60 is a leap second. -/
structure TimeOfDay where
  hour : Nat
  minute : Nat
  second : Nat
  nanosecond : Nat
  deriving DecidableEq, Repr, Inhabited

/-- Whether the time exists. -/
def TimeOfDay.exists? (t : TimeOfDay) : Bool :=
  t.hour < 24 ∧ t.minute < 60 ∧ t.second ≤ 60 ∧ t.nanosecond < 1000000000

/-- Seconds since the first of January of the year 0, by the local clock; a leap second counts as
the second before it. -/
def localSeconds (d : Date) (t : TimeOfDay) : Int :=
  dayNumber d.year d.month d.day * 86400 +
    (t.hour * 3600 + t.minute * 60 + min t.second 59 : Nat)

/-- Whether the universal date of a local time is within the years that are counted. -/
def inRange (d : Date) (t : TimeOfDay) (offset : Int) : Bool :=
  let s := localSeconds d t - offset * 60
  dayNumber minYear 1 1 * 86400 ≤ s ∧ s < (dayNumber maxYear 12 31 + 1) * 86400

/-- A local time and its offset in whole minutes, less than a day either way. -/
structure Timestamp where
  date : Date
  time : TimeOfDay
  offset : Int
  date_exists : date.exists? = true
  time_exists : time.exists? = true
  offset_bounded : -1440 < offset ∧ offset < 1440
  in_range : inRange date time offset = true
  deriving DecidableEq, Repr

namespace Timestamp

/-- A timestamp from its parts, if there is such a time. -/
def ofParts? (date : Date) (time : TimeOfDay) (offset : Int) : Option Timestamp :=
  if h : date.exists? = true ∧ time.exists? = true ∧ (-1440 < offset ∧ offset < 1440) ∧
      inRange date time offset = true then
    some ⟨date, time, offset, h.1, h.2.1, h.2.2.1, h.2.2.2⟩
  else none

/-- The instant in nanoseconds of universal time; a leap second follows on the second before it. -/
def instant (t : Timestamp) : Int :=
  (localSeconds t.date t.time - t.offset * 60) * 1000000000 +
    ((if t.time.second = 60 then 1000000000 else 0) + t.time.nanosecond : Nat)

/-- The second of universal time in which the instant lies. -/
def seconds (t : Timestamp) : Int := t.instant / 1000000000

/-- Drops what is below a whole second. -/
def truncate (t : Timestamp) : Timestamp :=
  { t with
    time := { t.time with nanosecond := 0 }
    time_exists := by
      have := t.time_exists
      simp_all [TimeOfDay.exists?]
    in_range := t.in_range }

end Timestamp
end FiscalGateway.Time
