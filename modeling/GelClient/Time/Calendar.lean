import GelClient.Time.Basic

/-!
# The calendar

Points in time on the proleptic Gregorian calendar, whose years run from -9999 to 9999, with
clock times in nanoseconds. A count of microseconds reaches far past these years; turning it
into a calendar date gives the first or the last point in time where it does. A time of day
counts modulo one day. In the other direction nanoseconds are cut toward zero to microseconds,
and a span that is too long is cut to the longest one that can be counted.
-/

namespace GelClient

/-- A date of the calendar; months and days count from one. -/
structure CalendarDate where
  year : Int
  month : Nat
  day : Nat
  deriving DecidableEq, Repr

/-- A time of day. -/
structure ClockTime where
  hour : Nat
  minute : Nat
  second : Nat
  nanosecond : Nat
  deriving DecidableEq, Repr

/-- A date and a time of day. -/
structure CalendarDatetime where
  date : CalendarDate
  time : ClockTime
  deriving DecidableEq, Repr

/-- A span of whole seconds and of nanoseconds, of which both have the sign of the span. -/
structure Span where
  seconds : Int
  nanoseconds : Int
  deriving DecidableEq, Repr

/-- The number of nanoseconds in a day. -/
def nanosPerDay : Int := 86400000000000

/-- The number of microseconds in a day. -/
def microsPerDay : Int := 86400000000

/-- The bound closest to a number that is not between two bounds, and else the number. -/
def clamp (low high n : Int) : Int :=
  if n < low then low else if high < n then high else n

/-- A count of nanoseconds in whole microseconds, cut toward zero, and then to 64 bits. -/
def microsOfNanos (nanos : Int) : Int64 :=
  Int64.ofInt (clamp Int64.minValue.toInt Int64.maxValue.toInt (nanos.tdiv 1000))

/-- Whether a year has a leap day. -/
def isLeapYear (year : Int) : Bool :=
  year % 4 == 0 && (year % 100 != 0 || year % 400 == 0)

/-- The lengths of the months of a year. -/
def monthLengths (year : Int) : List Nat :=
  [31, if isLeapYear year then 29 else 28, 31, 30, 31, 30, 31, 31, 30, 31, 30, 31]

/-- The days from the start of the year zero to the start of a year. -/
def daysBeforeYear (year : Int) : Int :=
  365 * year + (year + 3) / 4 - (year + 99) / 100 + (year + 399) / 400

/-- The year of a day that is counted from the start of the year zero. The average length of a
year leads to a guess that is off by at most one. -/
def yearOfDay (day : Int) : Int :=
  let guess := day * 400 / 146097
  if day < daysBeforeYear guess then guess - 1
  else if daysBeforeYear (guess + 1) ≤ day then guess + 1
  else guess

/-- The month and the day of the month of a day of the year, counted from zero, where the months
from the given one on have the given lengths. -/
def monthAndDay (month : Nat) : (lengths : List Nat) → (day : Nat) → Nat × Nat
  | [], day => (month, day + 1)
  | [_], day => (month, day + 1)
  | length :: rest, day =>
    if day < length then (month, day + 1) else monthAndDay (month + 1) rest (day - length)

/-- The day of the epoch, counted from the start of the year zero. -/
def epochDay : Int := daysBeforeYear 2000

namespace CalendarDate

/-- The date of a day, counted from the epoch. -/
def ofDay (day : Int) : CalendarDate :=
  let day := day + epochDay
  let year := yearOfDay day
  let (month, dayOfMonth) :=
    monthAndDay 1 (monthLengths year) (day - daysBeforeYear year).toNat
  { year, month, day := dayOfMonth }

/-- The day of a date, counted from the epoch. -/
def toDay (d : CalendarDate) : Int :=
  daysBeforeYear d.year + ((monthLengths d.year).take (d.month - 1)).sum + d.day - 1 - epochDay

/-- The first day of the calendar. -/
def firstDay : Int := daysBeforeYear (-9999) - epochDay

/-- The last day of the calendar. -/
def lastDay : Int := daysBeforeYear 10000 - 1 - epochDay

end CalendarDate

namespace ClockTime

/-- The time of day after a number of nanoseconds since midnight. -/
def ofNanos (nanos : Nat) : ClockTime :=
  { hour := nanos / 3600000000000, minute := nanos / 60000000000 % 60
    second := nanos / 1000000000 % 60, nanosecond := nanos % 1000000000 }

/-- The nanoseconds since midnight. -/
def toNanos (t : ClockTime) : Nat :=
  ((t.hour * 60 + t.minute) * 60 + t.second) * 1000000000 + t.nanosecond

end ClockTime

namespace CalendarDatetime

/-- The first point in time of the calendar, in nanoseconds since the epoch. -/
def firstNano : Int := CalendarDate.firstDay * nanosPerDay

/-- The last point in time of the calendar, in nanoseconds since the epoch. -/
def lastNano : Int := (CalendarDate.lastDay + 1) * nanosPerDay - 1

/-- The point in time of the calendar closest to a count of nanoseconds since the epoch. -/
def ofNanos (nanos : Int) : CalendarDatetime :=
  let nanos := clamp firstNano lastNano nanos
  { date := .ofDay (nanos / nanosPerDay), time := .ofNanos (nanos % nanosPerDay).toNat }

/-- The nanoseconds from the epoch to a point in time. -/
def toNanos (t : CalendarDatetime) : Int :=
  t.date.toDay * nanosPerDay + t.time.toNanos

end CalendarDatetime

namespace Datetime

/-- The point in time of the calendar in UTC. -/
def toCalendar (t : Datetime) : CalendarDatetime := .ofNanos (t.micros.toInt * 1000)

/-- The point in time of the calendar at an offset from UTC in seconds; none if in UTC it is not
on the calendar. -/
def ofCalendar? (t : CalendarDatetime) (offsetSeconds : Int) : Option Datetime :=
  let nanos := t.toNanos - offsetSeconds * 1000000000
  if nanos < CalendarDatetime.firstNano ∨ CalendarDatetime.lastNano < nanos then none
  else some ⟨microsOfNanos nanos⟩

end Datetime

namespace LocalDatetime

/-- The point in time of the calendar. -/
def toCalendar (t : LocalDatetime) : CalendarDatetime := .ofNanos (t.micros.toInt * 1000)

/-- The count of a point in time of the calendar. -/
def ofCalendar (t : CalendarDatetime) : LocalDatetime := ⟨microsOfNanos t.toNanos⟩

end LocalDatetime

namespace LocalDate

/-- The date of the calendar closest to a day. -/
def toCalendar (d : LocalDate) : CalendarDate :=
  .ofDay (clamp CalendarDate.firstDay CalendarDate.lastDay d.days.toInt)

/-- The count of a date of the calendar. -/
def ofCalendar (d : CalendarDate) : LocalDate := ⟨Int32.ofInt d.toDay⟩

end LocalDate

namespace LocalTime

/-- The time of day, counted modulo one day. -/
def toClock (t : LocalTime) : ClockTime :=
  .ofNanos ((t.micros.toInt % microsPerDay).toNat * 1000)

/-- The count of a time of day. -/
def ofClock (t : ClockTime) : LocalTime := ⟨microsOfNanos t.toNanos⟩

end LocalTime

namespace Span

/-- The span of a number of nanoseconds. -/
def ofNanos (nanos : Int) : Span :=
  { seconds := nanos.tdiv 1000000000, nanoseconds := nanos.tmod 1000000000 }

/-- The number of nanoseconds of a span. -/
def toNanos (s : Span) : Int := s.seconds * 1000000000 + s.nanoseconds

/-- The span of a sum of seconds and nanoseconds; none if its seconds exceed 64 bits. -/
def ofParts? (seconds : Int64) (nanoseconds : Int32) : Option Span :=
  let whole := seconds.toInt + nanoseconds.toInt.tdiv 1000000000
  if whole < Int64.minValue.toInt ∨ Int64.maxValue.toInt < whole then none
  else some (ofNanos (seconds.toInt * 1000000000 + nanoseconds.toInt))

end Span

namespace Duration

/-- The exact span. -/
def toSpan (d : Duration) : Span := .ofNanos (d.micros.toInt * 1000)

/-- The count of a span. -/
def ofSpan (s : Span) : Duration := ⟨microsOfNanos s.toNanos⟩

end Duration

/-- A clamped number is between its bounds. -/
theorem clamp_mem {low high : Int} (h : low ≤ high) (n : Int) :
    low ≤ clamp low high n ∧ clamp low high n ≤ high := by
  unfold clamp
  split
  · omega
  · split <;> omega

/-- A number between the bounds is not changed. -/
theorem clamp_eq_self {low high n : Int} (hl : low ≤ n) (hh : n ≤ high) :
    clamp low high n = n := by
  unfold clamp
  split
  · omega
  · split <;> omega

/-- A day lies between the start of its year and the start of the next one. -/
theorem yearOfDay_bounds (day : Int) :
    daysBeforeYear (yearOfDay day) ≤ day ∧ day < daysBeforeYear (yearOfDay day + 1) := by
  have low : daysBeforeYear (day * 400 / 146097 - 1) ≤ day := by
    unfold daysBeforeYear
    omega
  have high : day < daysBeforeYear (day * 400 / 146097 + 2) := by
    unfold daysBeforeYear
    omega
  unfold yearOfDay
  simp only
  split
  · exact ⟨low, by simpa using ‹_›⟩
  · split
    · exact ⟨‹_›, by simpa [Int.add_assoc] using high⟩
    · exact ⟨by omega, by omega⟩

/-- The clock shows the nanoseconds that it was set to. -/
@[simp]
theorem ClockTime.toNanos_ofNanos (nanos : Nat) : (ofNanos nanos).toNanos = nanos := by
  simp only [ofNanos, toNanos]
  omega

end GelClient
