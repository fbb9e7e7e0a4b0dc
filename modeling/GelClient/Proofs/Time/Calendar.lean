import GelClient.Time.Calendar

/-!
# Days and dates

The days of the calendar are numbered without a gap. A day has a date, which lies on the calendar if the day
is none before the first or after the last, and the number of this date is the day that it was made from. So
are points in time with their nanoseconds; a count of nanoseconds outside of the calendar gives the point in
time at its end.
-/

namespace GelClient

/-- A date on the calendar: its year is one of those, and its day is one of the month. -/
structure CalendarDate.IsValid (d : CalendarDate) : Prop where
  year_mem : -9999 ≤ d.year ∧ d.year ≤ 9999
  month_pos : 1 ≤ d.month
  day_mem : ∃ length, (monthLengths d.year)[d.month - 1]? = some length ∧ 1 ≤ d.day ∧ d.day ≤ length

/-- A time of day that a clock can show. -/
structure ClockTime.IsValid (t : ClockTime) : Prop where
  hour_lt : t.hour < 24
  minute_lt : t.minute < 60
  second_lt : t.second < 60
  nanosecond_lt : t.nanosecond < 1000000000

/-- A point in time on the calendar. -/
structure CalendarDatetime.IsValid (t : CalendarDatetime) : Prop where
  date : t.date.IsValid
  time : t.time.IsValid

/-- The first date of the calendar. -/
def CalendarDate.first : CalendarDate := ⟨-9999, 1, 1⟩

/-- The last date of the calendar. -/
def CalendarDate.last : CalendarDate := ⟨9999, 12, 31⟩

/-- The first point in time of the calendar. -/
def CalendarDatetime.first : CalendarDatetime := ⟨.first, ⟨0, 0, 0, 0⟩⟩

/-- The last point in time of the calendar. -/
def CalendarDatetime.last : CalendarDatetime := ⟨.last, ⟨23, 59, 59, 999999999⟩⟩

/-- Years start one after the other. -/
theorem daysBeforeYear_mono {a b : Int} (h : a ≤ b) : daysBeforeYear a ≤ daysBeforeYear b := by
  unfold daysBeforeYear
  omega

/-- The months of a year fill it. -/
private theorem sum_monthLengths (year : Int) :
    ((monthLengths year).sum : Int) = daysBeforeYear (year + 1) - daysBeforeYear year := by
  have hsum : ((monthLengths year).sum : Int) = if isLeapYear year then 366 else 365 := by
    unfold monthLengths
    cases isLeapYear year <;> rfl
  rw [hsum]
  by_cases hleap : isLeapYear year = true
  · rw [if_pos hleap]
    simp only [isLeapYear, Bool.and_eq_true, Bool.or_eq_true, beq_iff_eq, bne_iff_ne] at hleap
    unfold daysBeforeYear
    omega
  · rw [if_neg hleap]
    simp only [isLeapYear, Bool.and_eq_true, Bool.or_eq_true, beq_iff_eq, bne_iff_ne] at hleap
    unfold daysBeforeYear
    omega

/-- A month stands behind those before it, in a row of months that is not shorter than it. -/
private theorem sum_take_add_le {lengths : List Nat} : ∀ {i length : Nat}, lengths[i]? = some length →
    (lengths.take i).sum + length ≤ lengths.sum := by
  induction lengths with
  | nil => simp
  | cons first rest ih =>
    intro i length h
    cases i with
    | zero =>
      cases h
      simp
    | succ i =>
      have hbehind : (rest.take i).sum + length ≤ rest.sum := ih (by simpa using h)
      simp only [List.take_succ_cons, List.sum_cons]
      omega

/-- The day `date.2` of the month `date.1` is the day of the year that is counted from zero, where the months
from the given one on have the given lengths. -/
structure FallsOn (month : Nat) (lengths : List Nat) (day : Nat) (date : Nat × Nat) : Prop where
  month_le : month ≤ date.1
  day_mem : ∃ length, lengths[date.1 - month]? = some length ∧ 1 ≤ date.2 ∧ date.2 ≤ length
  day_eq : (lengths.take (date.1 - month)).sum + date.2 = day + 1

/-- A day in the first of several months falls on it. -/
theorem fallsOn_first {month length day : Nat} (rest : List Nat) (h : day < length) :
    FallsOn month (length :: rest) day (month, day + 1) :=
  { month_le := Nat.le_refl month
    day_mem := ⟨length, by simp, by simp, h⟩
    day_eq := by simp }

/-- A day behind the first of several months falls on one of the others. -/
theorem FallsOn.behind {month length day : Nat} {rest : List Nat} {date : Nat × Nat} (hle : length ≤ day)
    (h : FallsOn (month + 1) rest (day - length) date) : FallsOn month (length :: rest) day date := by
  obtain ⟨hmonth, hday, heq⟩ := h
  have hindex : date.1 - month = date.1 - (month + 1) + 1 := by omega
  refine ⟨by omega, ?_, ?_⟩
  · rw [hindex, List.getElem?_cons_succ]
    exact hday
  · rw [hindex, List.take_succ_cons, List.sum_cons]
    omega

/-- A day of the year falls on the month and the day that are found for it. -/
theorem fallsOn_monthAndDay {lengths : List Nat} : ∀ {month day : Nat}, day < lengths.sum →
    FallsOn month lengths day (monthAndDay month lengths day) := by
  induction lengths with
  | nil =>
    intro month day h
    simp at h
  | cons length rest ih =>
    intro month day h
    rw [List.sum_cons] at h
    cases rest with
    | nil => exact fallsOn_first [] (by simpa using h)
    | cons next rest =>
      rw [monthAndDay]
      split
      next hlt => exact fallsOn_first _ hlt
      next hle => exact (ih (by omega)).behind (Nat.not_lt.mp hle)
      · simp

namespace CalendarDate

/-- The day of the year of a day that is counted from the start of the year zero. -/
theorem dayOfYear_lt (day : Int) :
    (day - daysBeforeYear (yearOfDay day)).toNat < (monthLengths (yearOfDay day)).sum := by
  have hbounds := yearOfDay_bounds day
  have hsum := sum_monthLengths (yearOfDay day)
  omega

/-- A date falls on the day that it is made from. -/
theorem fallsOn_ofDay (day : Int) :
    FallsOn 1 (monthLengths (ofDay day).year)
      (day + epochDay - daysBeforeYear (ofDay day).year).toNat ((ofDay day).month, (ofDay day).day) :=
  fallsOn_monthAndDay (dayOfYear_lt (day + epochDay))

/-- Every day is the number of its date. -/
@[simp]
theorem toDay_ofDay (day : Int) : (ofDay day).toDay = day := by
  have hfalls := (fallsOn_ofDay day).day_eq
  dsimp only at hfalls
  have hyear : daysBeforeYear (ofDay day).year ≤ day + epochDay := (yearOfDay_bounds (day + epochDay)).1
  unfold toDay
  omega

/-- The days of the calendar have their dates on it. -/
theorem isValid_ofDay {day : Int} (hfirst : firstDay ≤ day) (hlast : day ≤ lastDay) : (ofDay day).IsValid := by
  obtain ⟨hmonth, hday, -⟩ := fallsOn_ofDay day
  have hbounds : daysBeforeYear (ofDay day).year ≤ day + epochDay ∧
      day + epochDay < daysBeforeYear ((ofDay day).year + 1) := yearOfDay_bounds (day + epochDay)
  unfold firstDay at hfirst
  unfold lastDay at hlast
  refine ⟨⟨?_, ?_⟩, hmonth, hday⟩
  · refine Int.not_lt.mp fun hlt => ?_
    have := daysBeforeYear_mono (show (ofDay day).year + 1 ≤ -9999 by omega)
    omega
  · refine Int.not_lt.mp fun hlt => ?_
    have := daysBeforeYear_mono (show 10000 ≤ (ofDay day).year by omega)
    omega

/-- The dates of the calendar have their numbers between those of its first and its last day. -/
theorem toDay_mem {d : CalendarDate} (h : d.IsValid) : firstDay ≤ d.toDay ∧ d.toDay ≤ lastDay := by
  obtain ⟨⟨hlow, hhigh⟩, -, length, hlength, hpos, hle⟩ := h
  have hmonth := sum_take_add_le hlength
  have hsum := sum_monthLengths d.year
  have hfirst := daysBeforeYear_mono hlow
  have hlast := daysBeforeYear_mono (show d.year + 1 ≤ 10000 by omega)
  unfold toDay firstDay lastDay
  omega

/-- The first day of the calendar is that of its first date. -/
theorem toDay_first : first.toDay = firstDay := by decide

/-- The last day of the calendar is that of its last date. -/
theorem toDay_last : last.toDay = lastDay := by decide

end CalendarDate

/-- What a clock shows is a time of day. -/
theorem ClockTime.isValid_ofNanos {nanos : Nat} (h : nanos < 86400000000000) : (ofNanos nanos).IsValid := by
  constructor <;> simp only [ofNanos] <;> omega

/-- A time of day is less than a day after midnight. -/
theorem ClockTime.toNanos_lt {t : ClockTime} (h : t.IsValid) : t.toNanos < 86400000000000 := by
  obtain ⟨hhour, hminute, hsecond, hnanosecond⟩ := h
  unfold toNanos
  omega

namespace CalendarDatetime

/-- The first point in time of the calendar is none after the last. -/
theorem firstNano_le_lastNano : firstNano ≤ lastNano := by decide

/-- The first point in time of the calendar starts its first day. -/
theorem toNanos_first : first.toNanos = firstNano := by decide

/-- The last point in time of the calendar ends its last day. -/
theorem toNanos_last : last.toNanos = lastNano := by decide

/-- A count of nanoseconds gives the point in time that it counts, or the end of the calendar. -/
@[simp]
theorem toNanos_ofNanos (nanos : Int) : (ofNanos nanos).toNanos = clamp firstNano lastNano nanos := by
  have hpos : 0 ≤ clamp firstNano lastNano nanos % nanosPerDay := Int.emod_nonneg _ (by decide)
  have hsplit := Int.mul_ediv_add_emod (clamp firstNano lastNano nanos) nanosPerDay
  simp only [toNanos, ofNanos, CalendarDate.toDay_ofDay, ClockTime.toNanos_ofNanos, Int.toNat_of_nonneg hpos]
  rw [Int.mul_comm]
  exact hsplit

/-- What a count of nanoseconds gives is on the calendar. -/
theorem isValid_ofNanos (nanos : Int) : (ofNanos nanos).IsValid := by
  have hmem := clamp_mem firstNano_le_lastNano nanos
  unfold ofNanos
  generalize clamp firstNano lastNano nanos = held at hmem
  obtain ⟨hfirst, hlast⟩ := hmem
  unfold firstNano at hfirst
  unfold lastNano at hlast
  unfold nanosPerDay at *
  exact ⟨CalendarDate.isValid_ofDay (by omega) (by omega), ClockTime.isValid_ofNanos (by omega)⟩

/-- The points in time of the calendar lie between its first and its last one. -/
theorem toNanos_mem {t : CalendarDatetime} (h : t.IsValid) : firstNano ≤ t.toNanos ∧ t.toNanos ≤ lastNano := by
  obtain ⟨hfirst, hlast⟩ := CalendarDate.toDay_mem h.date
  have htime := ClockTime.toNanos_lt h.time
  unfold toNanos firstNano lastNano nanosPerDay
  omega

end CalendarDatetime

end GelClient
