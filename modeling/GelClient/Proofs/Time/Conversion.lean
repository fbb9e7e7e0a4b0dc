import GelClient.BigEndian
import GelClient.Proofs.Time.Calendar
import Mathlib.Algebra.Group.Int.Defs

/-!
# Conversions to the calendar and back

A count that is turned into a date, a time or a span and back comes out as it was, where the other side can
hold it: counts outside of the calendar come out as its first or its last point in time, and times of day
modulo one day. The conversions work with words of limited width. Here each of them is also done with the
words checked, so that a number that does not fit gives no result, and no number ever fails to fit.
-/

namespace GelClient

/-- A number, if a signed word of so many bits holds it. -/
def word? (bits : Nat) (n : Int) : Option Int :=
  if -2 ^ (bits - 1) ≤ n ∧ n < 2 ^ (bits - 1) then some n else none

/-- A word holds the numbers in its range. -/
theorem word?_of_mem {bits : Nat} {n : Int} (hlow : -2 ^ (bits - 1) ≤ n) (hhigh : n < 2 ^ (bits - 1)) :
    word? bits n = some n :=
  if_pos ⟨hlow, hhigh⟩

/-- Clamping cuts a number on both sides. -/
private theorem clamp_eq_max_min {low high : Int} (h : low ≤ high) (n : Int) :
    clamp low high n = max low (min n high) := by
  unfold clamp
  split
  · omega
  · split <;> omega

/-- Clamping keeps the order. -/
private theorem clamp_mono {low high a b : Int} (hle : low ≤ high) (h : a ≤ b) :
    clamp low high a ≤ clamp low high b := by
  rw [clamp_eq_max_min hle, clamp_eq_max_min hle]
  omega

/-- Cutting toward zero rounds up below zero. -/
private theorem tdiv_eq_ite {a b : Int} (hb : 0 < b) : a.tdiv b = if 0 ≤ a ∨ b ∣ a then a / b else a / b + 1 := by
  rw [Int.tdiv_eq_ediv, Int.sign_eq_one_of_pos hb]
  split <;> simp

/-- A count of microseconds is cut to 64 bits. -/
theorem toInt_microsOfNanos (nanos : Int) :
    (microsOfNanos nanos).toInt = clamp (-2 ^ 63) (2 ^ 63 - 1) (nanos.tdiv 1000) := by
  have hmin : Int64.minValue.toInt = -2 ^ 63 := by decide
  have hmax : Int64.maxValue.toInt = 2 ^ 63 - 1 := by decide
  obtain ⟨hlow, hhigh⟩ := clamp_mem (show (-2 ^ 63 : Int) ≤ 2 ^ 63 - 1 by decide) (nanos.tdiv 1000)
  rw [microsOfNanos, hmin, hmax, Int64.toInt_ofInt_of_le hlow (by omega)]

namespace Span

/-- A span whose parts are held in words: the seconds in 64 bits and the nanoseconds in 32. -/
def held? (s : Span) : Option Span := do
  return { seconds := ← word? 64 s.seconds, nanoseconds := ← word? 32 s.nanoseconds }

/-- The span of a number of microseconds. -/
def ofMicros? (micros : Int64) : Option Span :=
  held? { seconds := micros.toInt.tdiv 1000000, nanoseconds := micros.toInt.tmod 1000000 * 1000 }

/-- The span of a number of days. -/
def ofDays? (days : Int32) : Option Span :=
  held? { seconds := days.toInt * 86400, nanoseconds := 0 }

/-- The microseconds of a span, counted in 128 bits and then cut to 64. -/
def micros? (s : Span) : Option Int64 := do
  let seconds ← word? 128 (s.seconds * 1000000)
  let whole ← word? 128 (seconds + s.nanoseconds.tdiv 1000)
  return Int64.ofInt (← word? 64 (clamp Int64.minValue.toInt Int64.maxValue.toInt whole))

/-- A span that can be counted: its seconds fit 64 bits, and its nanoseconds are less than a second and none of
the other sign. -/
structure IsValid (s : Span) : Prop where
  seconds_mem : -2 ^ 63 ≤ s.seconds ∧ s.seconds < 2 ^ 63
  nanoseconds_mem : -1000000000 < s.nanoseconds ∧ s.nanoseconds < 1000000000
  nonneg_of_pos : 0 < s.seconds → 0 ≤ s.nanoseconds
  nonpos_of_neg : s.seconds < 0 → s.nanoseconds ≤ 0

/-- The words of a span hold what can be counted. -/
theorem held?_eq {s : Span} (h : s.IsValid) : s.held? = some s := by
  obtain ⟨⟨hslow, hshigh⟩, ⟨hnlow, hnhigh⟩, -, -⟩ := h
  have hseconds : word? 64 s.seconds = some s.seconds := word?_of_mem hslow hshigh
  have hnanoseconds : word? 32 s.nanoseconds = some s.nanoseconds := word?_of_mem (by omega) (by omega)
  simp [held?, hseconds, hnanoseconds]

/-- The parts of a span add up to it. -/
@[simp]
theorem toNanos_ofNanos (nanos : Int) : (ofNanos nanos).toNanos = nanos := Int.tdiv_mul_add_tmod nanos 1000000000

/-- A number of nanoseconds is a span that can be counted if its seconds fit. -/
theorem isValid_ofNanos {nanos : Int} (hlow : -2 ^ 63 * 1000000000 ≤ nanos)
    (hhigh : nanos < 2 ^ 63 * 1000000000) : (ofNanos nanos).IsValid := by
  have hsum := toNanos_ofNanos nanos
  have hseconds : (ofNanos nanos).seconds =
      if 0 ≤ nanos ∨ 1000000000 ∣ nanos then nanos / 1000000000 else nanos / 1000000000 + 1 :=
    tdiv_eq_ite (by decide)
  unfold toNanos at hsum
  split at hseconds <;> constructor <;> omega

/-- Microseconds are the same span as a thousand times as many nanoseconds. -/
theorem ofMicros?_eq (micros : Int64) : ofMicros? micros = some (ofNanos (micros.toInt * 1000)) := by
  have hspan : (⟨micros.toInt.tdiv 1000000, micros.toInt.tmod 1000000 * 1000⟩ : Span) =
      ofNanos (micros.toInt * 1000) := by
    rw [ofNanos, Int.mul_comm micros.toInt 1000, show (1000000000 : Int) = 1000 * 1000000 from rfl,
      Int.mul_tdiv_mul_of_pos _ _ (by decide), Int.mul_tmod_mul_of_pos _ _ (by decide), Int.mul_comm]
  have hlow := micros.le_toInt
  have hhigh := micros.toInt_lt
  rw [ofMicros?, hspan, held?_eq (isValid_ofNanos (by omega) (by omega))]

/-- The microseconds of a span that can be counted are those of its nanoseconds. -/
theorem micros?_eq {s : Span} (h : s.IsValid) : s.micros? = some (microsOfNanos s.toNanos) := by
  obtain ⟨⟨hslow, hshigh⟩, ⟨hnlow, hnhigh⟩, hpos, hneg⟩ := h
  have hwhole : s.seconds * 1000000 + s.nanoseconds.tdiv 1000 = s.toNanos.tdiv 1000 := by
    rw [toNanos, tdiv_eq_ite (by decide), tdiv_eq_ite (by decide)]
    split <;> split <;> omega
  have hsmall : -1000000 < s.nanoseconds.tdiv 1000 ∧ s.nanoseconds.tdiv 1000 < 1000000 := by
    rw [tdiv_eq_ite (by decide)]
    split <;> omega
  have hseconds : word? 128 (s.seconds * 1000000) = some (s.seconds * 1000000) :=
    word?_of_mem (by omega) (by omega)
  have hsum : word? 128 (s.seconds * 1000000 + s.nanoseconds.tdiv 1000) = some (s.toNanos.tdiv 1000) := by
    rw [word?_of_mem (by omega) (by omega), hwhole]
  have hclamped := clamp_mem (show Int64.minValue.toInt ≤ Int64.maxValue.toInt by decide) (s.toNanos.tdiv 1000)
  have hmin : Int64.minValue.toInt = -2 ^ 63 := by decide
  have hmax : Int64.maxValue.toInt = 2 ^ 63 - 1 := by decide
  have hword : word? 64 (clamp Int64.minValue.toInt Int64.maxValue.toInt (s.toNanos.tdiv 1000)) =
      some (clamp Int64.minValue.toInt Int64.maxValue.toInt (s.toNanos.tdiv 1000)) :=
    word?_of_mem (by omega) (by omega)
  simp only [micros?, hseconds, hsum, hword, Option.bind_eq_bind, Option.bind_some]
  rfl

/-- The microseconds in a number of nanoseconds, which is held as a span in between. -/
def microsIn? (nanos : Int) : Option Int64 := do
  let s ← (ofNanos nanos).held?
  s.micros?

/-- No word is too short for a number of nanoseconds whose seconds fit. -/
theorem microsIn?_eq {nanos : Int} (hlow : -2 ^ 63 * 1000000000 ≤ nanos) (hhigh : nanos < 2 ^ 63 * 1000000000) :
    microsIn? nanos = some (microsOfNanos nanos) := by
  have hspan := isValid_ofNanos hlow hhigh
  rw [microsIn?, held?_eq hspan, Option.bind_eq_bind, Option.bind_some, micros?_eq hspan, toNanos_ofNanos]

end Span

/-- Values that are converted and converted back, with what both directions come to over checked words. -/
structure Conversion (α β : Type) where
  /-- What a value counts. -/
  count : α → Int
  convert : α → β
  back? : β → Option α
  checkedConvert? : α → Option β
  checkedBack? : β → Option α

/-- A conversion in which no word is too short and which gives a count back as `settled` says. -/
structure Conversion.Settles {α β : Type} (c : Conversion α β) (IsValid : β → Prop) (settled : Int → Int) :
    Prop where
  valid : ∀ a, IsValid (c.convert a)
  checkedConvert : ∀ a, c.checkedConvert? a = some (c.convert a)
  checkedBack : ∀ b, IsValid b → ∃ a, c.back? b = some a ∧ c.checkedBack? b = some a
  settles : ∀ a, ∃ u, c.back? (c.convert a) = some u ∧ c.count u = settled (c.count a)

/-- Converting there and back keeps the order. -/
def Conversion.IsMonotone {α β : Type} (c : Conversion α β) : Prop :=
  ∀ a b, c.count a ≤ c.count b → ∃ u v, c.back? (c.convert a) = some u ∧ c.back? (c.convert b) = some v ∧
    c.count u ≤ c.count v

/-- A conversion keeps the order if what it gives back does. -/
theorem Conversion.Settles.isMonotone {α β : Type} {c : Conversion α β} {IsValid : β → Prop}
    {settled : Int → Int} (h : c.Settles IsValid settled) (hmono : ∀ m n, m ≤ n → settled m ≤ settled n) :
    c.IsMonotone := by
  intro a b hle
  obtain ⟨u, hu, hcountu⟩ := h.settles a
  obtain ⟨v, hv, hcountv⟩ := h.settles b
  refine ⟨u, v, hu, hv, ?_⟩
  rw [hcountu, hcountv]
  exact hmono _ _ hle

namespace CalendarDatetime

/-- The point in time of the calendar, over checked words. -/
def ofMicros? (micros : Int64) : Option CalendarDatetime :=
  (Span.ofMicros? micros).map fun s => ofNanos s.toNanos

/-- No word is too short for a count of microseconds on its way to the calendar. -/
theorem ofMicros?_eq (micros : Int64) : ofMicros? micros = some (ofNanos (micros.toInt * 1000)) := by
  rw [ofMicros?, Span.ofMicros?_eq, Option.map_some, Span.toNanos_ofNanos]

/-- No word is too short for a point in time on the calendar. -/
theorem microsIn?_toNanos {t : CalendarDatetime} (h : t.IsValid) :
    Span.microsIn? t.toNanos = some (microsOfNanos t.toNanos) := by
  obtain ⟨hfirst, hlast⟩ := toNanos_mem h
  have hlow : (-2 ^ 63 * 1000000000 : Int) ≤ firstNano := by decide
  have hhigh : lastNano < 2 ^ 63 * 1000000000 := by decide
  exact Span.microsIn?_eq (by omega) (by omega)

/-- A count of microseconds comes back from the calendar, or as its first or last point in time. -/
theorem toInt_microsOfNanos_ofNanos (micros : Int64) :
    (microsOfNanos (ofNanos (micros.toInt * 1000)).toNanos).toInt =
      clamp (microsOfNanos first.toNanos).toInt (microsOfNanos last.toNanos).toInt micros.toInt := by
  have hfirst : firstNano = -378651801600000000000 := by decide
  have hlast : lastNano = 252455615999999999999 := by decide
  have hfirstMicro : (microsOfNanos first.toNanos).toInt = -378651801600000000 := by decide
  have hlastMicro : (microsOfNanos last.toNanos).toInt = 252455615999999999 := by decide
  have hcut : (clamp firstNano lastNano (micros.toInt * 1000)).tdiv 1000 =
      clamp (-378651801600000000) 252455615999999999 micros.toInt := by
    rw [tdiv_eq_ite (by decide), hfirst, hlast, clamp_eq_max_min (by decide), clamp_eq_max_min (by decide)]
    split <;> omega
  obtain ⟨hlow, hhigh⟩ := clamp_mem (show (-378651801600000000 : Int) ≤ 252455615999999999 by decide) micros.toInt
  rw [hfirstMicro, hlastMicro, toInt_microsOfNanos, toNanos_ofNanos, hcut, clamp_eq_self (by omega) (by omega)]

end CalendarDatetime

namespace Datetime

/-- Conversion to the calendar in UTC, where points in time outside of the calendar are refused. -/
def utc : Conversion Datetime CalendarDatetime where
  count t := t.micros.toInt
  convert := toCalendar
  back? t := ofCalendar? t 0
  checkedConvert? t := CalendarDatetime.ofMicros? t.micros
  checkedBack? t :=
    if t.toNanos < CalendarDatetime.firstNano ∨ CalendarDatetime.lastNano < t.toNanos then none
    else (Span.microsIn? t.toNanos).map Datetime.mk

/-- What is on the calendar is not refused. -/
theorem ofCalendar?_eq {t : CalendarDatetime} (h : t.IsValid) :
    ofCalendar? t 0 = some ⟨microsOfNanos t.toNanos⟩ := by
  obtain ⟨hfirst, hlast⟩ := CalendarDatetime.toNanos_mem h
  rw [ofCalendar?, Int.zero_mul, Int.sub_zero, if_neg (by omega)]

/-- Points in time come back from the calendar, or as its first or last one. -/
theorem utc_settles :
    utc.Settles CalendarDatetime.IsValid (clamp (microsOfNanos CalendarDatetime.first.toNanos).toInt
      (microsOfNanos CalendarDatetime.last.toNanos).toInt) where
  valid _ := CalendarDatetime.isValid_ofNanos _
  checkedConvert t := CalendarDatetime.ofMicros?_eq t.micros
  checkedBack t h := by
    obtain ⟨hfirst, hlast⟩ := CalendarDatetime.toNanos_mem h
    have hchecked : utc.checkedBack? t = (Span.microsIn? t.toNanos).map Datetime.mk := if_neg (by omega)
    exact ⟨_, ofCalendar?_eq h, by rw [hchecked, CalendarDatetime.microsIn?_toNanos h, Option.map_some]⟩
  settles t :=
    ⟨_, ofCalendar?_eq (CalendarDatetime.isValid_ofNanos _), CalendarDatetime.toInt_microsOfNanos_ofNanos t.micros⟩

end Datetime

namespace LocalDatetime

/-- Conversion to the calendar. -/
def calendar : Conversion LocalDatetime CalendarDatetime where
  count t := t.micros.toInt
  convert := toCalendar
  back? t := some (ofCalendar t)
  checkedConvert? t := CalendarDatetime.ofMicros? t.micros
  checkedBack? t := (Span.microsIn? t.toNanos).map LocalDatetime.mk

/-- Local points in time come back from the calendar, or as its first or last one. -/
theorem calendar_settles :
    calendar.Settles CalendarDatetime.IsValid (clamp (microsOfNanos CalendarDatetime.first.toNanos).toInt
      (microsOfNanos CalendarDatetime.last.toNanos).toInt) where
  valid _ := CalendarDatetime.isValid_ofNanos _
  checkedConvert t := CalendarDatetime.ofMicros?_eq t.micros
  checkedBack _ h := ⟨_, rfl, congrArg (Option.map LocalDatetime.mk) (CalendarDatetime.microsIn?_toNanos h)⟩
  settles t := ⟨_, rfl, CalendarDatetime.toInt_microsOfNanos_ofNanos t.micros⟩

end LocalDatetime

namespace LocalDate

/-- The number of the day of the epoch among the Julian days. -/
def julianEpoch : Int := 2451545

/-- Conversion to the calendar, and back by Julian days in 32 bits. -/
def calendar : Conversion LocalDate CalendarDate where
  count d := d.days.toInt
  convert := toCalendar
  back? d := some (ofCalendar d)
  checkedConvert? d := do
    let s ← Span.ofDays? d.days
    let days ← word? 32 (s.seconds.tdiv 86400)
    return .ofDay (clamp CalendarDate.firstDay CalendarDate.lastDay days)
  checkedBack? d := do
    let julian ← word? 32 (d.toDay + julianEpoch)
    return ⟨Int32.ofInt (← word? 32 (julian - julianEpoch))⟩

/-- The first day of the calendar is none after the last. -/
theorem firstDay_le_lastDay : CalendarDate.firstDay ≤ CalendarDate.lastDay := by decide

/-- The days of the calendar are far from the ends of 32 bits. -/
theorem toDay_bounds {d : CalendarDate} (h : d.IsValid) : -4382544 ≤ d.toDay ∧ d.toDay ≤ 2921939 := by
  have hfirst : CalendarDate.firstDay = -4382544 := by decide
  have hlast : CalendarDate.lastDay = 2921939 := by decide
  rw [← hfirst, ← hlast]
  exact CalendarDate.toDay_mem h

/-- Dates come back from the calendar, or as its first or last one. -/
theorem calendar_settles :
    calendar.Settles CalendarDate.IsValid (clamp CalendarDate.first.toDay CalendarDate.last.toDay) where
  valid d := by
    obtain ⟨hfirst, hlast⟩ := clamp_mem firstDay_le_lastDay d.days.toInt
    exact CalendarDate.isValid_ofDay hfirst hlast
  checkedConvert d := by
    have hlow := d.days.le_toInt
    have hhigh := d.days.toInt_lt
    have hspan : Span.ofDays? d.days = some ⟨d.days.toInt * 86400, 0⟩ :=
      Span.held?_eq (by constructor <;> dsimp only <;> omega)
    have hdays : word? 32 d.days.toInt = some d.days.toInt := word?_of_mem hlow hhigh
    simp [calendar, toCalendar, hspan, hdays]
  checkedBack d h := by
    obtain ⟨hfirst, hlast⟩ := toDay_bounds h
    have hjulian : word? 32 (d.toDay + julianEpoch) = some (d.toDay + julianEpoch) := by
      unfold julianEpoch
      exact word?_of_mem (by omega) (by omega)
    have hdays : word? 32 d.toDay = some d.toDay := word?_of_mem (by omega) (by omega)
    exact ⟨_, rfl, by simp [calendar, ofCalendar, hjulian, hdays]⟩
  settles d := by
    obtain ⟨hfirst, hlast⟩ := clamp_mem firstDay_le_lastDay d.days.toInt
    obtain ⟨hlow, hhigh⟩ := toDay_bounds (CalendarDate.isValid_ofDay hfirst hlast)
    have hcount : (ofCalendar d.toCalendar).days.toInt = d.toCalendar.toDay :=
      Int32.toInt_ofInt_of_le (Int.le_trans (by decide) hlow) (Int.lt_of_le_of_lt hhigh (by decide))
    refine ⟨_, rfl, hcount.trans ?_⟩
    rw [toCalendar, CalendarDate.toDay_ofDay, CalendarDate.toDay_first, CalendarDate.toDay_last]
    rfl

end LocalDate

namespace LocalTime

/-- Conversion to what a clock shows, which starts again every day. -/
def clock : Conversion LocalTime ClockTime where
  count t := t.micros.toInt
  convert := toClock
  back? t := some (ofClock t)
  checkedConvert? t := (Span.ofMicros? t.micros).map fun s => .ofNanos (s.toNanos % nanosPerDay).toNat
  checkedBack? t := (Span.microsIn? t.toNanos).map LocalTime.mk

/-- Whole days do not count, in microseconds and in nanoseconds. -/
theorem toClock_eq (t : LocalTime) : t.toClock = .ofNanos (t.micros.toInt * 1000 % nanosPerDay).toNat := by
  have hnanos : (t.micros.toInt * 1000 % nanosPerDay).toNat = (t.micros.toInt % microsPerDay).toNat * 1000 := by
    unfold nanosPerDay microsPerDay
    omega
  rw [hnanos, toClock]

/-- A time of day is counted without whole days. -/
theorem toInt_ofClock_toClock (t : LocalTime) :
    (ofClock t.toClock).micros.toInt = t.micros.toInt % microsPerDay := by
  have hpos : 0 ≤ t.micros.toInt % microsPerDay := Int.emod_nonneg _ (by decide)
  have hlt : t.micros.toInt % microsPerDay < microsPerDay := Int.emod_lt_of_pos _ (by decide)
  have hday : microsPerDay < 2 ^ 63 - 1 := by decide
  have hnanos : (t.toClock.toNanos : Int) = t.micros.toInt % microsPerDay * 1000 := by
    rw [toClock, ClockTime.toNanos_ofNanos]
    omega
  rw [ofClock, hnanos, toInt_microsOfNanos, Int.mul_tdiv_cancel _ (by decide), clamp_eq_self (by omega) (by omega)]

/-- A time of day comes back from the clock without whole days. -/
theorem clock_settles : clock.Settles ClockTime.IsValid (· % microsPerDay) where
  valid t := by
    have hlt : t.micros.toInt * 1000 % nanosPerDay < nanosPerDay := Int.emod_lt_of_pos _ (by decide)
    have hday : nanosPerDay = 86400000000000 := rfl
    show t.toClock.IsValid
    rw [toClock_eq]
    exact ClockTime.isValid_ofNanos (by omega)
  checkedConvert t := by
    have hconvert : clock.convert t = t.toClock := rfl
    rw [hconvert, toClock_eq]
    simp [clock, Span.ofMicros?_eq]
  checkedBack t h := by
    have hlt := ClockTime.toNanos_lt h
    have hmicros : Span.microsIn? t.toNanos = some (microsOfNanos t.toNanos) :=
      Span.microsIn?_eq (by omega) (by omega)
    exact ⟨ofClock t, rfl, by simp only [clock, hmicros, Option.map_some, ofClock]⟩
  settles t := ⟨_, rfl, toInt_ofClock_toClock t⟩

end LocalTime

namespace Duration

/-- Conversion to spans of seconds and nanoseconds. -/
def span : Conversion Duration Span where
  count d := d.micros.toInt
  convert := toSpan
  back? s := some (ofSpan s)
  checkedConvert? d := Span.ofMicros? d.micros
  checkedBack? s := s.micros?.map Duration.mk

/-- A span of time comes back as it was. -/
theorem span_settles : span.Settles Span.IsValid id where
  valid d := by
    have hlow := d.micros.le_toInt
    have hhigh := d.micros.toInt_lt
    exact Span.isValid_ofNanos (by omega) (by omega)
  checkedConvert d := Span.ofMicros?_eq d.micros
  checkedBack s h := ⟨_, rfl, congrArg (Option.map Duration.mk) (Span.micros?_eq h)⟩
  settles d := by
    have hlow := d.micros.le_toInt
    have hhigh := d.micros.toInt_lt
    refine ⟨_, rfl, ?_⟩
    show (microsOfNanos d.toSpan.toNanos).toInt = d.micros.toInt
    rw [toSpan, Span.toNanos_ofNanos, toInt_microsOfNanos, Int.mul_tdiv_cancel _ (by decide),
      clamp_eq_self (by omega) (by omega)]

end Duration

/-- Every count of time comes back from the calendar, from the clock or from a span: as it was, as the end of
the calendar that is closest to it, or without whole days. No word on the way is too short, and but for times of
day the order is kept. -/
theorem conversions_settle :
    (∀ t : CalendarDatetime, t.IsValid →
        CalendarDatetime.first.toNanos ≤ t.toNanos ∧ t.toNanos ≤ CalendarDatetime.last.toNanos) ∧
      (∀ d : CalendarDate, d.IsValid → CalendarDate.first.toDay ≤ d.toDay ∧ d.toDay ≤ CalendarDate.last.toDay) ∧
      Datetime.utc.Settles CalendarDatetime.IsValid
        (clamp (LocalDatetime.ofCalendar .first).micros.toInt (LocalDatetime.ofCalendar .last).micros.toInt) ∧
      LocalDatetime.calendar.Settles CalendarDatetime.IsValid
        (clamp (LocalDatetime.ofCalendar .first).micros.toInt (LocalDatetime.ofCalendar .last).micros.toInt) ∧
      LocalDate.calendar.Settles CalendarDate.IsValid
        (clamp CalendarDate.first.toDay CalendarDate.last.toDay) ∧
      LocalTime.clock.Settles ClockTime.IsValid (· % 86400000000) ∧
      Duration.span.Settles Span.IsValid id ∧
      Datetime.utc.IsMonotone ∧ LocalDatetime.calendar.IsMonotone ∧ LocalDate.calendar.IsMonotone ∧
      Duration.span.IsMonotone := by
  have hmicros : (microsOfNanos CalendarDatetime.first.toNanos).toInt ≤
      (microsOfNanos CalendarDatetime.last.toNanos).toInt := by decide
  have hdays : CalendarDate.first.toDay ≤ CalendarDate.last.toDay := by decide
  refine ⟨fun t h => ?_, fun d h => ?_, Datetime.utc_settles, LocalDatetime.calendar_settles,
    LocalDate.calendar_settles, LocalTime.clock_settles, Duration.span_settles, ?_, ?_, ?_, ?_⟩
  · rw [CalendarDatetime.toNanos_first, CalendarDatetime.toNanos_last]
    exact CalendarDatetime.toNanos_mem h
  · rw [CalendarDate.toDay_first, CalendarDate.toDay_last]
    exact CalendarDate.toDay_mem h
  · exact Datetime.utc_settles.isMonotone fun _ _ => clamp_mono hmicros
  · exact LocalDatetime.calendar_settles.isMonotone fun _ _ => clamp_mono hmicros
  · exact LocalDate.calendar_settles.isMonotone fun _ _ => clamp_mono hdays
  · exact Duration.span_settles.isMonotone fun _ _ h => h

end GelClient
