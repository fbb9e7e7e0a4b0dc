/-!
# Points and spans of time

The temporal values of the server. Points in time are counted from midnight at the start of
the first of January 2000.
-/

namespace GelClient

/-- A point in time, in microseconds since the epoch in UTC. -/
structure Datetime where
  micros : Int64
  deriving DecidableEq, Repr

/-- A point in time without a time zone, in microseconds since the epoch. -/
structure LocalDatetime where
  micros : Int64
  deriving DecidableEq, Repr

/-- A date, in days since the epoch. -/
structure LocalDate where
  days : Int32
  deriving DecidableEq, Repr

/-- A time of day, in microseconds since midnight. -/
structure LocalTime where
  micros : Int64
  deriving DecidableEq, Repr

/-- An exact span of time, in microseconds. -/
structure Duration where
  micros : Int64
  deriving DecidableEq, Repr

/-- A span of time whose days and months depend on the calendar. -/
structure RelativeDuration where
  micros : Int64
  days : Int32
  months : Int32
  deriving DecidableEq, Repr

/-- A span of whole days. -/
structure DateDuration where
  days : Int32
  months : Int32
  deriving DecidableEq, Repr

end GelClient
