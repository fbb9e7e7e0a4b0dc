import GelClient.Number.BigInt
import GelClient.Time.Basic
import GelClient.Uuid

/-!
# Values

What a query takes as an argument and gives as a result. Floating point numbers are kept by
their bits. `Value.equals` is the equality of values that a program compares with: floating
point numbers are compared as numbers, so no NaN equals anything and both zeros are equal, and
decimal numbers are compared digit by digit.
-/

namespace GelClient

/-- An interval of values; a missing bound is infinite. -/
structure Range (α : Type) where
  lower : Option α
  upper : Option α
  includesLower : Bool
  includesUpper : Bool
  isEmpty : Bool
  deriving DecidableEq, Repr

namespace Range

variable {α : Type}

/-- The interval from `lower` to `upper`, with its lower bound and without its upper one. -/
def between (lower upper : Option α) : Range α :=
  { lower, upper, includesLower := true, includesUpper := false, isEmpty := false }

/-- The interval that contains nothing. -/
def empty : Range α :=
  { lower := none, upper := none, includesLower := false, includesUpper := false, isEmpty := true }

/-- The interval with or without its bounds. -/
def including (r : Range α) (lower upper : Bool) : Range α :=
  { r with includesLower := lower, includesUpper := upper }

end Range

/-- A value of the server. -/
inductive Value where
  | nothing
  | uuid (id : Uuid)
  | str (text : String)
  | bytes (bytes : Bytes)
  | int16 (n : Int16)
  | int32 (n : Int32)
  | int64 (n : Int64)
  | float32 (bits : UInt32)
  | float64 (bits : UInt64)
  | decimal (n : Decimal)
  | bigint (n : BigInt)
  | bool (b : Bool)
  | datetime (t : Datetime)
  | localDatetime (t : LocalDatetime)
  | localDate (t : LocalDate)
  | localTime (t : LocalTime)
  | duration (t : Duration)
  | relativeDuration (t : RelativeDuration)
  | dateDuration (t : DateDuration)
  /-- The text of a JSON document. -/
  | json (text : String)
  /-- An amount of memory in bytes. -/
  | memory (bytes : Int64)
  /-- A member of an enumeration. -/
  | enumMember (name : String)
  | array (items : List Value)
  | set (items : List Value)
  | range (r : Range Value)
  | multirange (rs : List (Range Value))
  | tuple (items : List Value)
  | namedTuple (fields : List (String × Value))
  /-- The fields of an object in their declared order. -/
  | object (fields : List (String × Value))

instance : Inhabited Value := ⟨.nothing⟩

/-- The kinds of value. -/
inductive ValueKind where
  | nothing | uuid | str | bytes | int16 | int32 | int64 | float32 | float64 | decimal | bigint
  | bool | datetime | localDatetime | localDate | localTime | duration | relativeDuration
  | dateDuration | json | memory | enumMember | array | set | range | multirange | tuple
  | namedTuple | object
  deriving DecidableEq, Repr

/-- The name of a kind of value in messages. -/
def ValueKind.name : ValueKind → String
  | .nothing => "nothing"
  | .uuid => "uuid"
  | .str => "str"
  | .bytes => "bytes"
  | .int16 => "int16"
  | .int32 => "int32"
  | .int64 => "int64"
  | .float32 => "float32"
  | .float64 => "float64"
  | .decimal => "decimal"
  | .bigint => "bigint"
  | .bool => "bool"
  | .datetime => "datetime"
  | .localDatetime => "local_datetime"
  | .localDate => "local_date"
  | .localTime => "local_time"
  | .duration => "duration"
  | .relativeDuration => "relative_duration"
  | .dateDuration => "date_duration"
  | .json => "json"
  | .memory => "cfg::memory"
  | .enumMember => "enum"
  | .array => "array"
  | .set => "set"
  | .range => "range"
  | .multirange => "multirange"
  | .tuple => "tuple"
  | .namedTuple => "named tuple"
  | .object => "object"

namespace Value

/-- The kind of a value. -/
def kind : Value → ValueKind
  | nothing => .nothing
  | uuid _ => .uuid
  | str _ => .str
  | bytes _ => .bytes
  | int16 _ => .int16
  | int32 _ => .int32
  | int64 _ => .int64
  | float32 _ => .float32
  | float64 _ => .float64
  | decimal _ => .decimal
  | bigint _ => .bigint
  | bool _ => .bool
  | datetime _ => .datetime
  | localDatetime _ => .localDatetime
  | localDate _ => .localDate
  | localTime _ => .localTime
  | duration _ => .duration
  | relativeDuration _ => .relativeDuration
  | dateDuration _ => .dateDuration
  | json _ => .json
  | memory _ => .memory
  | enumMember _ => .enumMember
  | array _ => .array
  | set _ => .set
  | range _ => .range
  | multirange _ => .multirange
  | tuple _ => .tuple
  | namedTuple _ => .namedTuple
  | object _ => .object

/-- Whether the value is the absent one. -/
def isNothing : Value → Bool
  | nothing => true
  | _ => false

/-- The first of some fields with the given name. -/
def lookup (name : String) (fields : List (String × Value)) : Option Value :=
  (fields.find? (·.1 == name)).map (·.2)

/-- The first field with the given name of an object or a named tuple. -/
def field? (v : Value) (name : String) : Option Value :=
  match v with
  | object fields | namedTuple fields => lookup name fields
  | _ => none

/-- Whether two single precision numbers, given by their bits, are equal as numbers. -/
def equalSingles (a b : UInt32) : Bool :=
  let magnitude (x : UInt32) := x &&& 0x7FFFFFFF
  let isNumber (x : UInt32) := magnitude x ≤ 0x7F800000
  isNumber a && isNumber b && (a == b || (magnitude a == 0 && magnitude b == 0))

/-- Whether two double precision numbers, given by their bits, are equal as numbers. -/
def equalDoubles (a b : UInt64) : Bool :=
  let magnitude (x : UInt64) := x &&& 0x7FFFFFFFFFFFFFFF
  let isNumber (x : UInt64) := magnitude x ≤ 0x7FF0000000000000
  isNumber a && isNumber b && (a == b || (magnitude a == 0 && magnitude b == 0))

mutual

/-- Whether two values are equal. -/
def equals : Value → Value → Bool
  | nothing, nothing => true
  | uuid a, uuid b => a == b
  | str a, str b => a == b
  | bytes a, bytes b => a == b
  | int16 a, int16 b => a == b
  | int32 a, int32 b => a == b
  | int64 a, int64 b => a == b
  | float32 a, float32 b => equalSingles a b
  | float64 a, float64 b => equalDoubles a b
  | decimal a, decimal b => a == b
  | bigint a, bigint b => a == b
  | bool a, bool b => a == b
  | datetime a, datetime b => a == b
  | localDatetime a, localDatetime b => a == b
  | localDate a, localDate b => a == b
  | localTime a, localTime b => a == b
  | duration a, duration b => a == b
  | relativeDuration a, relativeDuration b => a == b
  | dateDuration a, dateDuration b => a == b
  | json a, json b => a == b
  | memory a, memory b => a == b
  | enumMember a, enumMember b => a == b
  | array a, array b => equalItems a b
  | set a, set b => equalItems a b
  | range a, range b => equalRanges a b
  | multirange a, multirange b => equalRangeLists a b
  | tuple a, tuple b => equalItems a b
  | namedTuple a, namedTuple b => equalFields a b
  | object a, object b => equalFields a b
  | _, _ => false

/-- Whether two lists of values are equal item by item. -/
def equalItems : List Value → List Value → Bool
  | [], [] => true
  | a :: as, b :: bs => equals a b && equalItems as bs
  | _, _ => false

/-- Whether two lists of fields are equal field by field. -/
def equalFields : List (String × Value) → List (String × Value) → Bool
  | [], [] => true
  | (m, a) :: as, (n, b) :: bs => m == n && equals a b && equalFields as bs
  | _, _ => false

/-- Whether two bounds are equal. -/
def equalBounds : Option Value → Option Value → Bool
  | none, none => true
  | some a, some b => equals a b
  | _, _ => false

/-- Whether two intervals have equal bounds and flags. -/
def equalRanges : Range Value → Range Value → Bool
  | ⟨lower, upper, includesLower, includesUpper, isEmpty⟩, other =>
    equalBounds lower other.lower && equalBounds upper other.upper
      && includesLower == other.includesLower && includesUpper == other.includesUpper
      && isEmpty == other.isEmpty

/-- Whether two lists of intervals are equal one by one. -/
def equalRangeLists : List (Range Value) → List (Range Value) → Bool
  | [], [] => true
  | a :: as, b :: bs => equalRanges a b && equalRangeLists as bs
  | _, _ => false

end

/-- The absent value is the only one of its kind. -/
theorem isNothing_iff {v : Value} : v.isNothing = true ↔ v = nothing := by
  cases v <;> simp [isNothing]

end Value

end GelClient
