import GelClient.Codec.Numeric

/-!
# Scalar types

The scalar types that every server knows under the same identifier and name, and the payload of
their values. A scalar takes the values of one kind. A JSON document is written behind a format
byte; a document that is absent or empty is read as the absent value.
-/

namespace GelClient

open Packet (Put PutM Get GetM)

/-- A well known scalar type. -/
inductive Scalar where
  | uuid
  | str
  | bytes
  | int16
  | int32
  | int64
  | float32
  | float64
  | decimal
  | bool
  | datetime
  | localDatetime
  | localDate
  | localTime
  | duration
  | json
  | bigint
  | relativeDuration
  | dateDuration
  | memory
  deriving DecidableEq, Repr, Inhabited

namespace Scalar

/-- Every well known scalar, by ascending identifier. -/
def all : List Scalar := [
  .uuid, .str, .bytes, .int16, .int32, .int64, .float32,
  .float64, .decimal, .bool, .datetime, .localDatetime, .localDate,
  .localTime, .duration, .json, .bigint, .relativeDuration, .dateDuration, .memory]

/-- The identifier of a scalar as a number. -/
def number : Scalar → Nat
  | .uuid => 0x100
  | .str => 0x101
  | .bytes => 0x102
  | .int16 => 0x103
  | .int32 => 0x104
  | .int64 => 0x105
  | .float32 => 0x106
  | .float64 => 0x107
  | .decimal => 0x108
  | .bool => 0x109
  | .datetime => 0x10A
  | .localDatetime => 0x10B
  | .localDate => 0x10C
  | .localTime => 0x10D
  | .duration => 0x10E
  | .json => 0x10F
  | .bigint => 0x110
  | .relativeDuration => 0x111
  | .dateDuration => 0x112
  | .memory => 0x130

/-- The identifier of a scalar. -/
def id (s : Scalar) : Uuid := Uuid.ofNat s.number

/-- The scalar with the given identifier. -/
def ofId? (id : Uuid) : Option Scalar := all.find? (·.id == id)

/-- The qualified name of a scalar in the schema. -/
def name : Scalar → String
  | .uuid => "std::uuid"
  | .str => "std::str"
  | .bytes => "std::bytes"
  | .int16 => "std::int16"
  | .int32 => "std::int32"
  | .int64 => "std::int64"
  | .float32 => "std::float32"
  | .float64 => "std::float64"
  | .decimal => "std::decimal"
  | .bool => "std::bool"
  | .datetime => "std::datetime"
  | .localDatetime => "cal::local_datetime"
  | .localDate => "cal::local_date"
  | .localTime => "cal::local_time"
  | .duration => "std::duration"
  | .json => "std::json"
  | .bigint => "std::bigint"
  | .relativeDuration => "cal::relative_duration"
  | .dateDuration => "cal::date_duration"
  | .memory => "cfg::memory"

/-- The kind of the values of a scalar. -/
def kind : Scalar → ValueKind
  | .uuid => .uuid
  | .str => .str
  | .bytes => .bytes
  | .int16 => .int16
  | .int32 => .int32
  | .int64 => .int64
  | .float32 => .float32
  | .float64 => .float64
  | .decimal => .decimal
  | .bool => .bool
  | .datetime => .datetime
  | .localDatetime => .localDatetime
  | .localDate => .localDate
  | .localTime => .localTime
  | .duration => .duration
  | .json => .json
  | .bigint => .bigint
  | .relativeDuration => .relativeDuration
  | .dateDuration => .dateDuration
  | .memory => .memory

/-- Whether a scalar takes a value. -/
def accepts (s : Scalar) (v : Value) : Bool := s.kind == v.kind

/-- The byte in front of a JSON document. -/
def jsonFormat : UInt8 := 1

/-- Writes the payload of a value. -/
def put : Scalar → Value → PutM CodecError Unit
  | .uuid, .uuid id => Put.uuid id
  | .str, .str text => Put.raw (Utf8.encode text)
  | .bytes, .bytes payload => Put.raw payload
  | .int16, .int16 n => Put.int16 n
  | .int32, .int32 n => Put.int32 n
  | .int64, .int64 n => Put.int64 n
  | .float32, .float32 bits => Put.float32 bits
  | .float64, .float64 bits => Put.float64 bits
  | .decimal, .decimal n => n.put
  | .bool, .bool b => Put.bool b
  | .datetime, .datetime t => Put.int64 t.micros
  | .localDatetime, .localDatetime t => Put.int64 t.micros
  | .localDate, .localDate t => Put.int32 t.days
  | .localTime, .localTime t => Put.int64 t.micros
  | .duration, .duration t => do
    Put.int64 t.micros
    Put.int32 0
    Put.int32 0
  | .json, .json text => do
    Put.uint8 jsonFormat
    Put.raw (Utf8.encode text)
  | .bigint, .bigint n => n.put
  | .relativeDuration, .relativeDuration t => do
    Put.int64 t.micros
    Put.int32 t.days
    Put.int32 t.months
  | .dateDuration, .dateDuration t => do
    Put.int64 0
    Put.int32 t.days
    Put.int32 t.months
  | .memory, .memory n => Put.int64 n
  | s, v => throw (.typeMismatch s.name v.kind)

/-- Reads the rest of a payload as text. -/
def restText : Get String := do
  Get.utf8 (← Get.rest)

/-- Reads a JSON document. -/
def getJson : GetM CodecError Value := do
  if (← get).isEmpty then return .nothing
  let format ← Get.uint8
  if format != jsonFormat then throw (.invalidValue (.unsupportedJsonFormat format))
  if (← get).isEmpty then return .nothing
  return .json (← restText)

/-- Reads the payload of a value. -/
def get : Scalar → GetM CodecError Value
  | .uuid => return .uuid (← Get.uuid)
  | .str => return .str (← restText)
  | .bytes => return .bytes (← Get.rest)
  | .int16 => return .int16 (← Get.int16)
  | .int32 => return .int32 (← Get.int32)
  | .int64 => return .int64 (← Get.int64)
  | .float32 => return .float32 (← Get.float32)
  | .float64 => return .float64 (← Get.float64)
  | .decimal => return .decimal (← Decimal.get)
  | .bool => return .bool (← Get.bool)
  | .datetime => return .datetime ⟨← Get.int64⟩
  | .localDatetime => return .localDatetime ⟨← Get.int64⟩
  | .localDate => return .localDate ⟨← Get.int32⟩
  | .localTime => return .localTime ⟨← Get.int64⟩
  | .duration => do
    let micros ← Get.int64
    Get.skip 8
    return .duration ⟨micros⟩
  | .json => getJson
  | .bigint => return .bigint (← BigInt.get)
  | .relativeDuration => do
    let micros ← Get.int64
    let days ← Get.int32
    let months ← Get.int32
    return .relativeDuration { micros, days, months }
  | .dateDuration => do
    Get.skip 8
    let days ← Get.int32
    let months ← Get.int32
    return .dateDuration { days, months }
  | .memory => return .memory (← Get.int64)

/-- The identifier of a scalar leads back to it. -/
@[simp]
theorem ofId?_id (s : Scalar) : ofId? s.id = some s := by
  cases s <;> rfl

/-- No scalar has the nil identifier. -/
@[simp]
theorem ofId?_nil : ofId? Uuid.nil = none := rfl

end Scalar

end GelClient
