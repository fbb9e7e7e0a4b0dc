import GelClient.Json.Parser
import GelClient.Value.Basic

/-!
# Values and JSON

The JSON document that shows a value, and the documents that values of the JSON type hold. Texts,
identifiers and numbers of any size are strings, times and durations are whole numbers of their
units, and fields keep their order and their duplicates.
-/

namespace GelClient.Value

mutual

/-- The document that shows a value. -/
def toDocument : Value → JsonDocument
  | nothing => .null
  | uuid id => .string id.toText
  | str text | enumMember text | json text => .string text
  | bytes data => .array (data.map fun b => .integer b.toNat)
  | int16 n => .integer n.toInt
  | int32 n => .integer n.toInt
  | int64 n | memory n => .integer n.toInt
  | float32 bits => .single bits
  | float64 bits => .double bits
  | decimal n => .string n.toText
  | bigint n => .string n.toText
  | bool b => .bool b
  | datetime t => .integer t.micros.toInt
  | localDatetime t => .integer t.micros.toInt
  | localDate t => .integer t.days.toInt
  | localTime t => .integer t.micros.toInt
  | duration t => .integer t.micros.toInt
  | relativeDuration t =>
    .array [.integer t.micros.toInt, .integer t.days.toInt, .integer t.months.toInt]
  | dateDuration t => .array [.integer t.days.toInt, .integer t.months.toInt]
  | array items | set items | tuple items => .array (itemDocuments items)
  | range r => rangeDocument r
  | multirange rs => .array (rangeDocuments rs)
  | namedTuple fields | object fields => .object (fieldDocuments fields)

/-- The documents of values. -/
def itemDocuments : List Value → List JsonDocument
  | [] => []
  | v :: rest => toDocument v :: itemDocuments rest

/-- The documents of fields. -/
def fieldDocuments : List (String × Value) → List (String × JsonDocument)
  | [] => []
  | (name, v) :: rest => (name, toDocument v) :: fieldDocuments rest

/-- The document of a bound. -/
def boundDocument : Option Value → JsonDocument
  | none => .null
  | some v => toDocument v

/-- The document of an interval. -/
def rangeDocument : Range Value → JsonDocument
  | ⟨lower, upper, includesLower, includesUpper, isEmpty⟩ =>
    .object [("lower", boundDocument lower), ("upper", boundDocument upper),
      ("inc_lower", .bool includesLower), ("inc_upper", .bool includesUpper),
      ("empty", .bool isEmpty)]

/-- The documents of intervals. -/
def rangeDocuments : List (Range Value) → List JsonDocument
  | [] => []
  | r :: rest => rangeDocument r :: rangeDocuments rest

end

/-- The JSON text that shows a value. -/
def toJsonText (v : Value) : String := v.toDocument.render

/-- The value that holds a document. -/
def ofDocument (d : JsonDocument) : Value := .json d.render

/-- The document that a value of the JSON type holds: none for a value of another type, and an
inner none if the text is not a document. -/
def document? : Value → Option (Option JsonDocument)
  | json text => some (JsonDocument.parse? text)
  | _ => none

end GelClient.Value
