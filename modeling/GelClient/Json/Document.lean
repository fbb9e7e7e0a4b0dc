import GelClient.Number.Shortest

/-!
# JSON documents

A JSON document as a tree, and the text of one without blanks. Whole numbers have any size;
other numbers are floating point numbers given by their bits, written with the fewest digits
that read back, and those that are not finite are written as `null`. The fields of an object
stand in the order in which they are written.
-/

namespace GelClient

/-- A JSON document. -/
inductive JsonDocument where
  | null
  | bool (b : Bool)
  | integer (n : Int)
  /-- A single precision number. -/
  | single (bits : UInt32)
  /-- A double precision number. -/
  | double (bits : UInt64)
  | string (text : String)
  | array (items : List JsonDocument)
  | object (fields : List (String × JsonDocument))

instance : Inhabited JsonDocument := ⟨.null⟩

namespace JsonDocument

/-- The characters that stand for a character inside a quoted string. -/
def escape (c : Char) : List Char :=
  match c with
  | '"' => ['\\', '"']
  | '\\' => ['\\', '\\']
  | '\n' => ['\\', 'n']
  | '\r' => ['\\', 'r']
  | '\t' => ['\\', 't']
  | c =>
    if c.toNat = 0x08 then ['\\', 'b']
    else if c.toNat = 0x0C then ['\\', 'f']
    else if c.toNat < 0x20 then
      ['\\', 'u', '0', '0', Nat.digitChar (c.toNat / 16), Nat.digitChar (c.toNat % 16)]
    else [c]

/-- A string in quotes. -/
def quoted (text : String) : String :=
  "\"" ++ String.ofList (text.toList.flatMap escape) ++ "\""

/-- The text of a truth value. -/
def boolText (b : Bool) : String :=
  if b then "true" else "false"

mutual

/-- The text of a document. -/
def render : JsonDocument → String
  | null => "null"
  | bool b => boolText b
  | integer n => toString n
  | single bits => (Shortest.floatText? .single bits.toNat).getD "null"
  | double bits => (Shortest.floatText? .double bits.toNat).getD "null"
  | string text => quoted text
  | array items => "[" ++ ",".intercalate (renderItems items) ++ "]"
  | object fields => "\x7b" ++ ",".intercalate (renderFields fields) ++ "\x7d"

/-- The texts of documents. -/
def renderItems : List JsonDocument → List String
  | [] => []
  | item :: rest => render item :: renderItems rest

/-- The texts of fields, each a quoted key and a document. -/
def renderFields : List (String × JsonDocument) → List String
  | [] => []
  | (key, item) :: rest => (quoted key ++ ":" ++ render item) :: renderFields rest

end

end JsonDocument

end GelClient
