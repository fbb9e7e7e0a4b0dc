import GelClient.Protocol.ServerMessage
import GelClient.Text.Number

/-!
# Server errors

An error that the server reported, with the query that caused it if that is known. When the
server also reported where in the query the error lies, the text of the error shows the lines
in question with carets below the columns:

```text
InvalidReferenceError: object type or alias 'default::Usr' does not exist
   |
 1 | select Usr
   |        ^^^
Hint: did you mean 'User'?
```

Lines count from one and columns from zero. The gutter is as wide as the text in which the
server sent the last line number. Columns come from the server unchecked, and a caret line that
is too long to be laid out is a fault.
-/

namespace GelClient

/-- A text cannot be laid out. -/
inductive LayoutFault where
  /-- A run of carets is longer than a text can be. -/
  | tooManyCarets (count : Nat)
  /-- A field is wider than fields can be. -/
  | tooWide (width : Nat)
  deriving DecidableEq, Repr

/-- An error of the server. -/
structure DatabaseError where
  severity : ErrorSeverity
  code : ErrorCode
  message : String
  attributes : Attributes
  query : Option String := none
  deriving DecidableEq, Repr

/-- The error in a message of the server. -/
def ErrorResponse.toDatabaseError (e : ErrorResponse) : DatabaseError :=
  { severity := e.severity, code := e.code, message := e.message, attributes := e.attributes }

/-- The longest text that can be built, in bytes. -/
def longestText : Nat := 2 ^ (63 : Nat) - 1

/-- The widest field that a text can be padded to. -/
def widestField : Nat := 65535

namespace DatabaseError

/-- The error with the query that caused it. -/
def withQuery (e : DatabaseError) (query : String) : DatabaseError :=
  { e with query := some query }

/-- The first value of an attribute. -/
def attribute? (e : DatabaseError) (key : UInt16) : Option Bytes :=
  (e.attributes.find? (·.1 == key)).map (·.2)

/-- The first value of an attribute, if it is a text. -/
def attributeText? (e : DatabaseError) (key : UInt16) : Option String :=
  (e.attribute? key).bind fun bytes => (Utf8.decode bytes).toOption

/-- What the user may do about the error. -/
def hint? (e : DatabaseError) : Option String := e.attributeText? 0x0001

/-- More about the error. -/
def details? (e : DatabaseError) : Option String := e.attributeText? 0x0002

/-- Where in the server the error arose. -/
def traceback? (e : DatabaseError) : Option String := e.attributeText? 0x0101

/-- Whether the operation may succeed when it is run again. -/
def isRetryable (e : DatabaseError) : Bool := e.code.isRetryable

/-- Whether the connection must be replaced before the operation is run again. -/
def reconnectRequired (e : DatabaseError) : Bool := e.code.reconnectRequired

/-- The text and the value of an attribute that holds a position. -/
def position? (e : DatabaseError) (key : UInt16) : Option (String × Nat) := do
  let raw ← e.attributeText? key
  let n ← Text.unsigned? 64 raw
  return (raw, n)

/-- The error without its place in the query. -/
def summary (e : DatabaseError) : String :=
  e.code.toText ++ ": " ++ e.message

/-- The summary in quotes, as a log shows it. -/
def quoted (e : DatabaseError) : String :=
  "\"" ++ e.summary ++ "\""

/-- The place of an error in a query: its lines, from one on, with the columns where it starts
in the first of them and ends in the last, and the width of the gutter. -/
structure Place where
  lines : List (List Char)
  firstLine : Nat
  lastLine : Nat
  firstColumn : Nat
  endColumn : Nat
  gutter : Nat
  deriving DecidableEq, Repr

/-- The pieces of a text between line feeds. -/
def splitLines (text : List Char) : List (List Char) :=
  text.splitOn '\n'

/-- The place of an error; none unless the query and all four positions are known and the lines
are lines of the query in their order. -/
def place? (e : DatabaseError) : Option Place := do
  let query ← e.query
  let (_, firstLine) ← e.position? 0xFFF3
  let (lastText, lastLine) ← e.position? 0xFFF6
  let (_, firstColumn) ← e.position? 0xFFF5
  let (_, endColumn) ← e.position? 0xFFF8
  let lines := splitLines query.toList
  if firstLine = 0 ∨ lastLine < firstLine ∨ lines.length < lastLine then none
  else
    return {
      lines, firstLine, lastLine, firstColumn, endColumn, gutter := Utf8.size lastText }

/-- A text on the right of a field, unless the field is too wide. -/
def field (width : Nat) (s : Thunk String) : Except LayoutFault String :=
  if width ≤ widestField then .ok (Text.padLeft width s.get) else .error (.tooWide width)

namespace Place

/-- The empty part of the gutter with its rule. -/
def rule (p : Place) : Except LayoutFault String :=
  field (p.gutter + 3) "|"

/-- The columns of an error in one line of the query: where the carets start and where they
end. -/
def columns (p : Place) (number : Nat) (line : List Char) : Nat × Nat :=
  (if number = p.firstLine then p.firstColumn else 0,
    if number = p.lastLine then p.endColumn else line.length)

/-- Carets from one column to another, with blanks before them. -/
def marks (start stop : Nat) : Except LayoutFault String :=
  if longestText < stop - start then .error (.tooManyCarets (stop - start))
  else field stop ("".pushn '^' (stop - start))

/-- One line of the query behind its number, and the carets below it. -/
def lineText (p : Place) (number : Nat) (line : List Char) : Except LayoutFault String := do
  let (start, stop) := p.columns number line
  let marks ← marks start stop
  let label ← field p.gutter (toString number)
  let rule ← p.rule
  return " " ++ label ++ " | " ++ String.ofList line ++ "\n" ++ rule ++ " " ++ marks ++ "\n"

/-- The numbered lines of the error. -/
def numbered (p : Place) : List (Nat × List Char) :=
  let shown := (p.lines.drop (p.firstLine - 1)).take (p.lastLine + 1 - p.firstLine)
  (List.range' p.firstLine shown.length).zip shown

end Place

/-- The text of an error: the summary and, if its place is known, the lines in question and the
hint. -/
def display (e : DatabaseError) : Except LayoutFault String :=
  match e.place? with
  | none => .ok e.summary
  | some place => do
    let rule ← place.rule
    let lines ← place.numbered.mapM fun (number, line) => place.lineText number line
    let hint := match e.hint? with
      | some hint => "Hint: " ++ hint
      | none => ""
    return e.summary ++ "\n" ++ rule ++ "\n" ++ String.join lines ++ hint

end DatabaseError

end GelClient
