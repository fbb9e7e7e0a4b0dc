import GelClient.Json.Number

/-!
# Reading JSON

A text is cut into tokens, and the tokens are read with a stack of the arrays and objects that
are still open. At most 127 of them may be open at once. The fields of an object are kept in the
order of their keys, and of several fields with one key the last one counts.
-/

namespace GelClient.JsonDocument

/-- A piece of the text of a document. -/
inductive Token where
  | openArray
  | closeArray
  | openObject
  | closeObject
  | comma
  | colon
  /-- A string, which is a key or a document. -/
  | text (s : String)
  /-- Any other document of one piece. -/
  | atom (d : JsonDocument)

/-- The value of a hexadecimal digit. -/
def hexDigit? (c : Char) : Option Nat :=
  if c.isDigit then some (c.toNat - '0'.toNat)
  else if 'a' ≤ c ∧ c ≤ 'f' then some (c.toNat - 'a'.toNat + 10)
  else if 'A' ≤ c ∧ c ≤ 'F' then some (c.toNat - 'A'.toNat + 10)
  else none

/-- The number that four hexadecimal digits denote. -/
def unit? (a b c d : Char) : Option Nat := do
  return (← hexDigit? a) * 4096 + (← hexDigit? b) * 256 + (← hexDigit? c) * 16 + (← hexDigit? d)

/-- Whether a unit is the first half of a pair. -/
def isLeading (unit : Nat) : Bool := 0xD800 ≤ unit && unit < 0xDC00

/-- Whether a unit is the second half of a pair. -/
def isTrailing (unit : Nat) : Bool := 0xDC00 ≤ unit && unit < 0xE000

/-- The character that a letter behind a backslash stands for. -/
def unescape? (c : Char) : Option Char :=
  match c with
  | '"' | '\\' | '/' => some c
  | 'b' => some (Char.ofNat 0x08)
  | 'f' => some (Char.ofNat 0x0C)
  | 'n' => some '\n'
  | 'r' => some '\r'
  | 't' => some '\t'
  | _ => none

/-- The rest of a string up to its closing quote, behind the characters already found, last one
first, and what follows it. -/
def stringBody? (found : List Char) : List Char → Option (String × List Char)
  | '"' :: rest => some (String.ofList found.reverse, rest)
  | '\\' :: 'u' :: a :: b :: c :: d :: '\\' :: 'u' :: e :: f :: g :: h :: rest =>
    match unit? a b c d with
    | none => none
    | some first =>
      if isTrailing first then none
      else if isLeading first then
        match unit? e f g h with
        | none => none
        | some second =>
          if isTrailing second then
            let c := Char.ofNat ((first - 0xD800) * 1024 + (second - 0xDC00) + 0x10000)
            stringBody? (c :: found) rest
          else none
      else stringBody? (Char.ofNat first :: found) ('\\' :: 'u' :: e :: f :: g :: h :: rest)
  | '\\' :: 'u' :: a :: b :: c :: d :: rest =>
    match unit? a b c d with
    | none => none
    | some unit =>
      if isLeading unit || isTrailing unit then none
      else stringBody? (Char.ofNat unit :: found) rest
  | '\\' :: c :: rest =>
    match unescape? c with
    | some c => stringBody? (c :: found) rest
    | none => none
  | c :: rest => if c.toNat < 0x20 ∨ c = '\\' then none else stringBody? (c :: found) rest
  | [] => none

/-- Reading a string uses up at least its closing quote. -/
theorem length_lt_of_stringBody? {found cs rest : List Char} {s : String}
    (h : stringBody? found cs = some (s, rest)) : rest.length < cs.length := by
  fun_induction stringBody? found cs <;> simp_all <;> omega

/-- Whether a character may stand in a number. -/
def isNumberChar (c : Char) : Bool :=
  c.isDigit || c == '-' || c == '+' || c == '.' || c == 'e' || c == 'E'

/-- The tokens of a text, none if it has a piece that is no token. -/
def tokens? (text : List Char) : Option (List Token) :=
  match text with
  | [] => some []
  | ' ' :: rest | '\n' :: rest | '\t' :: rest | '\r' :: rest => tokens? rest
  | '[' :: rest => (tokens? rest).map (.openArray :: ·)
  | ']' :: rest => (tokens? rest).map (.closeArray :: ·)
  | '{' :: rest => (tokens? rest).map (.openObject :: ·)
  | '}' :: rest => (tokens? rest).map (.closeObject :: ·)
  | ',' :: rest => (tokens? rest).map (.comma :: ·)
  | ':' :: rest => (tokens? rest).map (.colon :: ·)
  | 'n' :: 'u' :: 'l' :: 'l' :: rest => (tokens? rest).map (.atom .null :: ·)
  | 't' :: 'r' :: 'u' :: 'e' :: rest => (tokens? rest).map (.atom (.bool true) :: ·)
  | 'f' :: 'a' :: 'l' :: 's' :: 'e' :: rest => (tokens? rest).map (.atom (.bool false) :: ·)
  | '"' :: rest =>
    match h : stringBody? [] rest with
    | some (s, rest') =>
      have := length_lt_of_stringBody? h
      (tokens? rest').map (.text s :: ·)
    | none => none
  | c :: rest =>
    have := (List.dropWhile_sublist isNumberChar (l := rest)).length_le
    match number? (c :: rest.takeWhile isNumberChar) with
    | some d => (tokens? (rest.dropWhile isNumberChar)).map (.atom d :: ·)
    | none => none
termination_by text.length
decreasing_by all_goals simp_all <;> omega

/-- An array or object that is still open. An array has its items so far, last one first, and an
object its fields in the order of their keys and the key read last. -/
inductive Container where
  | array (items : List JsonDocument)
  | object (fields : List (String × JsonDocument)) (key : String)

/-- What may come next. -/
inductive Expectation where
  /-- A document. -/
  | item
  /-- A document or the end of an array that is still empty. -/
  | itemOrEnd
  /-- The key of a field. -/
  | key
  /-- A key or the end of an object that is still empty. -/
  | keyOrEnd
  /-- The colon behind a key. -/
  | colon
  /-- A comma or an end behind a document. -/
  | separator (d : JsonDocument)

/-- How many arrays and objects may be open at once. -/
def depthLimit : Nat := 127

/-- The fields of an object with one more, in the order of keys. -/
def insertField (key : String) (d : JsonDocument) :
    List (String × JsonDocument) → List (String × JsonDocument)
  | [] => [(key, d)]
  | (k, x) :: rest =>
    if key < k then (key, d) :: (k, x) :: rest
    else if key = k then (key, d) :: rest
    else (k, x) :: insertField key d rest

/-- Opens an array or object unless too many are open. -/
def enter? (opened : List Container) (c : Container) (next : Expectation) :
    Option (List Container × Expectation) :=
  if opened.length < depthLimit then some (c :: opened, next) else none

/-- What one token does to the open containers and to what may come next. -/
def step? (opened : List Container) : Expectation → Token →
    Option (List Container × Expectation)
  | .item, .atom d | .itemOrEnd, .atom d => some (opened, .separator d)
  | .item, .text s | .itemOrEnd, .text s => some (opened, .separator (.string s))
  | .item, .openArray | .itemOrEnd, .openArray => enter? opened (.array []) .itemOrEnd
  | .item, .openObject | .itemOrEnd, .openObject =>
    enter? opened (.object [] "") .keyOrEnd
  | .itemOrEnd, .closeArray =>
    match opened with
    | .array items :: outer => some (outer, .separator (.array items.reverse))
    | _ => none
  | .key, .text key | .keyOrEnd, .text key =>
    match opened with
    | .object fields _ :: outer => some (.object fields key :: outer, .colon)
    | _ => none
  | .keyOrEnd, .closeObject =>
    match opened with
    | .object fields _ :: outer => some (outer, .separator (.object fields))
    | _ => none
  | .colon, .colon => some (opened, .item)
  | .separator d, .comma =>
    match opened with
    | .array items :: outer => some (.array (d :: items) :: outer, .item)
    | .object fields key :: outer => some (.object (insertField key d fields) key :: outer, .key)
    | [] => none
  | .separator d, .closeArray =>
    match opened with
    | .array items :: outer => some (outer, .separator (.array (d :: items).reverse))
    | _ => none
  | .separator d, .closeObject =>
    match opened with
    | .object fields key :: outer => some (outer, .separator (.object (insertField key d fields)))
    | _ => none
  | _, _ => none

/-- The document that a text holds; none if the text is not one document. -/
def parse? (text : String) : Option JsonDocument := do
  let tokens ← tokens? text.toList
  let (opened, last) ← tokens.foldlM (fun (opened, next) t => step? opened next t) ([], .item)
  match opened, last with
  | [], .separator d => some d
  | _, _ => none

end GelClient.JsonDocument
