import GelClient.BigEndian

/-!
# SCRAM messages

A message is a list of attributes between commas, each a letter, an equals sign and a value. A
user name may hold neither commas nor equals signs, so these are written as `=2C` and `=3D`.
-/

namespace GelClient.Scram

/-- The attribute in a piece of a message; none if the piece is not a letter, an equals sign and
a value. -/
def attribute? : List Char → Option (Char × List Char)
  | key :: '=' :: value => if key = '=' then none else some (key, value)
  | _ => none

/-- The attributes of a message. -/
def attributes (message : List Char) : List (Char × List Char) :=
  (message.splitOn ',').filterMap attribute?

/-- The value of the first attribute with a letter. -/
def value? (key : Char) (attributes : List (Char × List Char)) : Option (List Char) :=
  (attributes.find? (·.1 == key)).map (·.2)

/-- A piece before a comma is read before the rest. -/
theorem attributes_append {piece : List Char} (h : ',' ∉ piece) (rest : List Char) :
    attributes (piece ++ ',' :: rest) = (attribute? piece).toList ++ attributes rest := by
  unfold attributes
  rw [List.splitOn_append_cons_self_of_not_mem h, List.filterMap_cons]
  cases attribute? piece <;> rfl

/-- A message without commas is one piece. -/
theorem attributes_of_notMem {piece : List Char} (h : ',' ∉ piece) :
    attributes piece = (attribute? piece).toList := by
  unfold attributes
  rw [List.splitOn_eq_singleton h, List.filterMap_cons]
  cases attribute? piece <;> rfl

/-- A character of a user name as it stands in a message. -/
def escapeChar (c : Char) : List Char :=
  if c = '=' then ['=', '3', 'D'] else if c = ',' then ['=', '2', 'C'] else [c]

/-- A user name as it stands in a message. -/
def escapeName (name : List Char) : List Char :=
  name.flatMap escapeChar

/-- The user name that stands in a message. -/
def unescapeName : List Char → List Char
  | '=' :: '2' :: 'C' :: rest => ',' :: unescapeName rest
  | '=' :: '3' :: 'D' :: rest => '=' :: unescapeName rest
  | c :: rest => c :: unescapeName rest
  | [] => []

/-- A name is escaped character by character. -/
theorem escapeName_cons (c : Char) (rest : List Char) :
    escapeName (c :: rest) = escapeChar c ++ escapeName rest :=
  List.flatMap_cons

/-- An escaped name holds no comma. -/
theorem comma_notMem_escapeName (name : List Char) : ',' ∉ escapeName name := by
  intro h
  obtain ⟨c, _, hc⟩ := List.mem_flatMap.mp h
  unfold escapeChar at hc
  split at hc
  · simp at hc
  · split at hc
    · simp at hc
    · simp only [List.mem_singleton] at hc
      exact absurd hc.symm ‹_›

/-- Every name can be read back. -/
theorem unescapeName_escapeName (name : List Char) : unescapeName (escapeName name) = name := by
  induction name with
  | nil => rfl
  | cons c rest ih =>
    rw [escapeName_cons, escapeChar]
    split
    · next h => subst h; simp [unescapeName, ih]
    · next h =>
      split
      · next h => subst h; simp [unescapeName, ih]
      · rw [List.singleton_append, unescapeName, ih]
        · rintro _ h' _; exact h h'
        · rintro _ h' _; exact h h'

end GelClient.Scram
