import Std.Data.HashMap

/-!
# Sets of code points

Sets of characters as ranges of code points, written in hexadecimal: `A0` is one code point and
`2000-200B` a range. The ranges of a set are in ascending order, so membership is decided by
halving.
-/

namespace GelClient.Text

/-- A set of code points, as ascending ranges with both ends. -/
structure CodePoints where
  ranges : Array (Nat × Nat)

namespace CodePoints

/-- The value of a hexadecimal digit in upper case. -/
def digit (c : Char) : Nat :=
  if c.isDigit then c.toNat - '0'.toNat else c.toNat - 'A'.toNat + 10

/-- The number that hexadecimal digits denote. -/
def ofHex (s : String) : Nat :=
  s.foldl (fun n c => n * 16 + digit c) 0

/-- The pieces between the blanks of some lines. -/
def fields (lines : List String) : List String :=
  lines.flatMap (·.splitOn " ")

/-- The ends of a range. -/
def rangeOfText (s : String) : Nat × Nat :=
  match s.splitOn "-" with
  | [low, high] => (ofHex low, ofHex high)
  | _ => (ofHex s, ofHex s)

/-- The set that lines of ranges denote. -/
def ofTexts (lines : List String) : CodePoints :=
  ⟨((fields lines).map rangeOfText).toArray⟩

/-- Whether a range from the index `low` on and before `high` contains a code point. -/
def containsBetween (s : CodePoints) (n : Nat) (low high : Nat) : Bool :=
  if _h : low < high then
    let middle := (low + high) / 2
    let (first, last) := s.ranges.getD middle (0, 0)
    if n < first then s.containsBetween n low middle
    else if last < n then s.containsBetween n (middle + 1) high
    else true
  else false
termination_by high - low

/-- Whether a set contains a character. -/
def contains (s : CodePoints) (c : Char) : Bool :=
  s.containsBetween c.toNat 0 s.ranges.size

end CodePoints

end GelClient.Text
