/-!
# Numbers in text

Reading an unsigned number that was written in decimal: an optional plus sign and at least one
ASCII digit, and nothing else. Leading zeros are allowed; a number past the limit is not.
-/

namespace GelClient.Text

/-- The number that decimal digits denote, none if a character is not an ASCII digit. -/
def digitsValue? (digits : List Char) : Option Nat :=
  digits.foldlM (fun n c => if c.isDigit then some (n * 10 + (c.toNat - '0'.toNat)) else none) 0

/-- The digits of a number without its optional plus sign. -/
def withoutPlus : List Char → List Char
  | '+' :: rest => rest
  | digits => digits

/-- The unsigned number that a text denotes, if it is below `2 ^ bits`. -/
def unsigned? (bits : Nat) (s : String) : Option Nat := do
  let digits := withoutPlus s.toList
  if digits.isEmpty then none
  else
    let n ← digitsValue? digits
    if n < 2 ^ bits then some n else none

/-- A text on the right of a field of `width` characters, with blanks before it. -/
def padLeft (width : Nat) (s : String) : String :=
  "".pushn ' ' (width - s.length) ++ s

/-- A number read is below the limit. -/
theorem lt_of_unsigned? {bits n : Nat} {s : String} (h : unsigned? bits s = some n) :
    n < 2 ^ bits := by
  unfold unsigned? at h
  simp only at h
  split at h
  · cases h
  · cases hd : digitsValue? (withoutPlus s.toList) with
    | none => simp [hd] at h
    | some m =>
      simp only [hd, Option.bind_eq_bind, Option.bind_some] at h
      split at h
      · exact Option.some.inj h ▸ ‹_›
      · cases h

end GelClient.Text
