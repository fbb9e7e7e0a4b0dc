/-!
# Decimal digits

Numbers of any size are kept as lists of decimal digits, most significant first, and travel in
groups of four digits. A digit list is canonical as an integer when it has no leading zero
unless it is the single digit zero.
-/

namespace GelClient

/-- A decimal digit. -/
abbrev Digit := Fin 10

/-- There is a digit zero. -/
instance Digit.neZero : NeZero 10 := ⟨nofun⟩

/-- Decimal digits, most significant first. -/
abbrev Digits := List Digit

namespace Digits

/-- The number that digits denote. -/
def value (ds : Digits) : Nat :=
  ds.foldl (fun n d => n * 10 + d.val) 0

/-- The digit that a character denotes. -/
def ofChar? (c : Char) : Option Digit :=
  if c.isDigit then some (Fin.ofNat 10 (c.toNat - '0'.toNat)) else none

/-- The character of a digit. -/
def toChar (d : Digit) : Char :=
  Char.ofNat ('0'.toNat + d.val)

/-- The digits that characters denote, none unless all of them are ASCII digits. -/
def ofChars? (cs : List Char) : Option Digits :=
  cs.mapM ofChar?

/-- The characters of digits. -/
def toChars (ds : Digits) : List Char :=
  ds.map toChar

/-- The text of digits. -/
def toText (ds : Digits) : String :=
  String.ofList (toChars ds)

/-- The canonical digits of a number. -/
def ofNat (n : Nat) : Digits :=
  (Nat.toDigits 10 n).map fun c => Fin.ofNat 10 (c.toNat - '0'.toNat)

/-- Whether all digits are zero. -/
def allZero (ds : Digits) : Bool :=
  ds.all (· == 0)

/-- Digits without leading zeros; at least one digit is kept, and no digits are zero. -/
def canonical (ds : Digits) : Digits :=
  match ds.dropWhile (· == 0) with
  | [] => [0]
  | rest => rest

/-- The number of groups of four that a count of digits takes. -/
def groupCount (count : Nat) : Nat := (count + 3) / 4

/-- Digits with zeros in front, up to a whole number of groups. -/
def padFront (ds : Digits) : Digits :=
  List.replicate (groupCount ds.length * 4 - ds.length) 0 ++ ds

/-- Digits with zeros behind, up to a whole number of groups. -/
def padBack (ds : Digits) : Digits :=
  ds ++ List.replicate (groupCount ds.length * 4 - ds.length) 0

/-- The numbers that groups of four digits denote, behind those already found, last one
first. -/
def groupsFrom (found : List Nat) : Digits → List Nat
  | a :: b :: c :: d :: rest => groupsFrom (value [a, b, c, d] :: found) rest
  | [] => found.reverse
  | short => (value short :: found).reverse

/-- The numbers that groups of four digits denote. -/
def groups (ds : Digits) : List Nat := groupsFrom [] ds

/-- The four digits of a number below ten thousand. -/
def ofGroup (n : Nat) : Digits :=
  [Fin.ofNat 10 (n / 1000), Fin.ofNat 10 (n / 100), Fin.ofNat 10 (n / 10), Fin.ofNat 10 n]

/-- A group has four digits. -/
@[simp]
theorem length_ofGroup (n : Nat) : (ofGroup n).length = 4 := rfl

/-- The digits of a group denote it. -/
theorem value_ofGroup {n : Nat} (h : n < 10000) : value (ofGroup n) = n := by
  simp [value, ofGroup, Fin.ofNat]
  omega

/-- Canonical digits are never empty. -/
theorem canonical_ne_nil (ds : Digits) : canonical ds ≠ [] := by
  unfold canonical
  split <;> simp_all

/-- A leading zero is superfluous. -/
@[simp]
theorem canonical_zero_cons (ds : Digits) : canonical (0 :: ds) = canonical ds := by
  simp [canonical]

/-- Digits that start with another digit than zero are canonical. -/
theorem canonical_cons {d : Digit} (h : d ≠ 0) (ds : Digits) : canonical (d :: ds) = d :: ds := by
  simp [canonical, h]

/-- Canonical digits stay as they are. -/
@[simp]
theorem canonical_canonical (ds : Digits) : canonical (canonical ds) = canonical ds := by
  induction ds with
  | nil => rfl
  | cons d ds ih =>
    by_cases h : d = 0
    · rw [h, canonical_zero_cons, ih]
    · rw [canonical_cons h, canonical_cons h]

end Digits

end GelClient
