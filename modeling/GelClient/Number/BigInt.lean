import GelClient.Number.Decimal

/-!
# Integers of any size

An integer with its sign and its digits, which are canonical: there is no leading zero and no
negative zero.
-/

namespace GelClient

/-- An integer of any size. -/
@[ext]
structure BigInt where
  negative : Bool
  digits : Digits
  canonical_digits : digits.canonical = digits
  unsigned_zero : digits = [0] → negative = false
  deriving Repr

instance : DecidableEq BigInt := fun _ _ => decidable_of_iff' _ BigInt.ext_iff

namespace BigInt

/-- Whether the integer is the canonical zero. -/
def isZero (n : BigInt) : Bool := n.digits == [0]

/-- The canonical integer with the given sign and digits. -/
def ofDigits (negative : Bool) (digits : Digits) : BigInt :=
  { negative := negative && digits.canonical != [0]
    digits := digits.canonical
    canonical_digits := Digits.canonical_canonical digits
    unsigned_zero := fun h => by simp [h] }

/-- The integer that a text denotes. White space around it is passed over. -/
def ofText? (text : String) : Option BigInt := do
  let (negative, unsigned) := splitSign (Text.trim text.toList)
  if unsigned.isEmpty then none
  else
    let digits ← Digits.ofChars? unsigned
    return ofDigits negative digits

/-- A number of the host as an integer. -/
def ofInt (n : Int) : BigInt :=
  ofDigits (n < 0) (Digits.ofNat n.natAbs)

/-- The number that an integer denotes. -/
def toInt (n : BigInt) : Int :=
  if n.negative then -(n.digits.value : Int) else n.digits.value

/-- The text of an integer. -/
def toText (n : BigInt) : String :=
  (if n.negative then "-" else "") ++ n.digits.toText

instance : ToString BigInt := ⟨toText⟩

end BigInt

end GelClient
