import GelClient.Number.Digits
import GelClient.Text.Blank

/-!
# Decimal numbers

An exact decimal number with its sign, its integral digits and its fraction digits. The integral
digits are canonical. Trailing zeros of the fraction are part of the number's scale and are kept. The text of a number is an
optional sign and digits with at most one point among them; at least one digit must be there,
on whichever side of the point.
-/

namespace GelClient

/-- Splits off a sign: whether it is a minus, and what follows it. -/
def splitSign : List Char → Bool × List Char
  | '-' :: rest => (true, rest)
  | '+' :: rest => (false, rest)
  | text => (false, text)

/-- A decimal number. -/
@[ext]
structure Decimal where
  negative : Bool
  integral : Digits
  fraction : Digits
  canonical_integral : integral.canonical = integral := by simp
  deriving DecidableEq, Repr

namespace Decimal

/-- The number of fraction digits. -/
def scale (d : Decimal) : Nat := d.fraction.length

/-- Whether the number is zero. -/
def isZero (d : Decimal) : Bool := d.integral.allZero && d.fraction.allZero

/-- Splits a text at its first point. -/
def splitPoint (text : List Char) : List Char × List Char :=
  (text.takeWhile (· != '.'), (text.dropWhile (· != '.')).drop 1)

/-- The number that a text denotes. White space around it is passed over. -/
def ofText? (text : String) : Option Decimal := do
  let (negative, unsigned) := splitSign (Text.trim text.toList)
  let (whole, part) := splitPoint unsigned
  if whole.isEmpty && part.isEmpty then none
  else
    let integral ← Digits.ofChars? whole
    let fraction ← Digits.ofChars? part
    return { negative, integral := integral.canonical, fraction }

/-- The text of a number: a minus sign if it is negative, and a point only before fraction
digits. -/
def toText (d : Decimal) : String :=
  let sign := if d.negative then "-" else ""
  let point := if d.fraction.isEmpty then "" else "." ++ d.fraction.toText
  sign ++ d.integral.toText ++ point

instance : ToString Decimal := ⟨toText⟩

/-- The number without a sign if it is zero. -/
def unsignedZero (d : Decimal) : Decimal :=
  if d.isZero then { d with negative := false } else d

/-- The number has a scale of its own that the sign does not touch. -/
@[simp]
theorem scale_unsignedZero (d : Decimal) : d.unsignedZero.scale = d.scale := by
  unfold unsignedZero
  split <;> rfl

end Decimal

end GelClient
