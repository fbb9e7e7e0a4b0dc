/-!
# The shortest decimal of a floating point number

The shortest decimal that reads back as a given floating point number, and of the shortest ones
the nearest. The number is decoded into a mantissa and a power of two; the reals that round to
it are an interval around it, whose ends belong to it when the mantissa is even. On the grid of
decimals with one digit, then with two and so on, only the two neighbours of the number can be
the nearest in the interval, and the first grid with a hit wins. All arithmetic is exact.

`FloatLayout` says how many decimal places are written without an exponent.
-/

namespace GelClient

/-- A format of floating point numbers: the bits of its mantissa and of its exponent, and which
decimal exponents are written out. -/
structure FloatLayout where
  mantissaBits : Nat
  exponentBits : Nat
  /-- The most digits in front of the point. -/
  wholeDigits : Int
  /-- The most zeros between the point and the first digit. -/
  leadingZeros : Int

/-- Single precision: whole parts of up to 13 digits and up to five zeros are written out. -/
def FloatLayout.single : FloatLayout := ⟨23, 8, 13, 5⟩

/-- Double precision: whole parts of up to 16 digits and up to four zeros are written out. -/
def FloatLayout.double : FloatLayout := ⟨52, 11, 16, 4⟩

namespace Shortest

/-- A positive number as a mantissa times a power of two, and whether the number below it is
only half as far as the one above. -/
structure Binary where
  mantissa : Nat
  exponent : Int
  nearBelow : Bool

/-- The number with the given exponent and mantissa fields. -/
def Binary.ofFields (layout : FloatLayout) (exponentField mantissaField : Nat) : Binary :=
  let bias : Int := 2 ^ (layout.exponentBits - 1) - 1 + layout.mantissaBits
  if exponentField = 0 then { mantissa := mantissaField, exponent := 1 - bias, nearBelow := false }
  else {
    mantissa := 2 ^ layout.mantissaBits + mantissaField
    exponent := exponentField - bias
    nearBelow := mantissaField == 0 && exponentField != 1 }

/-- A fraction with a positive denominator. -/
structure Fraction where
  numerator : Nat
  denominator : Nat

/-- A natural number times a power of two. -/
def Fraction.scaled (n : Nat) (exponent : Int) : Fraction :=
  if 0 ≤ exponent then ⟨n * 2 ^ exponent.toNat, 1⟩ else ⟨n, 2 ^ (-exponent).toNat⟩

/-- The number of decimal digits of a natural number. -/
def digitCount (n : Nat) : Nat := (Nat.toDigits 10 n).length

/-- The greatest power of ten that a positive fraction reaches. -/
def Fraction.decimalExponent (f : Fraction) : Int :=
  if f.denominator ≤ f.numerator then (digitCount (f.numerator / f.denominator) : Int) - 1
  else -(digitCount ((f.denominator - 1) / f.numerator) : Int)

/-- A natural number times a power of ten, compared with a fraction. -/
def compareDecimal (n : Nat) (exponent : Int) (f : Fraction) : Ordering :=
  if 0 ≤ exponent then compare (n * 10 ^ exponent.toNat * f.denominator) f.numerator
  else compare (n * f.denominator) (f.numerator * 10 ^ (-exponent).toNat)

/-- The greatest natural number whose product with a power of ten a fraction reaches. -/
def floorDecimal (exponent : Int) (f : Fraction) : Nat :=
  if 0 ≤ exponent then f.numerator / (f.denominator * 10 ^ exponent.toNat)
  else f.numerator * 10 ^ (-exponent).toNat / f.denominator

/-- A decimal: a natural number times a power of ten. -/
structure Decimal10 where
  digits : Nat
  exponent : Int
  deriving DecidableEq, Repr

/-- A decimal without zeros at its end; the bound counts the zeros that may be dropped. -/
def Decimal10.stripped : (bound : Nat) → Decimal10 → Decimal10
  | 0, d => d
  | bound + 1, d =>
    if d.digits ≠ 0 ∧ d.digits % 10 = 0 then
      stripped bound { digits := d.digits / 10, exponent := d.exponent + 1 }
    else d

/-- The nearest decimal on the grid of a power of ten that reads back as the number, if there is
one. Of two that are equally near the even one is taken. -/
def onGrid (b : Binary) (exponent : Int) : Option Decimal10 :=
  let at' (quarters : Nat) := Fraction.scaled quarters (b.exponent - 2)
  let value := at' (4 * b.mantissa)
  let low := at' (4 * b.mantissa - if b.nearBelow then 1 else 2)
  let high := at' (4 * b.mantissa + 2)
  let closed := b.mantissa % 2 == 0
  let readsBack (n : Nat) : Bool :=
    match compareDecimal n exponent low, compareDecimal n exponent high with
    | .gt, .lt => true
    | .eq, _ => closed
    | _, .eq => closed
    | _, _ => false
  let below := floorDecimal exponent value
  let twice : Fraction := ⟨value.numerator * 2, value.denominator⟩
  match readsBack below, readsBack (below + 1) with
  | false, false => none
  | true, false => some ⟨below, exponent⟩
  | false, true => some ⟨below + 1, exponent⟩
  | true, true =>
    match compareDecimal (2 * below + 1) exponent twice with
    | .gt => some ⟨below, exponent⟩
    | .lt => some ⟨below + 1, exponent⟩
    | .eq => some ⟨if below % 2 = 0 then below else below + 1, exponent⟩

/-- The nearest decimal on the first of the grids from a power of ten downwards that has one. -/
def search (b : Binary) : (grids : Nat) → (exponent : Int) → Decimal10
  | 0, exponent => ⟨floorDecimal exponent (Fraction.scaled b.mantissa b.exponent), exponent⟩
  | grids + 1, exponent => (onGrid b exponent).getD (search b grids (exponent - 1))

/-- The shortest decimal of a positive number; 17 digits always suffice. -/
def ofBinary (b : Binary) : Decimal10 :=
  let top := (Fraction.scaled b.mantissa b.exponent).decimalExponent
  (search b 17 top).stripped 20

/-- The text of a positive decimal. It has a point or an exponent. -/
def text (layout : FloatLayout) (d : Decimal10) : String :=
  let digits := Nat.toDigits 10 d.digits
  let count : Int := digits.length
  let whole := count + d.exponent
  let zeros (n : Int) := List.replicate n.toNat '0'
  if 0 ≤ d.exponent ∧ whole ≤ layout.wholeDigits then
    String.ofList (digits ++ zeros d.exponent) ++ ".0"
  else if 0 < whole ∧ whole ≤ layout.wholeDigits then
    String.ofList (digits.take whole.toNat ++ '.' :: digits.drop whole.toNat)
  else if -layout.leadingZeros ≤ whole ∧ whole ≤ 0 then
    "0." ++ String.ofList (zeros (-whole) ++ digits)
  else
    let mantissa := if count = 1 then digits else digits.take 1 ++ '.' :: digits.drop 1
    String.ofList mantissa ++ "e" ++ toString (whole - 1)

/-- The text of a floating point number given by its bits; none if it is not finite. -/
def floatText? (layout : FloatLayout) (bits : Nat) : Option String :=
  let mantissaField := bits % 2 ^ layout.mantissaBits
  let exponentField := bits / 2 ^ layout.mantissaBits % 2 ^ layout.exponentBits
  let sign := if 2 ^ (layout.mantissaBits + layout.exponentBits) ≤ bits then "-" else ""
  if exponentField = 2 ^ layout.exponentBits - 1 then none
  else if exponentField = 0 ∧ mantissaField = 0 then some (sign ++ "0.0")
  else
    some (sign ++ text layout (ofBinary (Binary.ofFields layout exponentField mantissaField)))

end Shortest

end GelClient
