import GelClient.Number.Shortest

/-!
# The nearest double precision number

The double precision number nearest to a fraction, by exact arithmetic: the fraction is divided
by the power of two that leaves a quotient of 53 bits, or by the smallest one there is, and the
quotient is rounded, a half to the even neighbour. Numbers are given by their bits, so that a
rounding up to the next power of two carries into the exponent by itself. Past the greatest
finite number lies infinity.
-/

namespace GelClient.Double

/-- The bits of positive infinity. -/
def infinity : Nat := 0x7FF * 2 ^ (52 : Nat)

/-- The bit of the sign. -/
def signBit : Nat := 2 ^ (63 : Nat)

/-- A quotient rounded to the nearest natural number, a half to the even one. -/
def roundedQuotient (n d : Nat) : Nat :=
  let q := n / d
  match compare (2 * (n % d)) d with
  | .lt => q
  | .gt => q + 1
  | .eq => q + q % 2

/-- The exponent of the last bit of the number nearest to a positive fraction. -/
def unitExponent (n d : Nat) : Int :=
  let guess : Int := (n.log2 : Int) - d.log2 - 52
  let scaled := Shortest.Fraction.scaled d guess
  let short := n * scaled.denominator < 2 ^ (52 : Nat) * scaled.numerator
  max (-1074) (if short then guess - 1 else guess)

/-- The bits of the number nearest to `n / d`. -/
def nearest (n d : Nat) : Nat :=
  if n = 0 then 0
  else
    let e := unitExponent n d
    let scaled := Shortest.Fraction.scaled d e
    let m := roundedQuotient (n * scaled.denominator) scaled.numerator
    min ((e + 1074).toNat * 2 ^ (52 : Nat) + m) infinity

/-- The fraction that the bits of a finite number without sign denote. -/
def toFraction (bits : Nat) : Shortest.Fraction :=
  let b := Shortest.Binary.ofFields .double (bits / 2 ^ (52 : Nat)) (bits % 2 ^ (52 : Nat))
  Shortest.Fraction.scaled b.mantissa b.exponent

/-- The product of two finite numbers without sign, rounded. -/
def mul (a b : Nat) : Nat :=
  let a := toFraction a
  let b := toFraction b
  nearest (a.numerator * b.numerator) (a.denominator * b.denominator)

/-- The quotient of two finite numbers without sign, rounded; the second is not zero. -/
def div (a b : Nat) : Nat :=
  let a := toFraction a
  let b := toFraction b
  nearest (a.numerator * b.denominator) (a.denominator * b.numerator)

/-- The number nearest to a power of ten. -/
def tenTo (k : Nat) : Nat := nearest (10 ^ k) 1

/-- Nothing is nearest to zero but zero. -/
@[simp]
theorem nearest_zero (d : Nat) : nearest 0 d = 0 := by
  simp [nearest]

end GelClient.Double
