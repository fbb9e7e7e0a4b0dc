import GelClient.Json.Document
import GelClient.Number.Nearest

/-!
# Numbers in JSON

Reading a number. One without fraction and exponent that fits in 64 bits, signed or unsigned, is
kept as a whole number; any other becomes a floating point number. Its digits are collected in a
significand of 64 bits: a digit that does not fit is dropped and, in front of the point, counted
in the exponent. The significand is then scaled by a power of ten, one rounding at a time, so the
result may be a neighbour of the nearest number. A number past the greatest finite one is refused.
-/

namespace GelClient.JsonDocument

/-- The digits of a number read so far: those that fit, and the power of ten that they are to be
multiplied by. -/
structure Significand where
  digits : Nat
  exponent : Int

namespace Significand

/-- Whether there is room for one more digit. -/
def hasRoom (s : Significand) (digit : Nat) : Bool :=
  s.digits * 10 + digit < 2 ^ (64 : Nat)

/-- The digit that a character denotes. -/
def digit (c : Char) : Nat := c.toNat - '0'.toNat

/-- One more digit in front of the point. -/
def pushWhole (s : Significand) (c : Char) : Significand :=
  if s.exponent = 0 ∧ s.hasRoom (digit c) then { s with digits := s.digits * 10 + digit c }
  else { s with exponent := s.exponent + 1 }

/-- The digits behind the point; all are dropped from the first on that does not fit. -/
def pushPlaces (s : Significand) : List Char → Significand
  | [] => s
  | c :: rest =>
    if s.hasRoom (digit c) then
      pushPlaces { digits := s.digits * 10 + digit c, exponent := s.exponent - 1 } rest
    else s

end Significand

/-- The greatest power of ten by which a number is scaled at once. -/
def longestScale : Nat := 308

/-- A number divided by a power of ten, at most `longestScale` places at a time; the bound counts
the divisions. -/
def scaleDown (bound : Nat) (bits places : Nat) : Nat :=
  match bound with
  | 0 => bits
  | bound + 1 =>
    if places ≤ longestScale then Double.div bits (Double.tenTo places)
    else if bits = 0 then 0
    else scaleDown bound (Double.div bits (Double.tenTo longestScale)) (places - longestScale)

/-- The number that a significand denotes, none if it is too great. Three divisions reach zero
from any significand. -/
def scale? (s : Significand) : Option Nat :=
  let bits := Double.nearest s.digits 1
  if s.exponent < 0 then some (scaleDown 5 bits (-s.exponent).toNat)
  else if bits = 0 then some 0
  else if longestScale < s.exponent then none
  else
    let product := Double.mul bits (Double.tenTo s.exponent.toNat)
    if product = Double.infinity then none else some product

/-- The bits of a number with its sign. -/
def signed (negative : Bool) (bits : Nat) : JsonDocument :=
  double (.ofNat (if negative then bits + Double.signBit else bits))

/-- The exponent that an optional sign and at least one digit denote, as far as exponents are
told apart. -/
def exponent? (text : List Char) : Option Int :=
  let (negative, digits) := match text with
    | '-' :: rest => (true, rest)
    | '+' :: rest => (false, rest)
    | rest => (false, rest)
  if digits.isEmpty || !digits.all Char.isDigit then none
  else
    let n : Int := digits.foldl (fun n c => n * 10 + Significand.digit c) 0
    some (if negative then -n else n)

/-- The floating point number with the given digits and exponent part. -/
def withExponent? (negative : Bool) (s : Significand) : List Char → Option JsonDocument
  | [] => (scale? s).map (signed negative)
  | c :: rest =>
    if c = 'e' ∨ c = 'E' then do
      let e ← exponent? rest
      (scale? { s with exponent := s.exponent + e }).map (signed negative)
    else none

/-- A whole number; zero and numbers below the signed range become floating point numbers when
they are negative. -/
def ofWhole (negative : Bool) (n : Nat) : JsonDocument :=
  if negative then
    if n = 0 ∨ 2 ^ (63 : Nat) < n then signed true (Double.nearest n 1) else integer (-n)
  else integer n

/-- The number that a text without its sign denotes. -/
def unsignedNumber? (negative : Bool) (text : List Char) : Option JsonDocument :=
  let whole := text.takeWhile Char.isDigit
  let rest := text.dropWhile Char.isDigit
  let malformed := match whole with
    | [] => true
    | '0' :: _ :: _ => true
    | _ => false
  if malformed then none
  else
    let s := whole.foldl Significand.pushWhole ⟨0, 0⟩
    match rest with
    | [] => if s.exponent = 0 then some (ofWhole negative s.digits) else withExponent? negative s []
    | '.' :: rest =>
      let places := rest.takeWhile Char.isDigit
      if places.isEmpty then none
      else withExponent? negative (s.pushPlaces places) (rest.dropWhile Char.isDigit)
    | rest => withExponent? negative s rest

/-- The number that a text denotes. -/
def number? : List Char → Option JsonDocument
  | '-' :: rest => unsignedNumber? true rest
  | text => unsignedNumber? false text

end GelClient.JsonDocument
