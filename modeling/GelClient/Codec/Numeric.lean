import GelClient.Codec.Error
import GelClient.Packet.Reader
import GelClient.Packet.Writer

/-!
# Records of decimal numbers

Numbers of any size travel as a record: a count of groups, the weight of the first one, a sign
and a scale, two bytes each, and then the groups of four decimal digits, two bytes each. A
group at position `i` counts for itself times ten thousand to the power of the weight less `i`.
A record may hold fewer groups than its weight and scale ask for; those missing are zero.
-/

namespace GelClient

open Packet (Put PutM Get GetM)

/-- The sign word of a negative number. -/
def negativeSign : UInt16 := 0x4000

/-- Writes the header of a record and its groups. -/
def putRecord (weight : Int) (negative : Bool) (scale : Nat) (groups : List Nat) : Put Unit := do
  Put.uint16 (UInt16.ofNat groups.length)
  Put.int16 (Int16.ofInt weight)
  Put.uint16 (if negative then negativeSign else 0)
  Put.uint16 (UInt16.ofNat scale)
  groups.forM fun group => Put.uint16 (UInt16.ofNat group)

/-- The header of a record. -/
structure RecordHeader where
  /-- How many groups the record holds. -/
  present : Nat
  /-- The weight of the first group. -/
  weight : Int
  negative : Bool
  scale : Nat
  deriving DecidableEq, Repr

/-- Reads the header of a record; every sign word but zero is a minus. -/
def getHeader : GetM CodecError RecordHeader := do
  let present ← Get.uint16
  let weight ← Get.int16
  let sign ← Get.uint16
  let scale ← Get.uint16
  return {
    present := present.toNat, weight := weight.toInt, negative := sign != 0, scale := scale.toNat }

/-- Reads a group, which must be below ten thousand. -/
def getGroup : GetM CodecError Nat := do
  let group := (← Get.uint16).toNat
  if group < 10000 then pure group else throw (.invalidValue (.badDigitGroup group))

/-- Reads the groups at the positions from `start` on, of a record with `present` groups, behind
the groups already found, last one first. Positions that the record does not hold are zero. -/
def getGroupsFrom (present : Nat) (found : List Nat) : (start : Int) → (count : Nat) →
    GetM CodecError (List Nat)
  | _, 0 => pure found.reverse
  | start, count + 1 => do
    let group ← if 0 ≤ start ∧ start < present then getGroup else pure 0
    getGroupsFrom present (group :: found) (start + 1) count

/-- Reads the groups at `count` positions from `start` on. -/
def getGroups (present : Nat) (start : Int) (count : Nat) : GetM CodecError (List Nat) :=
  getGroupsFrom present [] start count

/-- The digits of groups, four for each. -/
def Digits.ofGroups (groups : List Nat) : Digits :=
  groups.flatMap Digits.ofGroup

namespace Decimal

/-- The number that a text denotes. -/
def parse (text : String) : Except CodecError Decimal :=
  match ofText? text with
  | some d => .ok d
  | none => .error (.invalidValue (.notDecimal text))

/-- The integral digits that are written, which are none if the integral part is zero. -/
def integralDigits (d : Decimal) : Digits :=
  if d.integral == [0] then [] else d.integral

/-- Writes a number. Zero has no groups and loses its sign. -/
def put (d : Decimal) : PutM CodecError Unit := do
  if 2 ^ (16 : Nat) ≤ d.scale then throw (.invalidValue .decimalScaleTooLarge)
  if d.isZero then putRecord 0 false d.scale []
  else
    let integral := d.integralDigits.padFront
    let groups := (integral ++ d.fraction.padBack).groups
    let integralGroups := integral.length / 4
    if 2 ^ (16 : Nat) ≤ groups.length then throw (.invalidValue .decimalTooManyDigits)
    if 2 ^ (15 : Nat) ≤ integralGroups then throw (.invalidValue .decimalWeightTooLarge)
    putRecord ((integralGroups : Int) - 1) d.negative d.scale groups

/-- The number with some groups on either side of the point, cut to a scale. Zero has no sign. -/
def ofGroups (negative : Bool) (scale : Nat) (integral fraction : List Nat) : Decimal :=
  unsignedZero {
    negative
    integral := (Digits.ofGroups integral).canonical
    fraction := (Digits.ofGroups fraction).take scale }

/-- Reads a number, cutting its groups to the scale of the record. -/
def get : GetM CodecError Decimal := do
  let header ← getHeader
  let integral ← getGroups header.present 0 (header.weight + 1).toNat
  let fraction ← getGroups header.present (header.weight + 1) (Digits.groupCount header.scale)
  return ofGroups header.negative header.scale integral fraction

end Decimal

namespace BigInt

/-- The integer that a text denotes. -/
def parse (text : String) : Except CodecError BigInt :=
  match ofText? text with
  | some n => .ok n
  | none => .error (.invalidValue (.notInteger text))

/-- Writes an integer. Zero has no groups. -/
def put (n : BigInt) : PutM CodecError Unit := do
  if n.isZero then putRecord 0 false 0 []
  else
    let groups := n.digits.padFront.groups
    if 2 ^ (16 : Nat) ≤ groups.length then throw (.invalidValue .bigintTooManyDigits)
    if 2 ^ (15 : Nat) ≤ groups.length then throw (.invalidValue .bigintWeightTooLarge)
    putRecord ((groups.length : Int) - 1) n.negative 0 groups

/-- Reads an integer; the scale of the record has no meaning. -/
def get : GetM CodecError BigInt := do
  let header ← getHeader
  let groups ← getGroups header.present 0 (header.weight + 1).toNat
  return ofDigits header.negative (Digits.ofGroups groups)

end BigInt

end GelClient
