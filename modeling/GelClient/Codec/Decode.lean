import GelClient.Codec.Basic

/-!
# Reading values

A codec reads a value from a payload of its own. The elements of a container stand behind their
length and are read from exactly the bytes that it counts; the length -1 is an absent element.
An object uses up its whole payload, whatever its elements leave unread.
-/

namespace GelClient

open Packet (Get GetM Reader)

namespace Codec

/-- Reads an element of a container from its own bytes. -/
def getElementWith (payload : GetM CodecError Value) : GetM CodecError Value := do
  match ← Get.window? with
  | some own => GetM.onReader own payload
  | none => return .nothing

/-- Reads a bound or an interval from its own bytes, which must be present. -/
def getBlockWith {α : Type} (payload : GetM CodecError α) : GetM CodecError α := do
  let bytes ← Get.block
  GetM.onReader (Reader.ofBytes bytes) payload

/-- Reads the header of an array: its dimensions, two words without meaning, and the bounds of
the only dimension. Gives the number of items. -/
def getArrayCount : GetM CodecError Nat := do
  let dimensions ← Get.int32
  Get.skip 8
  if dimensions = 0 then return 0
  if dimensions ≠ 1 then throw (.unsupportedDimensions dimensions.toInt)
  let upper ← Get.int32
  let lower ← Get.int32
  if upper < lower then throw (.invalidBounds lower upper)
  return (upper.toInt - lower.toInt + 1).toNat

/-- Reads a count of elements, which must be the expected one. -/
def getCount (expected : Nat) : GetM CodecError Unit := do
  let found ← Get.int32
  if found.toInt ≠ expected then throw (.arityMismatch expected found.toInt)

/-- Reads an array inside a set, which stands in an envelope of one element. -/
def getEnvelopedWith (payload : GetM CodecError Value) : GetM CodecError Value := do
  let length ← Get.int32
  if length < 0 then return .nothing
  let envelope ← Get.window length.toNatClampNeg
  GetM.onReader envelope do
    let elements ← Get.int32
    if elements ≠ 1 then throw (.invalidEnvelope elements)
    Get.skip 4
    getElementWith payload

/-- Reads a bound of an interval, unless it is infinite. -/
def getBoundWith (payload : GetM CodecError Value) (isInfinite : Bool) :
    GetM CodecError (Option Value) := do
  if isInfinite then return none
  return some (← getBlockWith payload)

/-- Reads an interval: its flags and the bounds that it has. -/
def getRangeWith (payload : GetM CodecError Value) : GetM CodecError (Range Value) := do
  let flags ← Get.uint8
  if flags &&& 0x01 ≠ 0 then return Range.empty
  let lower ← getBoundWith payload (flags &&& 0x08 != 0)
  let upper ← getBoundWith payload (flags &&& 0x10 != 0)
  return {
    lower, upper, includesLower := flags &&& 0x02 != 0, includesUpper := flags &&& 0x04 != 0,
    isEmpty := false }

/-- Takes the reader at hand for an action of its own and leaves an empty one. -/
def getWhole {α : Type} (payload : GetM CodecError α) : GetM CodecError α := do
  let own ← modifyGet fun r => (r, {})
  GetM.onReader own payload

mutual

/-- Reads a value from a payload. -/
def get : Codec → GetM CodecError Value
  | .null => return .nothing
  | .scalar s => s.get
  | .array item => do
    let count ← getArrayCount
    return .array (← GetM.times count (getElementWith item.get))
  | .set item => do
    let count ← getArrayCount
    let element :=
      if item.isArray then getEnvelopedWith item.get else getElementWith item.get
    return .set (← GetM.times count element)
  | .range bound => return .range (← getRangeWith bound.get)
  | .multirange bound => do
    let count ← Get.int32
    return .multirange (← GetM.times count.toNatClampNeg (getBlockWith (getRangeWith bound.get)))
  | .tuple codecs => do
    getCount codecs.length
    return .tuple (← getItems codecs)
  | .namedTuple codecs => do
    getCount codecs.length
    return .namedTuple (← getNamed codecs)
  | .object shape => getWhole do
    getCount shape.length
    return .object (← getShape shape)
  | .sparseObject shape => do
    let count ← Get.int32
    if count < 0 ∨ shape.length < count.toNatClampNeg then
      throw (.arityMismatch shape.length count.toInt)
    return .object (← GetM.times count.toNatClampNeg do
      let index ← Get.int32
      if index < 0 then throw (.invalidIndex index shape.length)
      getSparse shape index.toNatClampNeg (.invalidIndex index shape.length))
  | .enumeration members => do
    let name ← Scalar.restText
    if members.contains name then return .enumMember name
    else throw (.invalidValue (.notEnumMember name))
  | .compound _ members => do
    getCount members.length
    return .tuple (← getItems members)

/-- Reads one element with each codec, behind a reserved word. -/
def getItems : List Codec → GetM CodecError (List Value)
  | [] => return []
  | c :: cs => do
    Get.skip 4
    let v ← getElementWith c.get
    let vs ← getItems cs
    return v :: vs

/-- Reads the fields of a named tuple, behind reserved words. -/
def getNamed : List (String × Codec) → GetM CodecError (List (String × Value))
  | [] => return []
  | (name, c) :: cs => do
    Get.skip 4
    let v ← getElementWith c.get
    let vs ← getNamed cs
    return (name, v) :: vs

/-- Reads the elements of an object in the order of its shape, behind reserved words. -/
def getShape : List (ShapeElement Codec) → GetM CodecError (List (String × Value))
  | [] => return []
  | e :: es => do
    Get.skip 4
    let v ← getElementWith e.codec.get
    let vs ← getShape es
    return (e.name, v) :: vs

/-- Reads the element of a sparse object at a position of its shape. -/
def getSparse : List (ShapeElement Codec) → Nat → CodecError → GetM CodecError (String × Value)
  | [], _, outOfRange => throw outOfRange
  | e :: _, 0, _ => return (e.name, ← getElementWith e.codec.get)
  | _ :: es, index + 1, outOfRange => getSparse es index outOfRange

end

/-- The payload of a scalar is read by the scalar. -/
theorem get_scalar (s : Scalar) : get (.scalar s) = s.get := by rw [get]

/-- Reads an element of a container. -/
def getElement (c : Codec) : GetM CodecError Value := getElementWith c.get

/-- The value in a payload, whatever it leaves unread. -/
def decode (c : Codec) (payload : Bytes) : Except CodecError Value := c.get.runOn payload

end Codec

end GelClient
