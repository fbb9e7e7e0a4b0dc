import GelClient.Codec.Basic
import GelClient.Packet.Reader

/-!
# Type descriptors

The server describes a type by a stream of descriptors, each of which may refer to those before
it by their positions. There are two dialects. In the first, a descriptor is a type byte, an
identifier and a payload. In the second it stands behind its length, may carry a name and the
ancestors of its type, and may be an annotation without an identifier; what is left of its length
is passed over.
-/

namespace GelClient

open Packet (Get GetM Reader)

/-- An element of an object shape in a descriptor: the position is that of its type. -/
structure ShapeDescriptor where
  flags : UInt32
  cardinality : Option Cardinality
  name : String
  position : UInt16
  deriving DecidableEq, Repr

/-- What a descriptor describes. -/
inductive DescriptorKind where
  | set (element : UInt16)
  | objectShape (elements : List ShapeDescriptor)
  | baseScalar
  /-- A scalar that derives from others: from a base, or from its ancestors, nearest first. -/
  | scalar (base : Option UInt16) (ancestors : List UInt16)
  | tuple (elements : List UInt16)
  | namedTuple (elements : List (String × UInt16))
  | array (element : UInt16) (dimensions : List Int32)
  | enumeration (members : List String)
  | inputShape (elements : List ShapeDescriptor)
  | range (element : UInt16)
  | multirange (element : UInt16)
  /-- An object type by itself; makes no codec. -/
  | objectType
  | compound (operation : TypeOperation) (components : List UInt16)
  /-- A text about another descriptor; makes no codec. -/
  | note
  deriving DecidableEq, Repr

/-- Whether a descriptor makes a codec. -/
def DescriptorKind.hasCodec : DescriptorKind → Bool
  | .objectType | .note => false
  | _ => true

/-- A descriptor of a type, with the name of the type if the dialect has one. -/
structure Descriptor where
  id : Uuid
  name : Option String
  kind : DescriptorKind
  deriving DecidableEq, Repr

namespace Descriptor

/-- A reader for parts of descriptors. -/
abbrev Part := GetM CodecError

/-- Reads a position. -/
def position : Part UInt16 := Get.uint16

/-- Reads a count of two bytes and that many items. -/
def many {α : Type} (item : Part α) : Part (List α) := do
  let count ← Get.uint16
  GetM.times count.toNat item

/-- Reads a multiplicity. -/
def cardinality : Part (Option Cardinality) := do
  let byte ← Get.uint8
  match Cardinality.ofByte? byte with
  | some c => return some c
  | none => throw (.malformedDescriptor (.unknownCardinality byte))

/-- Reads an element of a shape, behind which the position of its source type may stand. -/
def shapeElement (withSource : Bool) : Part ShapeDescriptor := do
  let flags ← Get.uint32
  let cardinality ← cardinality
  let name ← Get.text
  let position ← position
  if withSource then Get.skip 2
  return { flags, cardinality, name, position }

/-- Reads an element of a named tuple. -/
def namedElement : Part (String × UInt16) := do
  let name ← Get.text
  let position ← position
  return (name, position)

/-- Reads the element and the dimensions of an array. -/
def arrayKind : Part DescriptorKind := do
  let element ← position
  let dimensions ← many Get.int32
  return .array element dimensions

/-- Reads the payload of a descriptor of the first dialect. -/
def firstDialectKind (type : UInt8) : Part DescriptorKind :=
  if type = 0 then return .set (← position)
  else if type = 1 then return .objectShape (← many (shapeElement false))
  else if type = 2 then return .baseScalar
  else if type = 3 then return .scalar (some (← position)) []
  else if type = 4 then return .tuple (← many position)
  else if type = 5 then return .namedTuple (← many namedElement)
  else if type = 6 then arrayKind
  else if type = 7 then return .enumeration (← many Get.text)
  else if type = 8 then return .inputShape (← many (shapeElement false))
  else if type = 9 then return .range (← position)
  else if 0x80 ≤ type then do
    let _ ← Get.text
    return .note
  else throw (.unknownDescriptor type)

/-- Reads a descriptor of the first dialect. -/
def firstDialect : Part Descriptor := do
  let type ← Get.uint8
  let id ← Get.uuid
  let kind ← firstDialectKind type
  return { id, name := none, kind }

/-- Reads the name of a type and whether the schema defines it, which is not kept. -/
def typeName : Part String := do
  let name ← Get.text
  let _ ← Get.bool
  return name

/-- Reads the name of a type and its ancestors. -/
def typeNameAndAncestors : Part (String × List UInt16) := do
  let name ← typeName
  let ancestors ← many position
  return (name, ancestors)

/-- Reads the name of a type, its ancestors, which are not kept, and its payload. -/
def named (payload : Part DescriptorKind) : Part (Option String × DescriptorKind) := do
  let (name, _) ← typeNameAndAncestors
  let kind ← payload
  return (some name, kind)

/-- Reads the operation of a compound type. -/
def operation : Part TypeOperation := do
  let byte ← Get.uint8
  match TypeOperation.ofByte? byte with
  | some op => return op
  | none => throw (.malformedDescriptor (.unknownOperation byte))

/-- Reads the name and the payload of a descriptor of the second dialect. -/
def secondDialectKind (type : UInt8) : Part (Option String × DescriptorKind) :=
  if type = 0 then return (none, .set (← position))
  else if type = 1 then do
    let _ ← Get.bool
    let _ ← position
    return (none, .objectShape (← many (shapeElement true)))
  else if type = 3 then do
    let (name, ancestors) ← typeNameAndAncestors
    return (some name, .scalar none ancestors)
  else if type = 4 then named do return .tuple (← many position)
  else if type = 5 then named do return .namedTuple (← many namedElement)
  else if type = 6 then named arrayKind
  else if type = 7 then named do return .enumeration (← many Get.text)
  else if type = 8 then return (none, .inputShape (← many (shapeElement false)))
  else if type = 9 then named do return .range (← position)
  else if type = 10 then return (some (← typeName), .objectType)
  else if type = 11 then do
    let name ← typeName
    let op ← operation
    return (some name, .compound op (← many position))
  else if type = 12 then named do return .multirange (← position)
  else throw (.unknownDescriptor type)

/-- Reads a descriptor of the second dialect from its own bytes. -/
def secondDialect : Part Descriptor := do
  let type ← Get.uint8
  if type = 0x7F then return { id := Uuid.nil, name := none, kind := .note }
  let id ← Get.uuid
  let (name, kind) ← secondDialectKind type
  return { id, name, kind }

/-- Reads a descriptor behind its length. -/
def secondDialectScoped : Part Descriptor := do
  let length ← Get.uint32
  let own ← Get.window length.toNat
  GetM.onReader own secondDialect

/-- Reads a descriptor in the dialect of a protocol version. -/
def one (version : ProtocolVersion) : Part Descriptor :=
  if 2 ≤ version.major then secondDialectScoped else firstDialect

/-- Reads descriptors to the end of the stream, behind those already found, last one first. The
bound counts the bytes that are left, of which every descriptor takes at least one. -/
def untilEnd (version : ProtocolVersion) : (bound : Nat) → (found : List Descriptor) →
    Part (List Descriptor)
  | 0, found => return found.reverse
  | bound + 1, found => do
    if (← get).isEmpty then return found.reverse
    let d ← one version
    untilEnd version bound (d :: found)

/-- The descriptors in a whole stream. -/
def parse (version : ProtocolVersion) (stream : Bytes) : Except CodecError (List Descriptor) :=
  (untilEnd version stream.length []).runOn stream

end Descriptor

end GelClient
