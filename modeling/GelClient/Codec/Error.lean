import GelClient.Packet.Error
import GelClient.Value.Basic

/-!
# Codec errors

What can go wrong when the codec of a type is built from its description, and when a value is
written or read with it.
-/

namespace GelClient

/-- What is wrong with a stream of type descriptors. -/
inductive DescriptorFault where
  /-- No descriptor of the stream makes a codec. -/
  | noRoot
  /-- The descriptor at `index` refers to one that does not stand before it. -/
  | badReference (index position : Nat)
  /-- A descriptor refers to one that makes no codec. -/
  | noCodecAt (position : Nat)
  /-- A descriptor that makes no codec is asked for one. -/
  | makesNoCodec
  | unknownCardinality (byte : UInt8)
  | unknownOperation (byte : UInt8)
  deriving DecidableEq, Repr, Inhabited

/-- The text shown for a fault of a descriptor stream. -/
def DescriptorFault.message : DescriptorFault → String
  | .noRoot => "descriptor stream has no root codec"
  | .badReference index position =>
    "descriptor " ++ toString index ++ " references position " ++ toString position
  | .noCodecAt position => "descriptor at position " ++ toString position ++ " has no codec"
  | .makesNoCodec => "descriptor produces no codec"
  | .unknownCardinality byte => "unknown cardinality 0x" ++ Uuid.hexText [byte]
  | .unknownOperation byte => "unknown type operation " ++ toString byte.toNat

/-- What is wrong with a value whose kind is right. -/
inductive ValueFault where
  | setNotSendable
  | notEnumMember (name : String)
  | unsupportedJsonFormat (format : UInt8)
  | notDecimal (text : String)
  | notInteger (text : String)
  | decimalScaleTooLarge
  | decimalTooManyDigits
  | decimalWeightTooLarge
  | bigintTooManyDigits
  | bigintWeightTooLarge
  /-- A group of four digits is ten thousand or more. -/
  | badDigitGroup (group : Nat)
  deriving DecidableEq, Repr, Inhabited

/-- The text shown for a fault of a value. -/
def ValueFault.message : ValueFault → String
  | .setNotSendable => "sets cannot be sent as values"
  | .notEnumMember name => "`" ++ name ++ "` is not an enum member"
  | .unsupportedJsonFormat format => "unsupported json format " ++ toString format.toNat
  | .notDecimal text => "`" ++ text ++ "` is not a decimal number"
  | .notInteger text => "`" ++ text ++ "` is not an integer"
  | .decimalScaleTooLarge => "decimal scale too large"
  | .decimalTooManyDigits => "decimal has too many digits"
  | .decimalWeightTooLarge => "decimal weight too large"
  | .bigintTooManyDigits => "bigint has too many digits"
  | .bigintWeightTooLarge => "bigint weight too large"
  | .badDigitGroup group => "digit group " ++ toString group ++ " is not below 10000"

/-- Why an object does not fit the type that it is read into. -/
inductive MappingFault where
  /-- The codec, whose type is named, is not one of objects. -/
  | notAnObject (typeName : String)
  | codecDropped
  /-- A required field is not part of the object's shape. -/
  | fieldNotInShape (name : String)
  /-- A required field has no value. -/
  | fieldMissing (name : String)
  /-- A text was expected in a field. -/
  | fieldNotText (name : String) (found : ValueKind)
  /-- A field cannot be converted from its kind of value. -/
  | fieldNotConvertible (name : String) (found : ValueKind)
  deriving DecidableEq, Repr, Inhabited

/-- The text shown for a mapping fault. -/
def MappingFault.message : MappingFault → String
  | .notAnObject typeName => typeName ++ " is not an object"
  | .codecDropped => "object codec was dropped"
  | .fieldNotInShape name => "field `" ++ name ++ "` is not part of the result"
  | .fieldMissing name => "field `" ++ name ++ "` is missing"
  | .fieldNotText name found => "field `" ++ name ++ "` expected str, found " ++ found.name
  | .fieldNotConvertible name found =>
    "field `" ++ name ++ "` cannot be converted from " ++ found.name

/-- A failure to build a codec or to convert a value with one. -/
inductive CodecError where
  /-- The bytes of the packet. -/
  | packet (cause : Packet.Error)
  | malformedDescriptor (fault : DescriptorFault)
  /-- The type byte of a descriptor is not known. -/
  | unknownDescriptor (byte : UInt8)
  /-- A base scalar is not a well known one. -/
  | unknownScalar (id : Uuid)
  /-- No codec is cached for a type. -/
  | missingCodec (id : Uuid)
  /-- A value has another number of elements than its type. -/
  | arityMismatch (expected : Nat) (found : Int)
  /-- The upper bound of an array lies below the lower one. -/
  | invalidBounds (lower upper : Int32)
  /-- An array does not have one dimension. -/
  | unsupportedDimensions (dimensions : Int)
  /-- The envelope of an array in a set does not hold one element. -/
  | invalidEnvelope (elements : Int32)
  /-- A required argument was not supplied. -/
  | missingArgument (name : String)
  /-- A supplied argument is not one that the query takes. -/
  | unknownArgument (name : String)
  /-- The index of an element is out of range. -/
  | invalidIndex (index : Int32) (count : Nat)
  /-- A value has another kind than its type asks for. -/
  | typeMismatch (expected : String) (found : ValueKind)
  /-- An object does not fit the type that it is read into. -/
  | typeMapping (target : String) (fault : MappingFault)
  /-- The kind of a value is right and its content is not. -/
  | invalidValue (fault : ValueFault)
  deriving DecidableEq, Repr, Inhabited

/-- The short name of a kind of codec error. -/
def CodecError.label : CodecError → String
  | .packet cause => "Binary." ++ cause.label
  | .malformedDescriptor _ => "MalformedDescriptor"
  | .unknownDescriptor _ => "UnknownDescriptor"
  | .unknownScalar _ => "UnknownScalar"
  | .missingCodec _ => "MissingCodec"
  | .arityMismatch .. => "ArityMismatch"
  | .invalidBounds .. => "InvalidBounds"
  | .unsupportedDimensions _ => "UnsupportedDimensions"
  | .invalidEnvelope _ => "InvalidEnvelope"
  | .missingArgument _ => "MissingArgument"
  | .unknownArgument _ => "UnknownArgument"
  | .invalidIndex .. => "InvalidIndex"
  | .typeMismatch .. => "TypeMismatch"
  | .typeMapping .. => "TypeMapping"
  | .invalidValue _ => "InvalidValue"

/-- The text shown for a codec error. -/
def CodecError.message : CodecError → String
  | .packet cause => cause.message
  | .malformedDescriptor fault => "malformed type descriptor: " ++ fault.message
  | .unknownDescriptor byte => "unknown type descriptor 0x" ++ Uuid.hexText [byte]
  | .unknownScalar id => "unknown base scalar " ++ id.toText
  | .missingCodec id => "no codec found for type " ++ id.toText
  | .arityMismatch expected found =>
    "expected " ++ toString expected ++ " elements, but got " ++ toString found
  | .invalidBounds lower upper =>
    "invalid array bounds, upper " ++ toString upper.toInt ++ " below lower "
      ++ toString lower.toInt
  | .unsupportedDimensions dimensions =>
    "only one dimension is supported, got " ++ toString dimensions
  | .invalidEnvelope elements =>
    "envelope should contain only one element, but contains " ++ toString elements.toInt
  | .missingArgument name => "missing required argument `" ++ name ++ "`"
  | .unknownArgument name => "argument `" ++ name ++ "` is not part of the query"
  | .invalidIndex index count =>
    "element index " ++ toString index.toInt ++ " out of range for " ++ toString count
      ++ " elements"
  | .typeMismatch expected found =>
    "type mismatch, expected " ++ expected ++ ", found " ++ found.name
  | .typeMapping target fault =>
    "failed to deserialize object to " ++ target ++ ": " ++ fault.message
  | .invalidValue fault => "invalid value: " ++ fault.message

instance : Packet.OfPacketError CodecError := ⟨.packet⟩

end GelClient
