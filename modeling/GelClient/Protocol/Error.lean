import GelClient.Packet.Error

/-!
# Protocol errors

The kinds of message that a server sends, each with its type byte and its name, and what can
be wrong with a frame of the server.
-/

namespace GelClient

/-- The kinds of message that a server sends. -/
inductive MessageKind where
  | serverHandshake
  | authentication
  | errorResponse
  | logMessage
  | parameterStatus
  | readyForCommand
  | commandComplete
  | commandDataDescription
  | stateDataDescription
  | data
  | serverKeyData
  | restoreReady
  | dumpHeader
  | dumpBlock
  deriving DecidableEq, Repr, Inhabited

namespace MessageKind

/-- Every kind of message. -/
def all : List MessageKind := [
  .serverHandshake, .authentication, .errorResponse, .logMessage, .parameterStatus,
  .readyForCommand, .commandComplete, .commandDataDescription, .stateDataDescription, .data,
  .serverKeyData, .restoreReady, .dumpHeader, .dumpBlock]

/-- The type byte of a kind of message. -/
def toByte : MessageKind → UInt8
  | .serverHandshake => 0x76
  | .authentication => 0x52
  | .errorResponse => 0x45
  | .logMessage => 0x4C
  | .parameterStatus => 0x53
  | .readyForCommand => 0x5A
  | .commandComplete => 0x43
  | .commandDataDescription => 0x54
  | .stateDataDescription => 0x73
  | .data => 0x44
  | .serverKeyData => 0x4B
  | .restoreReady => 0x2B
  | .dumpHeader => 0x40
  | .dumpBlock => 0x3D

/-- The kind of message with the given type byte. -/
def ofByte? (b : UInt8) : Option MessageKind := all.find? (·.toByte == b)

/-- The name of a kind of message. -/
def name : MessageKind → String
  | .serverHandshake => "ServerHandshake"
  | .authentication => "Authentication"
  | .errorResponse => "ErrorResponse"
  | .logMessage => "LogMessage"
  | .parameterStatus => "ParameterStatus"
  | .readyForCommand => "ReadyForCommand"
  | .commandComplete => "CommandComplete"
  | .commandDataDescription => "CommandDataDescription"
  | .stateDataDescription => "StateDataDescription"
  | .data => "Data"
  | .serverKeyData => "ServerKeyData"
  | .restoreReady => "RestoreReady"
  | .dumpHeader => "DumpHeader"
  | .dumpBlock => "DumpBlock"

/-- The name for a type byte in diagnostics. -/
def nameOfByte (b : UInt8) : String :=
  ((ofByte? b).map name).getD "Unknown"

/-- Reading the type byte of a kind of message gives it back. -/
@[simp]
theorem ofByte?_toByte (k : MessageKind) : ofByte? k.toByte = some k := by
  cases k <;> rfl

end MessageKind

/-- What is wrong with a frame of the server. -/
inductive ProtocolError where
  /-- A message of type `found` came where another one was due, or in a phase that has no place
  for it. -/
  | unexpected (expected : Option UInt8) (found : UInt8) (phase : Option String)
  /-- The length of a frame is smaller than its own field. -/
  | invalidLength (length : UInt32)
  /-- A field holds a value that its enumeration does not have. -/
  | invalidValue (field : String) (value : UInt64)
  /-- An authentication message has an unknown status. -/
  | unknownAuthentication (status : UInt32)
  /-- A data message does not carry exactly one element. -/
  | dataCount (count : UInt16)
  /-- The body of a message is not laid out as it should be. -/
  | malformed (cause : Packet.Error)
  deriving DecidableEq, Repr, Inhabited

namespace ProtocolError

/-- A message type that the client does not know. -/
def unknown (found : UInt8) : ProtocolError := .unexpected none found none

/-- A message type that has no place in a phase. -/
def unexpectedIn (phase : String) (found : UInt8) : ProtocolError :=
  .unexpected none found (some phase)

/-- The short name of a kind of protocol error. -/
def label : ProtocolError → String
  | .unexpected .. => "Unexpected"
  | .invalidLength _ => "InvalidLength"
  | .invalidValue .. => "InvalidValue"
  | .unknownAuthentication _ => "UnknownAuth"
  | .dataCount _ => "DataCount"
  | .malformed cause => "Malformed." ++ cause.label

/-- The text shown for a protocol error. -/
def message : ProtocolError → String
  | .unexpected expected found phase =>
    let found := "`" ++ MessageKind.nameOfByte found ++ "`"
    let subject := match expected with
      | some kind => "Expected message `" ++ MessageKind.nameOfByte kind ++ "` found " ++ found
      | none => "Unexpected message " ++ found
    match phase with
    | some phase => subject ++ " in `" ++ phase ++ "`"
    | none => subject
  | .invalidLength length => "Invalid frame length " ++ toString length.toNat
  | .invalidValue field value =>
    "Invalid " ++ field ++ " value 0x" ++ String.ofList (Nat.toDigits 16 value.toNat)
  | .unknownAuthentication status =>
    "Unknown authentication status " ++ toString status.toNat
  | .dataCount count => "Expected one element in `Data`, found " ++ toString count.toNat
  | .malformed cause => "Malformed message: " ++ cause.message

end ProtocolError

instance : Packet.OfPacketError ProtocolError := ⟨.malformed⟩

end GelClient
