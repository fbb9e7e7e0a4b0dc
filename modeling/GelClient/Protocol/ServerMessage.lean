import GelClient.Packet.Reader
import GelClient.Protocol.Error
import GelClient.Protocol.ErrorCode
import GelClient.Protocol.Frame
import GelClient.Protocol.Terms

/-!
# Server messages

What a server sends, one structure per kind of message, and how each body is read. A body may
go on behind its last field; what follows is ignored. A field outside its enumeration, a count
that the protocol does not allow and a body that breaks off are errors.
-/

namespace GelClient

/-- Pairs of a name and a value that a message carries for information. -/
abbrev Annotations := List (String × String)

/-- Values keyed by numbers of two bytes. -/
abbrev Attributes := List (UInt16 × Bytes)

/-- An extension of the protocol that the server offers. -/
structure ProtocolExtension where
  name : String
  annotations : Annotations
  deriving DecidableEq, Repr

/-- The version and the extensions that the server proposes instead of those asked for. -/
structure ServerHandshake where
  version : ProtocolVersion
  extensions : List ProtocolExtension
  deriving DecidableEq, Repr

/-- The state of the authentication. -/
inductive Authentication where
  /-- The client is authenticated. -/
  | ok
  /-- The client has to pick one of the methods, which stand in the server's order. -/
  | sasl (methods : List String)
  /-- A challenge of the chosen method. -/
  | saslContinue (data : Bytes)
  /-- The outcome of the chosen method. -/
  | saslFinal (data : Bytes)
  deriving DecidableEq, Repr

/-- An error of the server as it travels. -/
structure ErrorResponse where
  severity : ErrorSeverity
  code : ErrorCode
  message : String
  attributes : Attributes
  deriving DecidableEq, Repr

/-- A message for the client's log. -/
structure LogMessage where
  severity : LogSeverity
  code : ErrorCode
  text : String
  annotations : Annotations
  deriving DecidableEq, Repr

/-- The value of a parameter of the server. -/
structure ParameterStatus where
  name : Bytes
  value : Bytes
  deriving DecidableEq, Repr

/-- The server waits for a command. -/
structure ReadyForCommand where
  annotations : Annotations
  transactionState : TransactionState
  deriving DecidableEq, Repr

/-- A command succeeded. -/
structure CommandComplete where
  annotations : Annotations
  capabilities : Capabilities
  status : String
  stateTypeId : Uuid
  stateData : Option Bytes
  deriving DecidableEq, Repr

/-- The types of a compiled query. -/
structure CommandDataDescription where
  annotations : Annotations
  capabilities : Capabilities
  cardinality : Cardinality
  inputTypeId : Uuid
  inputDescriptors : Bytes
  outputTypeId : Uuid
  outputDescriptors : Bytes
  deriving DecidableEq, Repr

/-- The type of the session state. -/
structure StateDataDescription where
  typeId : Uuid
  descriptors : Bytes
  deriving DecidableEq, Repr

/-- The key of a session, 32 bytes that mean nothing to the client. -/
structure ServerKeyData where
  data : Bytes
  deriving DecidableEq, Repr

/-- The server is ready to restore a dump. -/
structure RestoreReady where
  annotations : Annotations
  jobs : UInt16
  deriving DecidableEq, Repr

/-- A type in a dump. -/
structure DumpType where
  name : String
  kind : String
  id : Uuid
  deriving DecidableEq, Repr

/-- An object in a dump, with the objects that it depends on. -/
structure DumpObject where
  id : Uuid
  description : Bytes
  dependencies : List Uuid
  deriving DecidableEq, Repr

/-- The first message of a dump. -/
structure DumpHeader where
  attributes : Attributes
  major : UInt16
  minor : UInt16
  schemaDdl : String
  types : List DumpType
  objects : List DumpObject
  deriving DecidableEq, Repr

/-- The messages of a server. -/
inductive ServerMessage where
  | serverHandshake (m : ServerHandshake)
  | authentication (m : Authentication)
  | errorResponse (m : ErrorResponse)
  | logMessage (m : LogMessage)
  | parameterStatus (m : ParameterStatus)
  | readyForCommand (m : ReadyForCommand)
  | commandComplete (m : CommandComplete)
  | commandDataDescription (m : CommandDataDescription)
  | stateDataDescription (m : StateDataDescription)
  | data (payload : Bytes)
  | serverKeyData (m : ServerKeyData)
  | restoreReady (m : RestoreReady)
  | dumpHeader (m : DumpHeader)
  | dumpBlock (attributes : Attributes)
  deriving DecidableEq, Repr

namespace ServerMessage

open Packet (Get GetM)

/-- A reader for the body of a message. -/
abbrev Body := GetM ProtocolError

/-- Reads the byte of an enumeration. -/
def enumeration {α : Type} (field : String) (ofByte? : UInt8 → Option α) : Body α := do
  let b ← Get.uint8
  match ofByte? b with
  | some a => pure a
  | none => throw (.invalidValue field (UInt64.ofNat b.toNat))

/-- Reads a code of the server. -/
def code : Body ErrorCode := return ⟨← Get.uint32⟩

/-- Reads a value that may be absent, which then is empty. -/
def blockOrEmpty : Body Bytes := return (← Get.block?).getD []

/-- Reads an extension of the protocol. -/
def protocolExtension : Body ProtocolExtension := do
  let name ← Get.text
  let annotations ← Get.annotations
  return { name, annotations }

/-- Reads the body of a handshake. -/
def handshakeBody : Body ServerHandshake := do
  let major ← Get.uint16
  let minor ← Get.uint16
  let count ← Get.uint16
  let extensions ← GetM.times count.toNat protocolExtension
  return { version := ⟨major, minor⟩, extensions }

/-- Reads the body of an authentication message. -/
def authenticationBody : Body Authentication := do
  let status ← Get.uint32
  if status = 0 then return .ok
  else if status = 10 then return .sasl (← Get.texts)
  else if status = 11 then return .saslContinue (← Get.block)
  else if status = 12 then return .saslFinal (← Get.block)
  else throw (.unknownAuthentication status)

/-- Reads the body of an error. -/
def errorBody : Body ErrorResponse := do
  let severity ← enumeration "error severity" ErrorSeverity.ofByte?
  let code ← code
  let message ← Get.text
  let attributes ← Get.attributes
  return { severity, code, message, attributes }

/-- Reads the body of a log message. -/
def logBody : Body LogMessage := do
  let severity ← enumeration "log severity" LogSeverity.ofByte?
  let code ← code
  let text ← Get.text
  let annotations ← Get.annotations
  return { severity, code, text, annotations }

/-- Reads the body of a parameter status. -/
def parameterBody : Body ParameterStatus := do
  let name ← Get.block
  let value ← Get.block
  return { name, value }

/-- Reads the body of a ready message. -/
def readyBody : Body ReadyForCommand := do
  let annotations ← Get.annotations
  let transactionState ← enumeration "transaction state" TransactionState.ofByte?
  return { annotations, transactionState }

/-- Reads the body of a completion. -/
def completeBody : Body CommandComplete := do
  let annotations ← Get.annotations
  let capabilities ← Get.uint64
  let status ← Get.text
  let stateTypeId ← Get.uuid
  let stateData ← Get.block?
  return { annotations, capabilities := ⟨capabilities⟩, status, stateTypeId, stateData }

/-- Reads the body of a data description. -/
def descriptionBody : Body CommandDataDescription := do
  let annotations ← Get.annotations
  let capabilities ← Get.uint64
  let cardinality ← enumeration "cardinality" Cardinality.ofByte?
  let inputTypeId ← Get.uuid
  let inputDescriptors ← blockOrEmpty
  let outputTypeId ← Get.uuid
  let outputDescriptors ← blockOrEmpty
  return {
    annotations, capabilities := ⟨capabilities⟩, cardinality, inputTypeId, inputDescriptors,
    outputTypeId, outputDescriptors }

/-- Reads the body of a state description. -/
def stateBody : Body StateDataDescription := do
  let typeId ← Get.uuid
  let descriptors ← blockOrEmpty
  return { typeId, descriptors }

/-- Reads the body of a data message, which holds one element. -/
def dataBody : Body Bytes := do
  let count ← Get.uint16
  if count ≠ 1 then throw (.dataCount count)
  Get.block

/-- Reads the body of a key. -/
def keyBody : Body ServerKeyData := return ⟨← Get.raw 32⟩

/-- Reads the body of a restore message. -/
def restoreBody : Body RestoreReady := do
  let annotations ← Get.annotations
  let jobs ← Get.uint16
  return { annotations, jobs }

/-- Reads a type in a dump. -/
def dumpType : Body DumpType := do
  let name ← Get.text
  let kind ← Get.text
  let id ← Get.uuid
  return { name, kind, id }

/-- Reads an object in a dump. -/
def dumpObject : Body DumpObject := do
  let id ← Get.uuid
  let description ← Get.block
  let count ← Get.uint16
  let dependencies ← GetM.times count.toNat Get.uuid
  return { id, description, dependencies }

/-- Reads the body of a dump header. -/
def dumpHeaderBody : Body DumpHeader := do
  let attributes ← Get.attributes
  let major ← Get.uint16
  let minor ← Get.uint16
  let schemaDdl ← Get.text
  let typeCount ← Get.uint32
  let types ← GetM.times typeCount.toNat dumpType
  let objectCount ← Get.uint32
  let objects ← GetM.times objectCount.toNat dumpObject
  return { attributes, major, minor, schemaDdl, types, objects }

/-- Reads the body of a dump block. -/
def dumpBlockBody : Body Attributes := Get.attributes

/-- Reads the body of a message of the given kind. -/
def body : MessageKind → Body ServerMessage
  | .serverHandshake => return .serverHandshake (← handshakeBody)
  | .authentication => return .authentication (← authenticationBody)
  | .errorResponse => return .errorResponse (← errorBody)
  | .logMessage => return .logMessage (← logBody)
  | .parameterStatus => return .parameterStatus (← parameterBody)
  | .readyForCommand => return .readyForCommand (← readyBody)
  | .commandComplete => return .commandComplete (← completeBody)
  | .commandDataDescription => return .commandDataDescription (← descriptionBody)
  | .stateDataDescription => return .stateDataDescription (← stateBody)
  | .data => return .data (← dataBody)
  | .serverKeyData => return .serverKeyData (← keyBody)
  | .restoreReady => return .restoreReady (← restoreBody)
  | .dumpHeader => return .dumpHeader (← dumpHeaderBody)
  | .dumpBlock => return .dumpBlock (← dumpBlockBody)

/-- The kind of a message. -/
def kind : ServerMessage → MessageKind
  | .serverHandshake _ => .serverHandshake
  | .authentication _ => .authentication
  | .errorResponse _ => .errorResponse
  | .logMessage _ => .logMessage
  | .parameterStatus _ => .parameterStatus
  | .readyForCommand _ => .readyForCommand
  | .commandComplete _ => .commandComplete
  | .commandDataDescription _ => .commandDataDescription
  | .stateDataDescription _ => .stateDataDescription
  | .data _ => .data
  | .serverKeyData _ => .serverKeyData
  | .restoreReady _ => .restoreReady
  | .dumpHeader _ => .dumpHeader
  | .dumpBlock _ => .dumpBlock

/-- The message with the given type byte and body. -/
def decode (typeByte : UInt8) (bytes : Bytes) : Except ProtocolError ServerMessage :=
  match MessageKind.ofByte? typeByte with
  | some k => (body k).runOn bytes
  | none => .error (.unknown typeByte)

/-- The message with the given type byte and body, which must be of the given kind. -/
def decodeAs (k : MessageKind) (typeByte : UInt8) (bytes : Bytes) :
    Except ProtocolError ServerMessage :=
  if typeByte = k.toByte then (body k).runOn bytes
  else .error (.unexpected (some k.toByte) typeByte none)

/-- The message that a frame holds. -/
def ofFrame (f : Frame) : Except ProtocolError ServerMessage := decode f.kind f.body

end ServerMessage

end GelClient
