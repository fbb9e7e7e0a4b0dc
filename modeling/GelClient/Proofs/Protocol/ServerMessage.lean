import GelClient.Proofs.Packet.Convey
import GelClient.Protocol.ServerMessage
import Mathlib.Algebra.Group.Nat.Defs

/-!
# Server messages on the wire

For every kind of message there is one way in which a server writes it, field by field in the order of
the format, and bounds within which the fields fit their lengths and counts. Within these bounds each
message is conveyed to the reader of its kind: it is read with all its fields, and what stands behind it
in the body makes no difference.
-/

namespace GelClient

open Packet (Put PutM Get GetM Conveys AnnotationsFit AttributesFit TextsFit)
open Packet.Put (conveys_annotations conveys_attributes conveys_block conveys_block_of_reads
  conveys_count_four conveys_count_two conveys_text conveys_texts conveys_uint16 conveys_uint32
  conveys_uint64 conveys_uuid)

/-- How a server leaves out a value that may be absent: the negative length that it writes, and whether
it leaves out empty descriptors. -/
structure Omission where
  length : Int32
  leavesOutEmpty : Bool
  length_neg : length < 0

/-- Writes bytes that may be absent. -/
def Omission.put (o : Omission) : Option Bytes → Put Unit
  | some bytes => Put.block bytes
  | none => Put.int32 o.length

/-- Writes descriptors, which may be left out if there are none. -/
def Omission.putOrEmpty (o : Omission) (bytes : Bytes) : Put Unit :=
  o.put (if o.leavesOutEmpty ∧ bytes = [] then none else some bytes)

/-- Bytes that may be absent are conveyed. -/
theorem Omission.conveys_put (o : Omission) {bytes : Option Bytes} (h : ∀ b ∈ bytes, b.length < 2 ^ 31) :
    Conveys (o.put bytes) Get.block? bytes := by
  cases bytes with
  | none => exact .of_raw (Get.reads_block?_of_neg o.length_neg)
  | some b =>
    have hb : b.length < 2 ^ 31 := h b rfl
    exact conveys_block_of_reads (by omega) (Get.reads_block? hb)

namespace ServerMessage

/-- The byte of an enumeration is read as the member that it stands for. -/
theorem reads_enumeration {α : Type} (field : String) {ofByte? : UInt8 → Option α} {b : UInt8} {a : α}
    (h : ofByte? b = some a) :
    Packet.GetM.Reads (enumeration field ofByte?) (BigEndian.encode 1 b.toNat) a := by
  refine (Get.reads_uint8 b).lift.bind_nil ?_
  rw [h]
  exact GetM.reads_pure a

/-- The byte of an enumeration is conveyed as the member that it stands for. -/
theorem conveys_enumeration {α : Type} (field : String) {ofByte? : UInt8 → Option α} {b : UInt8} {a : α}
    (h : ofByte? b = some a) : Conveys (Put.uint8 b) (enumeration field ofByte?) a :=
  .of_raw (reads_enumeration field h)

/-- A code of the server is conveyed. -/
theorem conveys_code (c : ErrorCode) : Conveys (Put.uint32 c.value) code c :=
  (conveys_uint32 c.value).lift.bind_pure

/-- Descriptors are conveyed, whether or not empty ones are left out. -/
theorem conveys_blockOrEmpty (o : Omission) {bytes : Bytes} (h : bytes.length < 2 ^ 31) :
    Conveys (o.putOrEmpty bytes) blockOrEmpty bytes := by
  rw [Omission.putOrEmpty]
  split
  next hempty =>
    rw [hempty.2]
    exact (o.conveys_put (by simp)).lift.bind_pure
  next =>
    have hbytes : ∀ b ∈ some bytes, b.length < 2 ^ 31 := by
      intro b hb
      rwa [← Option.some.inj hb]
    exact (o.conveys_put hbytes).lift.bind_pure

end ServerMessage

namespace ProtocolExtension

/-- Writes an extension. -/
def put (e : ProtocolExtension) : Put Unit := do
  Put.text e.name
  Put.annotations e.annotations

/-- An extension whose fields fit. -/
structure Fits (e : ProtocolExtension) : Prop where
  name_lt : (Utf8.encode e.name).length < 2 ^ 31
  annotations_fit : AnnotationsFit e.annotations

/-- An extension is conveyed. -/
theorem conveys_put {e : ProtocolExtension} (h : e.Fits) :
    Conveys e.put ServerMessage.protocolExtension e := by
  refine (conveys_text h.name_lt).lift.bind ?_
  exact (conveys_annotations h.annotations_fit).lift.bind_pure

end ProtocolExtension

namespace ServerHandshake

/-- Writes the body of a handshake. -/
def put (m : ServerHandshake) : Put Unit := do
  Put.uint16 m.version.major
  Put.uint16 m.version.minor
  PutM.counted .two m.extensions ProtocolExtension.put

/-- A handshake whose extensions fit, as does their number. -/
structure Fits (m : ServerHandshake) : Prop where
  length_lt : m.extensions.length < 2 ^ 16
  extensions_fit : ∀ e ∈ m.extensions, e.Fits

/-- A handshake is conveyed. -/
theorem conveys_put {m : ServerHandshake} (h : m.Fits) : Conveys m.put ServerMessage.handshakeBody m := by
  refine (conveys_uint16 _).lift.bind ?_
  refine (conveys_uint16 _).lift.bind ?_
  exact .counted_bind_pure (conveys_count_two h.length_lt).lift (UInt16.toNat_ofNat_of_lt' h.length_lt)
    fun e he => ProtocolExtension.conveys_put (h.extensions_fit e he)

end ServerHandshake

namespace Authentication

/-- Writes the body of an authentication message: its status and what belongs to it. -/
def put : Authentication → Put Unit
  | ok => Put.uint32 0
  | sasl methods => do
    Put.uint32 10
    Put.texts methods
  | saslContinue data => do
    Put.uint32 11
    Put.block data
  | saslFinal data => do
    Put.uint32 12
    Put.block data

/-- An authentication message whose fields fit. -/
def Fits : Authentication → Prop
  | ok => True
  | sasl methods => TextsFit methods
  | saslContinue data | saslFinal data => data.length < 2 ^ 31

/-- An authentication message is conveyed. -/
theorem conveys_put {m : Authentication} (h : m.Fits) :
    Conveys m.put ServerMessage.authenticationBody m := by
  cases m with
  | ok => exact (conveys_uint32 0).lift.bind_nil (GetM.reads_pure _)
  | sasl methods =>
    exact (conveys_uint32 10).lift.bind (conveys_texts h).lift.bind_pure
  | saslContinue data =>
    exact (conveys_uint32 11).lift.bind (conveys_block h).lift.bind_pure
  | saslFinal data =>
    exact (conveys_uint32 12).lift.bind (conveys_block h).lift.bind_pure

end Authentication

namespace ErrorResponse

/-- Writes the body of an error. -/
def put (m : ErrorResponse) : Put Unit := do
  Put.uint8 m.severity.toByte
  Put.uint32 m.code.value
  Put.text m.message
  Put.attributes m.attributes

/-- An error whose fields fit. -/
structure Fits (m : ErrorResponse) : Prop where
  message_lt : (Utf8.encode m.message).length < 2 ^ 31
  attributes_fit : AttributesFit m.attributes

/-- An error is conveyed. -/
theorem conveys_put {m : ErrorResponse} (h : m.Fits) : Conveys m.put ServerMessage.errorBody m := by
  refine (ServerMessage.conveys_enumeration _ m.severity.ofByte?_toByte).bind ?_
  refine (ServerMessage.conveys_code m.code).bind ?_
  refine (conveys_text h.message_lt).lift.bind ?_
  exact (conveys_attributes h.attributes_fit).lift.bind_pure

end ErrorResponse

namespace LogMessage

/-- Writes the body of a log message. -/
def put (m : LogMessage) : Put Unit := do
  Put.uint8 m.severity.toByte
  Put.uint32 m.code.value
  Put.text m.text
  Put.annotations m.annotations

/-- A log message whose fields fit. -/
structure Fits (m : LogMessage) : Prop where
  text_lt : (Utf8.encode m.text).length < 2 ^ 31
  annotations_fit : AnnotationsFit m.annotations

/-- A log message is conveyed. -/
theorem conveys_put {m : LogMessage} (h : m.Fits) : Conveys m.put ServerMessage.logBody m := by
  refine (ServerMessage.conveys_enumeration _ m.severity.ofByte?_toByte).bind ?_
  refine (ServerMessage.conveys_code m.code).bind ?_
  refine (conveys_text h.text_lt).lift.bind ?_
  exact (conveys_annotations h.annotations_fit).lift.bind_pure

end LogMessage

namespace ParameterStatus

/-- Writes the body of a parameter status. -/
def put (m : ParameterStatus) : Put Unit := do
  Put.block m.name
  Put.block m.value

/-- A parameter status whose fields fit. -/
structure Fits (m : ParameterStatus) : Prop where
  name_lt : m.name.length < 2 ^ 31
  value_lt : m.value.length < 2 ^ 31

/-- A parameter status is conveyed. -/
theorem conveys_put {m : ParameterStatus} (h : m.Fits) : Conveys m.put ServerMessage.parameterBody m :=
  (conveys_block h.name_lt).lift.bind (conveys_block h.value_lt).lift.bind_pure

end ParameterStatus

namespace ReadyForCommand

/-- Writes the body of a ready message. -/
def put (m : ReadyForCommand) : Put Unit := do
  Put.annotations m.annotations
  Put.uint8 m.transactionState.toByte

/-- A ready message is conveyed. -/
theorem conveys_put {m : ReadyForCommand} (h : AnnotationsFit m.annotations) :
    Conveys m.put ServerMessage.readyBody m := by
  refine (conveys_annotations h).lift.bind ?_
  exact (ServerMessage.conveys_enumeration _ m.transactionState.ofByte?_toByte).bind_pure

end ReadyForCommand

namespace CommandComplete

/-- Writes the body of a completion. -/
def put (o : Omission) (m : CommandComplete) : Put Unit := do
  Put.annotations m.annotations
  Put.uint64 m.capabilities.bits
  Put.text m.status
  Put.uuid m.stateTypeId
  o.put m.stateData

/-- A completion whose fields fit. -/
structure Fits (m : CommandComplete) : Prop where
  annotations_fit : AnnotationsFit m.annotations
  status_lt : (Utf8.encode m.status).length < 2 ^ 31
  stateData_lt : ∀ b ∈ m.stateData, b.length < 2 ^ 31

/-- A completion is conveyed, with or without state data. -/
theorem conveys_put {m : CommandComplete} (o : Omission) (h : m.Fits) :
    Conveys (m.put o) ServerMessage.completeBody m := by
  refine (conveys_annotations h.annotations_fit).lift.bind ?_
  refine (conveys_uint64 _).lift.bind ?_
  refine (conveys_text h.status_lt).lift.bind ?_
  refine (conveys_uuid _).lift.bind ?_
  exact (o.conveys_put h.stateData_lt).lift.bind_pure

end CommandComplete

namespace CommandDataDescription

/-- Writes the body of a data description. -/
def put (o : Omission) (m : CommandDataDescription) : Put Unit := do
  Put.annotations m.annotations
  Put.uint64 m.capabilities.bits
  Put.uint8 m.cardinality.toByte
  Put.uuid m.inputTypeId
  o.putOrEmpty m.inputDescriptors
  Put.uuid m.outputTypeId
  o.putOrEmpty m.outputDescriptors

/-- A data description whose fields fit. -/
structure Fits (m : CommandDataDescription) : Prop where
  annotations_fit : AnnotationsFit m.annotations
  input_lt : m.inputDescriptors.length < 2 ^ 31
  output_lt : m.outputDescriptors.length < 2 ^ 31

/-- A data description is conveyed. -/
theorem conveys_put {m : CommandDataDescription} (o : Omission) (h : m.Fits) :
    Conveys (m.put o) ServerMessage.descriptionBody m := by
  refine (conveys_annotations h.annotations_fit).lift.bind ?_
  refine (conveys_uint64 _).lift.bind ?_
  refine (ServerMessage.conveys_enumeration _ m.cardinality.ofByte?_toByte).bind ?_
  refine (conveys_uuid _).lift.bind ?_
  refine (ServerMessage.conveys_blockOrEmpty o h.input_lt).bind ?_
  refine (conveys_uuid _).lift.bind ?_
  exact (ServerMessage.conveys_blockOrEmpty o h.output_lt).bind_pure

end CommandDataDescription

namespace StateDataDescription

/-- Writes the body of a state description. -/
def put (o : Omission) (m : StateDataDescription) : Put Unit := do
  Put.uuid m.typeId
  o.putOrEmpty m.descriptors

/-- A state description is conveyed. -/
theorem conveys_put {m : StateDataDescription} (o : Omission) (h : m.descriptors.length < 2 ^ 31) :
    Conveys (m.put o) ServerMessage.stateBody m :=
  (conveys_uuid _).lift.bind (ServerMessage.conveys_blockOrEmpty o h).bind_pure

end StateDataDescription

namespace RestoreReady

/-- Writes the body of a restore message. -/
def put (m : RestoreReady) : Put Unit := do
  Put.annotations m.annotations
  Put.uint16 m.jobs

/-- A restore message is conveyed. -/
theorem conveys_put {m : RestoreReady} (h : AnnotationsFit m.annotations) :
    Conveys m.put ServerMessage.restoreBody m :=
  (conveys_annotations h).lift.bind (conveys_uint16 _).lift.bind_pure

end RestoreReady

namespace DumpType

/-- Writes a type in a dump. -/
def put (t : DumpType) : Put Unit := do
  Put.text t.name
  Put.text t.kind
  Put.uuid t.id

/-- A type in a dump whose names fit. -/
structure Fits (t : DumpType) : Prop where
  name_lt : (Utf8.encode t.name).length < 2 ^ 31
  kind_lt : (Utf8.encode t.kind).length < 2 ^ 31

/-- A type in a dump is conveyed. -/
theorem conveys_put {t : DumpType} (h : t.Fits) : Conveys t.put ServerMessage.dumpType t := by
  refine (conveys_text h.name_lt).lift.bind ?_
  refine (conveys_text h.kind_lt).lift.bind ?_
  exact (conveys_uuid _).lift.bind_pure

end DumpType

namespace DumpObject

/-- Writes an object in a dump. -/
def put (d : DumpObject) : Put Unit := do
  Put.uuid d.id
  Put.block d.description
  PutM.counted .two d.dependencies Put.uuid

/-- An object in a dump whose description fits, as does the number of its dependencies. -/
structure Fits (d : DumpObject) : Prop where
  description_lt : d.description.length < 2 ^ 31
  length_lt : d.dependencies.length < 2 ^ 16

/-- An object in a dump is conveyed. -/
theorem conveys_put {d : DumpObject} (h : d.Fits) : Conveys d.put ServerMessage.dumpObject d := by
  refine (conveys_uuid _).lift.bind ?_
  refine (conveys_block h.description_lt).lift.bind ?_
  exact .counted_bind_pure (conveys_count_two h.length_lt).lift (UInt16.toNat_ofNat_of_lt' h.length_lt)
    fun id _ => (conveys_uuid id).lift

end DumpObject

namespace DumpHeader

/-- Writes the body of a dump header. -/
def put (m : DumpHeader) : Put Unit := do
  Put.attributes m.attributes
  Put.uint16 m.major
  Put.uint16 m.minor
  Put.text m.schemaDdl
  PutM.counted .four m.types DumpType.put
  PutM.counted .four m.objects DumpObject.put

/-- A dump header whose types and objects fit, as do their numbers. -/
structure Fits (m : DumpHeader) : Prop where
  attributes_fit : AttributesFit m.attributes
  schemaDdl_lt : (Utf8.encode m.schemaDdl).length < 2 ^ 31
  types_lt : m.types.length < 2 ^ 32
  types_fit : ∀ t ∈ m.types, t.Fits
  objects_lt : m.objects.length < 2 ^ 32
  objects_fit : ∀ d ∈ m.objects, d.Fits

/-- A dump header is conveyed. -/
theorem conveys_put {m : DumpHeader} (h : m.Fits) : Conveys m.put ServerMessage.dumpHeaderBody m := by
  refine (conveys_attributes h.attributes_fit).lift.bind ?_
  refine (conveys_uint16 _).lift.bind ?_
  refine (conveys_uint16 _).lift.bind ?_
  refine (conveys_text h.schemaDdl_lt).lift.bind ?_
  refine .counted_bind (conveys_count_four h.types_lt).lift (UInt32.toNat_ofNat_of_lt' h.types_lt)
    (fun t ht => DumpType.conveys_put (h.types_fit t ht)) ?_
  exact .counted_bind_pure (conveys_count_four h.objects_lt).lift (UInt32.toNat_ofNat_of_lt' h.objects_lt)
    fun d hd => DumpObject.conveys_put (h.objects_fit d hd)

end DumpHeader

namespace ServerMessage

/-- Writes the body of a message. -/
def put (o : Omission) : ServerMessage → Put Unit
  | serverHandshake m => m.put
  | authentication m => m.put
  | errorResponse m => m.put
  | logMessage m => m.put
  | parameterStatus m => m.put
  | readyForCommand m => m.put
  | commandComplete m => m.put o
  | commandDataDescription m => m.put o
  | stateDataDescription m => m.put o
  | data payload => do
    Put.uint16 1
    Put.block payload
  | serverKeyData m => Put.raw m.data
  | restoreReady m => m.put
  | dumpHeader m => m.put
  | dumpBlock attributes => Put.attributes attributes

/-- A message whose texts, bytes and counts fit the lengths that stand in front of them. -/
def Fits : ServerMessage → Prop
  | serverHandshake m => m.Fits
  | authentication m => m.Fits
  | errorResponse m => m.Fits
  | logMessage m => m.Fits
  | parameterStatus m => m.Fits
  | readyForCommand m => AnnotationsFit m.annotations
  | commandComplete m => m.Fits
  | commandDataDescription m => m.Fits
  | stateDataDescription m => m.descriptors.length < 2 ^ 31
  | data payload => payload.length < 2 ^ 31
  | serverKeyData m => m.data.length = 32
  | restoreReady m => AnnotationsFit m.annotations
  | dumpHeader m => m.Fits
  | dumpBlock attributes => AttributesFit attributes

/-- Every message that fits is conveyed to the reader of its kind. -/
theorem conveys_put {m : ServerMessage} (o : Omission) (h : m.Fits) :
    Conveys (m.put o) (body m.kind) m := by
  cases m with
  | serverHandshake m => exact (ServerHandshake.conveys_put h).bind_pure
  | authentication m => exact (Authentication.conveys_put h).bind_pure
  | errorResponse m => exact (ErrorResponse.conveys_put h).bind_pure
  | logMessage m => exact (LogMessage.conveys_put h).bind_pure
  | parameterStatus m => exact (ParameterStatus.conveys_put h).bind_pure
  | readyForCommand m => exact (ReadyForCommand.conveys_put h).bind_pure
  | commandComplete m => exact (CommandComplete.conveys_put o h).bind_pure
  | commandDataDescription m => exact (CommandDataDescription.conveys_put o h).bind_pure
  | stateDataDescription m => exact (StateDataDescription.conveys_put o h).bind_pure
  | data payload =>
    have hbody : Conveys ((data payload).put o) dataBody payload :=
      (conveys_uint16 1).lift.bind (conveys_block h).lift
    exact hbody.bind_pure
  | serverKeyData m =>
    have hraw : Conveys (Put.raw m.data) (Get.raw 32) m.data := by
      have hlength : m.data.length = 32 := h
      rw [← hlength]
      exact .of_raw (Get.reads_raw m.data)
    exact hraw.lift.bind_pure.bind_pure
  | restoreReady m => exact (RestoreReady.conveys_put h).bind_pure
  | dumpHeader m => exact (DumpHeader.conveys_put h).bind_pure
  | dumpBlock attributes => exact (conveys_attributes h).lift.bind_pure

/-- Every message that fits is written by a server in one way, up to how it marks what it leaves out, and
is decoded from what was written under the type byte of its kind, whatever follows in the body. -/
theorem decode_of_put {m : ServerMessage} (o : Omission) (h : m.Fits) :
    ∃ bytes, (m.put o).bytes? = .ok bytes ∧
      ∀ more, decode m.kind.toByte (bytes ++ more) = .ok m := by
  obtain ⟨-, bytes, hbytes, hread⟩ := conveys_put o h
  refine ⟨bytes, hbytes, fun more => ?_⟩
  rw [decode, MessageKind.ofByte?_toByte]
  exact hread.runOn_append more

/-- A dump with a type and with an object that depends on two others. -/
def dumped : DumpHeader where
  attributes := [(0x65, [7, 8])]
  major := 1
  minor := 0
  schemaDdl := "type Ü;"
  types := [{ name := "default::Ü", kind := "ObjectType", id := ⟨0, 0xA1⟩ }]
  objects := [
    { id := ⟨0, 0xB1⟩, description := [], dependencies := [⟨0, 0xB2⟩, ⟨0, 0xB3⟩] },
    { id := ⟨0, 0xB2⟩, description := [9], dependencies := [] }]

/-- A completion without state data. -/
def completed : CommandComplete where
  annotations := [("cost", "3")]
  capabilities := Capabilities.modifications
  status := "INSERT"
  stateTypeId := .nil
  stateData := none

/-- The header of a dump with bytes behind it and a completion whose state data is marked as absent by
the length -2 are decoded from what a server writes. -/
theorem decode_of_put_dumped :
    let o : Omission := ⟨-2, true, by decide⟩
    ((dumpHeader dumped).Fits ∧ ∃ bytes, ((dumpHeader dumped).put o).bytes? = .ok bytes ∧
        decode 0x40 (bytes ++ [1, 2, 3]) = .ok (dumpHeader dumped)) ∧
      (commandComplete completed).Fits ∧ ∃ bytes, ((commandComplete completed).put o).bytes? = .ok bytes ∧
        decode 0x43 (bytes ++ []) = .ok (commandComplete completed) := by
  intro o
  have hdumped : (dumpHeader dumped).Fits := by
    refine ⟨⟨by decide, by decide⟩, by decide, by decide, ?_, by decide, ?_⟩
    · intro t ht
      obtain rfl := List.mem_singleton.mp ht
      exact ⟨by decide, by decide⟩
    · intro d hd
      simp only [dumped, List.mem_cons, List.not_mem_nil, or_false] at hd
      obtain rfl | rfl := hd <;> exact ⟨by decide, by decide⟩
  have hcompleted : (commandComplete completed).Fits :=
    ⟨⟨by decide, by decide⟩, by decide, by simp [completed]⟩
  obtain ⟨header, hheader, hreadHeader⟩ := decode_of_put o hdumped
  obtain ⟨completion, hcompletion, hreadCompletion⟩ := decode_of_put o hcompleted
  exact ⟨⟨hdumped, header, hheader, hreadHeader [1, 2, 3]⟩, hcompleted, completion, hcompletion,
    hreadCompletion []⟩

end ServerMessage

end GelClient
