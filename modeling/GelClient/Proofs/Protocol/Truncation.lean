import GelClient.Proofs.Packet.Delimited
import GelClient.Protocol.ServerMessage

/-!
# Server messages that are cut short

Each of the fourteen bodies is delimited: its fields decide how far it goes, through optional values, texts
and counted lists in counted lists, and a field is checked when all of it was read. So some part of an
accepted body settles the message. Whatever follows this part makes no difference, and whatever breaks off
inside of it is reported as too short, never as another message and never as one with a wrong field.
-/

namespace GelClient.ServerMessage

open Packet (Get GetM)
open Packet.GetM (IsDelimited isDelimited_pure isDelimited_throw)
open Packet.Get (isDelimited_annotations isDelimited_attributes isDelimited_block isDelimited_block?
  isDelimited_raw isDelimited_text isDelimited_texts isDelimited_uint8 isDelimited_uint16
  isDelimited_uint32 isDelimited_uint64 isDelimited_uuid)

/-- The byte of an enumeration is delimited, as it is checked after it was read. -/
theorem isDelimited_enumeration {α : Type} (field : String) (ofByte? : UInt8 → Option α) :
    IsDelimited (enumeration field ofByte?) := by
  refine isDelimited_uint8.lift.bind fun b => ?_
  split
  · exact isDelimited_pure _
  · exact isDelimited_throw _

/-- A code of the server is delimited. -/
theorem isDelimited_code : IsDelimited code := isDelimited_uint32.lift.bind_pure _

/-- Descriptors are delimited, also where they are left out. -/
theorem isDelimited_blockOrEmpty : IsDelimited blockOrEmpty := isDelimited_block?.lift.bind_pure _

/-- An extension of the protocol is delimited. -/
theorem isDelimited_protocolExtension : IsDelimited protocolExtension :=
  isDelimited_text.lift.bind fun _ => isDelimited_annotations.lift.bind_pure _

/-- The body of a handshake is delimited. -/
theorem isDelimited_handshakeBody : IsDelimited handshakeBody := by
  refine isDelimited_uint16.lift.bind fun major => ?_
  refine isDelimited_uint16.lift.bind fun minor => ?_
  refine isDelimited_uint16.lift.bind fun count => ?_
  exact (isDelimited_protocolExtension.times count.toNat).bind_pure _

/-- The body of an authentication message is delimited: its status decides what belongs to it. -/
theorem isDelimited_authenticationBody : IsDelimited authenticationBody := by
  refine isDelimited_uint32.lift.bind fun status => ?_
  split
  · exact isDelimited_pure _
  · split
    · exact isDelimited_texts.lift.bind_pure _
    · split
      · exact isDelimited_block.lift.bind_pure _
      · split
        · exact isDelimited_block.lift.bind_pure _
        · exact isDelimited_throw _

/-- The body of an error is delimited. -/
theorem isDelimited_errorBody : IsDelimited errorBody := by
  refine (isDelimited_enumeration _ _).bind fun severity => ?_
  refine isDelimited_code.bind fun code => ?_
  refine isDelimited_text.lift.bind fun message => ?_
  exact isDelimited_attributes.lift.bind_pure _

/-- The body of a log message is delimited. -/
theorem isDelimited_logBody : IsDelimited logBody := by
  refine (isDelimited_enumeration _ _).bind fun severity => ?_
  refine isDelimited_code.bind fun code => ?_
  refine isDelimited_text.lift.bind fun text => ?_
  exact isDelimited_annotations.lift.bind_pure _

/-- The body of a completion is delimited. -/
theorem isDelimited_completeBody : IsDelimited completeBody := by
  refine isDelimited_annotations.lift.bind fun annotations => ?_
  refine isDelimited_uint64.lift.bind fun capabilities => ?_
  refine isDelimited_text.lift.bind fun status => ?_
  refine isDelimited_uuid.lift.bind fun typeId => ?_
  exact isDelimited_block?.lift.bind_pure _

/-- The body of a data description is delimited. -/
theorem isDelimited_descriptionBody : IsDelimited descriptionBody := by
  refine isDelimited_annotations.lift.bind fun annotations => ?_
  refine isDelimited_uint64.lift.bind fun capabilities => ?_
  refine (isDelimited_enumeration _ _).bind fun cardinality => ?_
  refine isDelimited_uuid.lift.bind fun inputId => ?_
  refine isDelimited_blockOrEmpty.bind fun input => ?_
  refine isDelimited_uuid.lift.bind fun outputId => ?_
  exact isDelimited_blockOrEmpty.bind_pure _

/-- The body of a data message is delimited: its count is checked before its element is read. -/
theorem isDelimited_dataBody : IsDelimited dataBody := by
  refine isDelimited_uint16.lift.bind fun count => ?_
  split
  · exact (isDelimited_throw _).bind fun _ => isDelimited_block.lift
  · exact isDelimited_block.lift

/-- A type in a dump is delimited. -/
theorem isDelimited_dumpType : IsDelimited dumpType := by
  refine isDelimited_text.lift.bind fun name => ?_
  refine isDelimited_text.lift.bind fun kind => ?_
  exact isDelimited_uuid.lift.bind_pure _

/-- An object in a dump is delimited. -/
theorem isDelimited_dumpObject : IsDelimited dumpObject := by
  refine isDelimited_uuid.lift.bind fun id => ?_
  refine isDelimited_block.lift.bind fun description => ?_
  refine isDelimited_uint16.lift.bind fun count => ?_
  exact (isDelimited_uuid.lift.times count.toNat).bind_pure _

/-- The body of a dump header is delimited. -/
theorem isDelimited_dumpHeaderBody : IsDelimited dumpHeaderBody := by
  refine isDelimited_attributes.lift.bind fun attributes => ?_
  refine isDelimited_uint16.lift.bind fun major => ?_
  refine isDelimited_uint16.lift.bind fun minor => ?_
  refine isDelimited_text.lift.bind fun schemaDdl => ?_
  refine isDelimited_uint32.lift.bind fun typeCount => ?_
  refine (isDelimited_dumpType.times typeCount.toNat).bind fun types => ?_
  refine isDelimited_uint32.lift.bind fun objectCount => ?_
  exact (isDelimited_dumpObject.times objectCount.toNat).bind_pure _

/-- The body of every kind of message is delimited. -/
theorem isDelimited_body (k : MessageKind) : IsDelimited (body k) := by
  cases k with
  | serverHandshake => exact isDelimited_handshakeBody.bind_pure _
  | authentication => exact isDelimited_authenticationBody.bind_pure _
  | errorResponse => exact isDelimited_errorBody.bind_pure _
  | logMessage => exact isDelimited_logBody.bind_pure _
  | parameterStatus =>
    exact (isDelimited_block.lift.bind fun _ => isDelimited_block.lift.bind_pure _).bind_pure _
  | readyForCommand =>
    exact (isDelimited_annotations.lift.bind fun _ => (isDelimited_enumeration _ _).bind_pure _).bind_pure _
  | commandComplete => exact isDelimited_completeBody.bind_pure _
  | commandDataDescription => exact isDelimited_descriptionBody.bind_pure _
  | stateDataDescription =>
    exact (isDelimited_uuid.lift.bind fun _ => isDelimited_blockOrEmpty.bind_pure _).bind_pure _
  | data => exact isDelimited_dataBody.bind_pure _
  | serverKeyData => exact ((isDelimited_raw 32).lift.bind_pure _).bind_pure _
  | restoreReady =>
    exact (isDelimited_annotations.lift.bind fun _ => isDelimited_uint16.lift.bind_pure _).bind_pure _
  | dumpHeader => exact isDelimited_dumpHeaderBody.bind_pure _
  | dumpBlock => exact isDelimited_attributes.lift.bind_pure _

/-- The first `n` bytes of a body settle the message that is read: with them there is no other one, and
with fewer of them the body is too short. -/
structure Settles (read : Bytes → Except ProtocolError ServerMessage) (bytes : Bytes) (m : ServerMessage)
    (n : Nat) : Prop where
  length_le : n ≤ bytes.length
  extended : ∀ more, bytes.take n <+: more → read more = .ok m
  cut : ∀ k < n, ∃ needed remaining,
    read (bytes.take k) = .error (.malformed (.underflow needed remaining))

/-- What a body of some kind is read as is settled by some of its first bytes. -/
theorem exists_settles_of_runOn {k : MessageKind} {bytes : Bytes} {m : ServerMessage}
    (h : (body k).runOn bytes = .ok m) : ∃ n, Settles (fun b => (body k).runOn b) bytes m n := by
  obtain ⟨n, hn, hextended, hcut⟩ := (isDelimited_body k).exists_of_runOn h
  exact ⟨n, hn, hextended, hcut⟩

/-- Every accepted body, of whatever kind, starts with a part that settles its message. This holds where
the type byte selects the kind and where a certain kind is asked for. -/
theorem exists_settles_of_decode :
    (∀ typeByte bytes m, decode typeByte bytes = .ok m → ∃ n, Settles (decode typeByte) bytes m n) ∧
    ∀ k typeByte bytes m, decodeAs k typeByte bytes = .ok m →
      ∃ n, Settles (decodeAs k typeByte) bytes m n := by
  constructor
  · intro typeByte bytes m h
    cases hk : MessageKind.ofByte? typeByte with
    | none =>
      rw [decode, hk] at h
      cases h
    | some k =>
      have hread : decode typeByte = fun b => (body k).runOn b := by
        funext b
        rw [decode, hk]
      rw [hread] at h ⊢
      exact exists_settles_of_runOn h
  · intro k typeByte bytes m h
    by_cases hk : typeByte = k.toByte
    · have hread : decodeAs k typeByte = fun b => (body k).runOn b := by
        funext b
        rw [decodeAs, if_pos hk]
      rw [hread] at h ⊢
      exact exists_settles_of_runOn h
    · rw [decodeAs, if_neg hk] at h
      cases h

/-- A completion without state data, with two bytes behind it. -/
def completionBytes : Bytes :=
  [0, 1, 0, 0, 0, 1, 97, 0, 0, 0, 0] ++ [0, 0, 0, 0, 0, 0, 0, 1] ++ [0, 0, 0, 2, 79, 75] ++
    List.replicate 16 0 ++ [255, 255, 255, 254] ++ [7, 8]

/-- A completion is settled by the bytes up to the length that marks its state data as absent. -/
theorem exists_settles_of_decode_completion :
    ∃ m, decode 0x43 completionBytes = .ok m ∧ (∃ n, Settles (decode 0x43) completionBytes m n) ∧
      ∃ n, Settles (decodeAs .commandComplete 0x43) completionBytes m n := by
  have h : decode 0x43 completionBytes = .ok (commandComplete
      { annotations := [("a", "")], capabilities := ⟨1⟩, status := "OK", stateTypeId := .nil,
        stateData := none }) := by rfl
  exact ⟨_, h, exists_settles_of_decode.1 _ _ _ h, exists_settles_of_decode.2 .commandComplete _ _ _ h⟩

end GelClient.ServerMessage
