import GelClient.Proofs.Protocol.Reassembly
import GelClient.Proofs.Protocol.ServerMessage
import GelClient.Protocol.ClientMessage
import Mathlib.Algebra.Group.Nat.Defs

/-!
# Client messages on the wire

The length of a message is announced before its body is written, and is computed on its own. It is the
length of the body for every message, in the arithmetic of 32 bits; so a message whose body fits a frame
is written as the frame of its body, and a decoder cuts the frames of the messages out of what was
written, in whatever chunks this arrives. From each body a server reads the fields of the message back.
-/

namespace GelClient

open Packet (Get GetM Reader)
open Packet.GetM (Reads)

/-- The length of some bytes, in 32 bits. -/
def length32 (bytes : Bytes) : UInt32 := UInt32.ofNat bytes.length

/-- Lengths add up, also where they wrap. -/
@[simp]
theorem length32_append (a b : Bytes) : length32 (a ++ b) = length32 a + length32 b := by
  rw [length32, List.length_append, UInt32.ofNat_add]
  rfl

/-- A number has the length of its width. -/
@[simp]
theorem length32_encode (width n : Nat) : length32 (BigEndian.encode width n) = UInt32.ofNat width := by
  rw [length32, BigEndian.length_encode]

/-- An identifier has sixteen bytes. -/
@[simp]
theorem length32_toBytes (id : Uuid) : length32 id.toBytes = 16 := by
  rw [length32, Uuid.length_toBytes]
  rfl

/-- The sizes of items add up to the size of all of them. -/
private theorem sum_eq_length32 {α : Type} {size : α → UInt32} {bytes : α → Bytes}
    (h : ∀ a, size a = length32 (bytes a)) (items : List α) :
    (items.map size).sum = length32 (items.flatMap bytes) := by
  induction items with
  | nil => rfl
  | cons a items ih => rw [List.map_cons, List.sum_cons, List.flatMap_cons, length32_append, h, ih]

/-- A field of bytes is announced with its size. -/
@[simp]
theorem prefixedSize_eq (bytes : Bytes) : prefixedSize bytes = length32 (prefixed bytes) := by
  rw [prefixed, length32_append, length32_encode]
  rfl

/-- A text field is announced with its size. -/
@[simp]
theorem prefixedTextSize_eq (s : String) : prefixedTextSize s = length32 (prefixedText s) := by
  rw [prefixedText, ← prefixedSize_eq, prefixedSize, Utf8.length_encode, prefixedTextSize]

/-- The fields of a query are announced with their size. -/
theorem QueryRequest.announcedSize_eq (r : QueryRequest) : r.announcedSize = length32 r.toBytes := by
  simp only [announcedSize, toBytes, length32_append, length32_encode, length32_toBytes,
    prefixedSize_eq, prefixedTextSize_eq]
  rfl

namespace ClientMessage

/-- A message is announced with the size of its body. -/
theorem announcedSize_eq (m : ClientMessage) : m.announcedSize = length32 m.body := by
  cases m with
  | handshake version parameters extensions =>
    have hparameters : (parameters.map fun p => prefixedTextSize p.1 + prefixedTextSize p.2).sum =
        length32 (parameters.flatMap fun p => prefixedText p.1 ++ prefixedText p.2) :=
      sum_eq_length32 (by simp) parameters
    have hextensions : (extensions.map fun name => prefixedTextSize name + 2).sum =
        length32 (extensions.flatMap fun name => prefixedText name ++ BigEndian.encode 2 0) :=
      sum_eq_length32 (by simp) extensions
    simp only [announcedSize, body, hparameters, hextensions, length32_append, length32_encode]
    rfl
  | saslInitialResponse method data =>
    simp only [announcedSize, body, prefixedSize_eq, prefixedTextSize_eq, length32_append]
  | saslResponse data => exact prefixedSize_eq data
  | parse request => exact request.announcedSize_eq
  | execute request inputTypeId outputTypeId arguments =>
    simp only [announcedSize, body, request.announcedSize_eq, prefixedSize_eq, length32_append,
      length32_toBytes]
  | sync => rfl
  | flush => rfl
  | terminate => rfl
  | dump => rfl

/-- The frame of a message. -/
def frame (m : ClientMessage) : Frame := { kind := m.kind, body := m.body }

/-- The texts and the bytes in a message that stand behind their lengths. -/
def fields : ClientMessage → List Bytes
  | .handshake _ parameters extensions =>
    parameters.flatMap (fun p => [Utf8.encode p.1, Utf8.encode p.2]) ++ extensions.map Utf8.encode
  | .saslInitialResponse method data => [Utf8.encode method, data]
  | .saslResponse data => [data]
  | .parse request => [Utf8.encode request.query, request.stateData]
  | .execute request _ _ arguments => [Utf8.encode request.query, request.stateData, arguments]
  | .sync => []
  | .flush => []
  | .terminate => []
  | .dump => []

/-- A message that fits the protocol: its body fits a frame, and its fields fit signed lengths. -/
structure Fits (m : ClientMessage) : Prop where
  body_lt : m.body.length + 4 < 2 ^ 32
  field_lt : ∀ field ∈ m.fields, field.length < 2 ^ 31

/-- The size that a message is announced with is that of its body, if this fits a frame. -/
theorem toNat_announcedSize {m : ClientMessage} (h : m.body.length + 4 < 2 ^ 32) :
    m.announcedSize.toNat = m.body.length := by
  rw [announcedSize_eq, length32, UInt32.toNat_ofNat_of_lt']
  exact Nat.lt_of_le_of_lt (Nat.le_add_right _ 4) h

/-- A message is written as the frame of its body. -/
theorem toBytes_eq {m : ClientMessage} (h : m.body.length + 4 < 2 ^ 32) : m.toBytes = m.frame.toBytes := by
  have hsize : (4 + m.announcedSize).toNat = m.body.length + 4 := by
    rw [UInt32.toNat_add, toNat_announcedSize h, Nat.add_comm]
    exact Nat.mod_eq_of_lt h
  rw [toBytes, hsize]
  rfl

/-- Messages are written as their frames, behind what is there. -/
theorem writeAll?_eq_some {ms : List ClientMessage} (h : ∀ m ∈ ms, m.body.length + 4 < 2 ^ 32)
    (buffer : Bytes) :
    writeAll? ms buffer = some (buffer ++ (ms.map frame).flatMap Frame.toBytes) := by
  unfold writeAll?
  induction ms generalizing buffer with
  | nil => simp
  | cons m ms ih =>
    have hm := h m List.mem_cons_self
    have hwrite : m.write? buffer = some (buffer ++ m.frame.toBytes) := by
      rw [write?, toNat_announcedSize hm, if_pos rfl, toBytes_eq hm]
    rw [List.foldlM_cons, hwrite, List.map_cons, List.flatMap_cons, ← List.append_assoc]
    exact ih (fun m hm => h m (List.mem_cons_of_mem _ hm)) _

end ClientMessage

/-- A field of bytes is read from behind its length. -/
theorem reads_prefixed {bytes : Bytes} (h : bytes.length < 2 ^ 31) :
    Reads Get.block (prefixed bytes) bytes :=
  Get.reads_block h

/-- A text field is read from behind its length. -/
theorem reads_prefixedText {s : String} (h : (Utf8.encode s).length < 2 ^ 31) :
    Reads Get.text (prefixedText s) s :=
  Get.reads_text h

/-- An empty list of annotations is read from its count. -/
theorem reads_annotations_nil : Reads Get.annotations (BigEndian.encode 2 0) [] :=
  (Get.reads_uint16 0).bind_nil (GetM.reads_pure [])

namespace QueryRequest

/-- Reads what a server is asked about a query, behind the annotations of the message. -/
def get : GetM ProtocolError (Annotations × QueryRequest) := do
  let annotations ← Get.annotations
  let capabilities ← Get.uint64
  let compilationFlags ← Get.uint64
  let implicitLimit ← Get.int64
  let format ← ServerMessage.enumeration "io format" IoFormat.ofByte?
  let cardinality ← ServerMessage.enumeration "cardinality" Cardinality.ofByte?
  let query ← Get.text
  let stateTypeId ← Get.uuid
  let stateData ← Get.block
  return (annotations, {
    capabilities := ⟨capabilities⟩, compilationFlags := ⟨compilationFlags⟩, implicitLimit, format,
    cardinality, query, stateTypeId, stateData })

/-- A query is read back from its fields. -/
theorem reads_get {r : QueryRequest} (hquery : (Utf8.encode r.query).length < 2 ^ 31)
    (hstate : r.stateData.length < 2 ^ 31) : Reads get r.toBytes ([], r) := by
  have hbytes : [r.format.toByte, r.cardinality.toByte] =
      BigEndian.encode 1 r.format.toByte.toNat ++ BigEndian.encode 1 r.cardinality.toByte.toNat := by
    simp [BigEndian.encode]
  rw [toBytes, hbytes]
  simp only [List.append_assoc]
  refine reads_annotations_nil.lift.bind ?_
  refine (Get.reads_uint64 _).lift.bind ?_
  refine (Get.reads_uint64 _).lift.bind ?_
  refine (Get.reads_int64 _).lift.bind ?_
  refine (ServerMessage.reads_enumeration _ r.format.ofByte?_toByte).bind ?_
  refine (ServerMessage.reads_enumeration _ r.cardinality.ofByte?_toByte).bind ?_
  refine (reads_prefixedText hquery).lift.bind ?_
  refine (Get.reads_uuid _).lift.bind ?_
  exact (reads_prefixed hstate).lift.bind_pure

end QueryRequest

namespace ClientMessage

/-- Reads the body of a message of the given kind: its annotations, if it has any, and its fields. The
handshake keeps its counts in 16 bits and is not read here. -/
def getBody (kind : UInt8) : GetM ProtocolError (Annotations × ClientMessage) :=
  if kind = 0x70 then do
    let method ← Get.text
    let data ← Get.block
    return ([], .saslInitialResponse method data)
  else if kind = 0x72 then do
    let data ← Get.block
    return ([], .saslResponse data)
  else if kind = 0x50 then do
    let (annotations, request) ← QueryRequest.get
    return (annotations, .parse request)
  else if kind = 0x4F then do
    let (annotations, request) ← QueryRequest.get
    let inputTypeId ← Get.uuid
    let outputTypeId ← Get.uuid
    let arguments ← Get.block
    return (annotations, .execute request inputTypeId outputTypeId arguments)
  else if kind = 0x53 then return ([], .sync)
  else if kind = 0x48 then return ([], .flush)
  else if kind = 0x58 then return ([], .terminate)
  else if kind = 0x3E then return (← Get.annotations, .dump)
  else throw (.unknown kind)

/-- The body of every message but a handshake is read back, and nothing else is read. -/
theorem reads_getBody {m : ClientMessage} (h : ∀ field ∈ m.fields, field.length < 2 ^ 31)
    (hkind : m.kind ≠ 0x56) : Reads (getBody m.kind) m.body ([], m) := by
  cases m with
  | handshake => exact absurd rfl hkind
  | saslInitialResponse method data =>
    refine (reads_prefixedText (h _ (by simp [fields]))).lift.bind ?_
    exact (reads_prefixed (h _ (by simp [fields]))).lift.bind_pure
  | saslResponse data => exact (reads_prefixed (h _ (by simp [fields]))).lift.bind_pure
  | parse request =>
    exact (QueryRequest.reads_get (h _ (by simp [fields])) (h _ (by simp [fields]))).bind_pure
  | execute request inputTypeId outputTypeId arguments =>
    rw [body, List.append_assoc, List.append_assoc]
    refine (QueryRequest.reads_get (h _ (by simp [fields])) (h _ (by simp [fields]))).bind ?_
    refine (Get.reads_uuid _).lift.bind ?_
    refine (Get.reads_uuid _).lift.bind ?_
    exact (reads_prefixed (h _ (by simp [fields]))).lift.bind_pure
  | sync => exact GetM.reads_pure _
  | flush => exact GetM.reads_pure _
  | terminate => exact GetM.reads_pure _
  | dump => exact reads_annotations_nil.lift.bind_pure

/-- Messages that fit are written behind what is in the buffer. In whatever chunks the written bytes
arrive, and whenever a decoder is asked in between, it delivers one frame for each message, in order and
with its type byte, and is left as it was. From the frame of every message but a handshake the annotations,
of which there are none, and all fields of the message are read, up to the last byte. -/
theorem writeAll?_frames {ms : List ClientMessage} (buffer : Bytes) (h : ∀ m ∈ ms, m.Fits) :
    ∃ stream, writeAll? ms buffer = some (buffer ++ stream) ∧
      (∀ actions : List FrameDecoder.Action, actions.flatMap FrameDecoder.Action.bytes = stream →
        let (items, d) := FrameDecoder.empty.run actions
        let (others, last) := d.exhaust
        items ++ others = ms.map (fun m => .ok m.frame) ∧ last = .empty) ∧
      ∀ m ∈ ms, m.kind ≠ 0x56 →
        getBody m.frame.kind (Reader.ofBytes m.frame.body) = .ok ([], m) ⟨[], m.frame.body.length⟩ := by
  have hframes : ∀ f ∈ ms.map frame, f.body.length + 4 < 2 ^ 32 := by
    intro f hf
    obtain ⟨m, hm, rfl⟩ := List.mem_map.mp hf
    exact (h m hm).body_lt
  refine ⟨_, writeAll?_eq_some (fun m hm => (h m hm).body_lt) buffer, ?_, ?_⟩
  · intro actions hactions
    have hrun := FrameDecoder.frames_of_run hframes hactions
    rw [List.map_map] at hrun
    exact hrun
  · intro m hm hkind
    have hread := reads_getBody (h m hm).field_lt hkind [] 0
    rw [List.append_nil, Nat.zero_add] at hread
    exact hread

/-- A query for the answer. -/
def answerRequest : QueryRequest where
  capabilities := Capabilities.all
  compilationFlags := CompilationFlags.injectOutputTypeIds
  implicitLimit := -1
  format := .jsonElements
  cardinality := .atMostOne
  query := "select 42"
  stateTypeId := ⟨0, 0xFF⟩
  stateData := [7]

/-- The run of the query with an argument. -/
def runAnswer : ClientMessage := .execute answerRequest .nil ⟨0, 0x105⟩ [0, 0, 0, 1, 2]

/-- A handshake, the run of the query, and the end of the cycle. -/
def answerMessages : List ClientMessage :=
  [.handshake .v1 [("user", "edgedb")] ["notebook"], runAnswer, .sync]

/-- Three messages behind two bytes arrive as three frames, wherever their bytes are cut in two, and the
query is read back from its frame. -/
theorem writeAll?_frames_answer :
    (∀ m ∈ answerMessages, m.Fits) ∧
      ∃ stream, writeAll? answerMessages [1, 2] = some ([1, 2] ++ stream) ∧
        (∀ front back, front ++ back = stream →
          let (items, d) := FrameDecoder.empty.run [.feed front, .decode, .feed back]
          let (others, last) := d.exhaust
          items ++ others = answerMessages.map (fun m => .ok m.frame) ∧ last = .empty) ∧
        getBody 0x4F (Reader.ofBytes runAnswer.body) = .ok ([], runAnswer) ⟨[], 103⟩ := by
  have hfits : ∀ m ∈ answerMessages, m.Fits := by
    intro m hm
    simp only [answerMessages, List.mem_cons, List.not_mem_nil, or_false] at hm
    obtain rfl | rfl | rfl := hm <;> exact ⟨by decide, by decide⟩
  obtain ⟨stream, hwritten, hitems, hbody⟩ := writeAll?_frames [1, 2] hfits
  refine ⟨hfits, stream, hwritten, fun front back hstream => ?_, ?_⟩
  · exact hitems [.feed front, .decode, .feed back] (by simp [FrameDecoder.Action.bytes, hstream])
  · exact hbody runAnswer (by simp [answerMessages]) (by decide)

end ClientMessage

end GelClient
