import GelClient.Protocol.Error

/-!
# Frames

A message travels as a frame: its type byte, a length of four bytes that counts itself, and the
body. Reads from a transport rarely end where frames do. `FrameDecoder` keeps the bytes that no
frame has claimed yet and, once a header is complete, how long the body behind it will be.

A length smaller than its own field is an error. It uses up its header and nothing else, so
decoding goes on at the next byte.
-/

namespace GelClient

/-- A complete message: its type byte and its body. -/
structure Frame where
  kind : UInt8
  body : Bytes
  deriving DecidableEq, Repr

/-- The bytes of a frame on the wire. -/
def Frame.toBytes (f : Frame) : Bytes :=
  f.kind :: BigEndian.encode 4 (f.body.length + 4) ++ f.body

/-- The bytes of an unfinished frame: those not yet claimed, and the type and body length of a
header already taken. -/
structure FrameDecoder where
  buffer : Bytes := []
  header : Option (UInt8 × Nat) := none
  deriving DecidableEq, Repr

namespace FrameDecoder

/-- A decoder that has seen nothing. -/
def empty : FrameDecoder := {}

/-- The decoder after more bytes arrived. -/
def feed (d : FrameDecoder) (chunk : Bytes) : FrameDecoder :=
  { d with buffer := d.buffer ++ chunk }

/-- Whether part of a frame has arrived. -/
def isPending (d : FrameDecoder) : Bool :=
  !d.buffer.isEmpty || d.header.isSome

/-- How many bytes the pending header or body still lacks, at least one. -/
def missing (d : FrameDecoder) : Nat :=
  match d.header with
  | none => max (5 - d.buffer.length) 1
  | some (_, length) => max (length - d.buffer.length) 1

/-- Takes the body of the given length if it is complete. -/
def takeBody (kind : UInt8) (length : Nat) (buffer : Bytes) : Option Frame × FrameDecoder :=
  let (body, rest) := buffer.splitAt length
  if body.length < length then (none, { buffer, header := some (kind, length) })
  else (some { kind, body }, { buffer := rest })

/-- Takes the next frame; none when more bytes are needed. -/
def decode (d : FrameDecoder) : Except ProtocolError (Option Frame) × FrameDecoder :=
  match d.header with
  | some (kind, length) =>
    let (frame, d) := takeBody kind length d.buffer
    (.ok frame, d)
  | none =>
    match d.buffer with
    | kind :: l0 :: l1 :: l2 :: l3 :: rest =>
      let length := BigEndian.decode [l0, l1, l2, l3]
      if length < 4 then
        (.error (.invalidLength (UInt32.ofNat length)), { buffer := rest })
      else
        let (frame, d) := takeBody kind (length - 4) rest
        (.ok frame, d)
    | _ => (.ok none, d)

/-- What is left to decode: the bytes not yet claimed and a header already taken. -/
def pending (d : FrameDecoder) : Nat :=
  d.buffer.length + if d.header.isSome then 1 else 0

/-- Taking a body leaves no more bytes than there were, and no header. -/
theorem pending_takeBody {kind : UInt8} {length : Nat} {buffer : Bytes} {frame : Frame}
    {d : FrameDecoder} (h : takeBody kind length buffer = (some frame, d)) :
    d.pending ≤ buffer.length := by
  simp only [takeBody, List.splitAt_eq] at h
  split at h
  · simp at h
  · simp only [Prod.mk.injEq, Option.some.injEq] at h
    rw [← h.2]
    simp [pending]

/-- Taking a frame leaves less to decode. -/
theorem pending_decode {d rest : FrameDecoder} {frame : Frame}
    (h : d.decode = (.ok (some frame), rest)) : rest.pending < d.pending := by
  unfold decode at h
  split at h
  next kind length header =>
    simp only [Prod.mk.injEq, Except.ok.injEq] at h
    have := pending_takeBody (Prod.ext h.1 h.2)
    simp [pending, header] at *
    omega
  next header =>
    split at h
    next buffer =>
      dsimp only at h
      split at h
      · simp at h
      · simp only [Prod.mk.injEq, Except.ok.injEq] at h
        have := pending_takeBody (Prod.ext h.1 h.2)
        simp [pending, header, buffer] at *
        omega
    · simp at h

/-- Takes every complete frame up to an error or the end of what has arrived. -/
def drain (d : FrameDecoder) : List Frame × Option ProtocolError × FrameDecoder :=
  match _h : d.decode with
  | (.ok (some frame), rest) =>
    let (frames, fault, last) := rest.drain
    (frame :: frames, fault, last)
  | (.ok none, rest) => ([], none, rest)
  | (.error e, rest) => ([], some e, rest)
  termination_by d.pending
  decreasing_by exact pending_decode _h

/-- Feeding in two pieces is feeding their concatenation. -/
theorem feed_append (d : FrameDecoder) (a b : Bytes) : d.feed (a ++ b) = (d.feed a).feed b := by
  simp [feed]

end FrameDecoder

end GelClient
