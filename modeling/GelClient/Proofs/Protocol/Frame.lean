import GelClient.Proofs.Actions
import GelClient.Proofs.Packet.Read
import GelClient.Protocol.ServerMessage

/-!
# The bytes of frames

A decoder holds the bytes that arrived and belong to no frame yet; for a header that was taken already
these are the bytes of the header. With that, feeding and decoding only move bytes: what is fed comes
behind what is held, and a frame takes its own bytes off the front.
-/

namespace GelClient

namespace FrameDecoder

/-- The bytes that arrived and belong to no frame yet. -/
def held (d : FrameDecoder) : Bytes :=
  match d.header with
  | none => d.buffer
  | some (kind, length) => kind :: BigEndian.encode 4 (length + 4) ++ d.buffer

/-- Without a header a decoder holds its buffer. -/
theorem held_of_no_header {d : FrameDecoder} (h : d.header = none) : d.held = d.buffer := by
  rw [held, h]

/-- With a header a decoder holds the bytes of the header in front of its buffer. -/
theorem held_of_header {d : FrameDecoder} {kind : UInt8} {length : Nat}
    (h : d.header = some (kind, length)) :
    d.held = kind :: BigEndian.encode 4 (length + 4) ++ d.buffer := by
  rw [held, h]

/-- Bytes that arrive come behind those that are held. -/
@[simp]
theorem held_feed (d : FrameDecoder) (chunk : Bytes) : (d.feed chunk).held = d.held ++ chunk := by
  unfold held feed
  cases d.header <;> simp

/-- A body that is complete is taken off the buffer behind its header; otherwise both are held. -/
theorem held_of_takeBody {kind : UInt8} {length : Nat} {buffer : Bytes} {frame : Option Frame}
    {d : FrameDecoder} (h : takeBody kind length buffer = (frame, d)) :
    kind :: BigEndian.encode 4 (length + 4) ++ buffer = (frame.map Frame.toBytes).getD [] ++ d.held := by
  simp only [takeBody, List.splitAt_eq] at h
  split at h
  · obtain ⟨rfl, rfl⟩ := Prod.mk.inj h
    rfl
  next hlength =>
    obtain ⟨rfl, rfl⟩ := Prod.mk.inj h
    have htake : (buffer.take length).length = length := by
      rw [List.length_take] at hlength ⊢
      omega
    simp only [Option.map_some, Option.getD_some, Frame.toBytes, htake, held, List.append_assoc,
      List.cons_append, List.take_append_drop]

/-- Decoding takes the bytes of the frame that it gives, and none without a frame. -/
theorem held_of_decode {d rest : FrameDecoder} {frame : Option Frame}
    (h : d.decode = (.ok frame, rest)) : d.held = (frame.map Frame.toBytes).getD [] ++ rest.held := by
  unfold decode at h
  split at h
  next kind length hheader =>
    obtain ⟨hframe, hrest⟩ := Prod.mk.inj h
    rw [held_of_header hheader]
    exact held_of_takeBody (Prod.ext (Except.ok.inj hframe) hrest)
  next hheader =>
    rw [held_of_no_header hheader]
    split at h
    next kind l0 l1 l2 l3 buffer hbuffer =>
      dsimp only at h
      split at h
      · cases (Prod.mk.inj h).1
      next hlength =>
        obtain ⟨hframe, hrest⟩ := Prod.mk.inj h
        have htaken := held_of_takeBody (Prod.ext (Except.ok.inj hframe) hrest)
        have hencode : BigEndian.encode 4 (BigEndian.decode [l0, l1, l2, l3]) = [l0, l1, l2, l3] :=
          BigEndian.encode_decode [l0, l1, l2, l3]
        rw [Nat.sub_add_cancel (Nat.not_lt.mp hlength), hencode] at htaken
        rw [hbuffer]
        exact htaken
    · obtain ⟨hframe, rfl⟩ := Prod.mk.inj h
      obtain rfl := Except.ok.inj hframe
      exact (held_of_no_header hheader).symm

end FrameDecoder

namespace MessageKind

/-- The kind that a type byte stands for has that type byte. -/
theorem toByte_of_ofByte? {b : UInt8} {k : MessageKind} (h : ofByte? b = some k) : k.toByte = b := by
  unfold ofByte? at h
  exact eq_of_beq (List.find?_some (p := fun k : MessageKind => k.toByte == b) h)

end MessageKind

namespace ServerMessage

open Actions (bind_eq_ok)
open Packet (GetM Reader)

/-- The body of a message of some kind is a message of that kind. -/
theorem kind_of_body {k : MessageKind} {m : ServerMessage} {r r' : Reader}
    (h : body k r = .ok m r') : m.kind = k := by
  cases k <;>
    · simp only [body] at h
      obtain ⟨_, _, -, hm⟩ := bind_eq_ok.mp h
      cases hm
      rfl

/-- A message has the type byte of its frame. -/
theorem toByte_kind_of_ofFrame {f : Frame} {m : ServerMessage} (h : ofFrame f = .ok m) :
    m.kind.toByte = f.kind := by
  unfold ofFrame decode at h
  split at h
  next k hk =>
    unfold GetM.runOn at h
    split at h
    next hbody =>
      cases h
      rw [kind_of_body hbody, MessageKind.toByte_of_ofByte? hk]
    · cases h
  · cases h

end ServerMessage

end GelClient
