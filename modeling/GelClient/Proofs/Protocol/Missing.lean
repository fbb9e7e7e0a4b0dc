import GelClient.Proofs.Protocol.Reassembly
import Mathlib.Algebra.Group.Nat.Defs

/-!
# Bytes that are missing

A decoder that found nothing to deliver waits for the rest of a header or of a body, and says how many bytes this is.
`FrameDecoder.Waits` describes these states by what the buffer lacks; they are just the states that a fruitless call of
`decode` leaves and finds again. With fewer bytes than are missing a decoder goes on waiting, with all of them
`FrameDecoder.Completes` lists what it comes to. Nothing is pending exactly where the stream can be cut into whole
frames and refused headers.
-/

namespace GelClient

namespace Frame

/-- Some bytes are those of one item of a stream: of a frame, or of a header whose length is refused. -/
inductive IsItem : Bytes → Prop
  | frame (f : Frame) : f.body.length + 4 < 2 ^ 32 → IsItem f.toBytes
  | refused (kind : UInt8) {length : Nat} : length < 4 → IsItem (kind :: BigEndian.encode 4 length)

/-- A stream is a sequence of items and nothing else. -/
def IsWhole (stream : Bytes) : Prop :=
  ∃ pieces : List Bytes, pieces.flatten = stream ∧ ∀ piece ∈ pieces, IsItem piece

/-- The bytes of an item at the front of a stream are its first item. -/
theorem IsItem.first?_append {piece : Bytes} (h : IsItem piece) (rest : Bytes) :
    ∃ item, first? (piece ++ rest) = some (item, rest) := by
  cases h with
  | frame f hlength => exact ⟨_, first?_toBytes_append hlength rest⟩
  | @refused kind length hlength =>
    refine ⟨.error (.invalidLength (UInt32.ofNat length)), ?_⟩
    rw [first?_header kind (by omega), afterHeader, if_pos hlength]

/-- The first item of a stream stands at its front. -/
theorem exists_isItem_of_first? {stream rest : Bytes} {item : Item} (h : first? stream = some (item, rest)) :
    ∃ piece, IsItem piece ∧ stream = piece ++ rest := by
  unfold first? at h
  split at h
  next kind l0 l1 l2 l3 tail =>
    have hencode : BigEndian.encode 4 (BigEndian.decode [l0, l1, l2, l3]) = [l0, l1, l2, l3] :=
      BigEndian.encode_decode [l0, l1, l2, l3]
    have hlt := FrameDecoder.decode_four_lt l0 l1 l2 l3
    generalize BigEndian.decode [l0, l1, l2, l3] = length at h hencode hlt
    unfold afterHeader at h
    split at h
    next hshort =>
      cases h
      exact ⟨_, .refused kind hshort, by rw [hencode]; rfl⟩
    next hlong =>
      split at h
      · cases h
      next hbody =>
        cases h
        have htake : (tail.take (length - 4)).length + 4 = length := by
          rw [List.length_take]
          omega
        refine ⟨_, .frame ⟨kind, tail.take (length - 4)⟩ (by rw [htake]; exact hlt), ?_⟩
        rw [toBytes, htake, hencode, List.append_assoc, List.take_append_drop]
        rfl
  · cases h

/-- Parsing leaves nothing of a stream if and only if the stream is a sequence of items. -/
theorem parse_snd_eq_nil_iff {stream : Bytes} : (parse stream).2 = [] ↔ IsWhole stream := by
  constructor
  · intro h
    fun_induction parse stream with
    | case1 stream hnone => exact ⟨[], h.symm, nofun⟩
    | case2 stream item rest hsome items tail htail ih =>
      obtain ⟨piece, hpiece, rfl⟩ := exists_isItem_of_first? hsome
      obtain ⟨pieces, rfl, hpieces⟩ := ih (by rw [htail]; exact h)
      exact ⟨piece :: pieces, List.flatten_cons, List.forall_mem_cons.mpr ⟨hpiece, hpieces⟩⟩
  · rintro ⟨pieces, rfl, hpieces⟩
    induction pieces with
    | nil => rw [List.flatten_nil, parse_of_first?_none rfl]
    | cons piece pieces ih =>
      obtain ⟨hpiece, hrest⟩ := List.forall_mem_cons.mp hpieces
      obtain ⟨item, hfirst⟩ := hpiece.first?_append pieces.flatten
      rw [List.flatten_cons, parse_of_first?_some hfirst]
      exact ih hrest

end Frame

namespace FrameDecoder

open GelClient.Frame (IsWhole parse)

/-- How many bytes the buffer must hold for the next header, or for the body behind a header that was taken. -/
def needed (d : FrameDecoder) : Nat :=
  match d.header with
  | none => 5
  | some (_, length) => length

/-- The buffer does not hold the next header, or not the body behind the header that was taken. -/
def Waits (d : FrameDecoder) : Prop := d.buffer.length < d.needed

/-- What is missing makes the buffer as long as it must be. -/
theorem Waits.missing_eq {d : FrameDecoder} (h : d.Waits) : d.missing = d.needed - d.buffer.length := by
  unfold Waits needed at h
  unfold missing needed
  cases hheader : d.header with
  | none =>
    rw [hheader] at h
    dsimp only at h ⊢
    omega
  | some header =>
    rw [hheader] at h
    dsimp only at h ⊢
    omega

/-- A body that is not complete is waited for. -/
theorem waits_of_takeBody {kind : UInt8} {length : Nat} {buffer : Bytes} {d : FrameDecoder}
    (h : takeBody kind length buffer = (none, d)) : d.Waits := by
  simp only [takeBody, List.splitAt_eq, List.length_take] at h
  split at h
  next hshort =>
    cases h
    change buffer.length < length
    omega
  · cases h

/-- A call of `decode` that finds nothing leaves a decoder that waits. -/
theorem waits_of_decode {d rest : FrameDecoder} (h : d.decode = (.ok none, rest)) : rest.Waits := by
  unfold decode at h
  split at h
  next kind length hheader =>
    obtain ⟨hnone, hrest⟩ := Prod.mk.inj h
    exact waits_of_takeBody (Prod.ext (Except.ok.inj hnone) hrest)
  next hheader =>
    split at h
    next kind l0 l1 l2 l3 buffer hbuffer =>
      dsimp only at h
      split at h
      · cases h
      · obtain ⟨hnone, hrest⟩ := Prod.mk.inj h
        exact waits_of_takeBody (Prod.ext (Except.ok.inj hnone) hrest)
    next hshort =>
      obtain ⟨-, rfl⟩ := Prod.mk.inj h
      change d.buffer.length < d.needed
      rw [needed, hheader]
      -- Five bytes or more would have been taken as a header.
      match hbuffer : d.buffer with
      | [] | [_] | [_, _] | [_, _, _] | [_, _, _, _] => simp
      | b0 :: b1 :: b2 :: b3 :: b4 :: rest => exact absurd hbuffer (hshort b0 b1 b2 b3 b4 rest)

/-- A decoder that waits finds nothing, and stays as it is. -/
theorem Waits.decode_eq {d : FrameDecoder} (h : d.Waits) : d.decode = (.ok none, d) := by
  unfold Waits needed at h
  unfold decode
  split at h
  next hheader =>
    simp only [hheader]
    split
    next hbuffer =>
      rw [hbuffer] at h
      simp only [List.length_cons] at h
      omega
    · rfl
  next kind length hheader =>
    have hshort : (d.buffer.take length).length < length := by
      rw [List.length_take]
      omega
    simp only [hheader, takeBody, List.splitAt_eq, if_pos hshort]
    rw [← hheader]

/-- With fewer bytes than are missing a decoder goes on waiting, and lacks so many bytes less. -/
theorem Waits.feed {d : FrameDecoder} (h : d.Waits) {chunk : Bytes} (hchunk : chunk.length < d.missing) :
    (d.feed chunk).Waits ∧ (d.feed chunk).missing = d.missing - chunk.length := by
  have hneeded : (d.feed chunk).needed = d.needed := rfl
  have hlength : (d.feed chunk).buffer.length = d.buffer.length + chunk.length := List.length_append
  rw [h.missing_eq] at hchunk ⊢
  have hwaits : (d.feed chunk).Waits := by
    rw [Waits, hneeded, hlength]
    omega
  refine ⟨hwaits, ?_⟩
  rw [hwaits.missing_eq, hneeded, hlength]
  omega

/-- However fewer bytes than are missing arrive, and whenever the decoder is asked in between, it delivers nothing. -/
theorem Waits.run_eq {d : FrameDecoder} (h : d.Waits) {more : List Action}
    (hmore : (more.flatMap Action.bytes).length < d.missing) :
    d.run more = ([], d.feed (more.flatMap Action.bytes)) := by
  induction more generalizing d with
  | nil => simp [run, FrameDecoder.feed]
  | cons action more ih =>
    rw [List.flatMap_cons] at hmore ⊢
    cases action with
    | feed chunk =>
      rw [Action.bytes, List.length_append] at hmore
      have hchunk : chunk.length < d.missing := by omega
      obtain ⟨hwaits, hmissing⟩ := h.feed hchunk
      rw [run, ih hwaits (by omega), Action.bytes, feed_append]
    | decode =>
      rw [run, h.decode_eq]
      dsimp only
      rw [ih h hmore]
      rfl

/-- What a decoder comes to that has all bytes of its pending header or body and no more: the header is refused, is that
of an empty frame, or is taken and its body is pending; or the frame of the pending header is complete. -/
inductive Completes (d : FrameDecoder) : Except ProtocolError (Option Frame) × FrameDecoder → Prop
  | refused {kind : UInt8} {length : Nat} : d.header = none → d.buffer = kind :: BigEndian.encode 4 length →
      length < 4 → Completes d (.error (.invalidLength (UInt32.ofNat length)), empty)
  | emptyFrame {kind : UInt8} : d.header = none → d.buffer = kind :: BigEndian.encode 4 4 →
      Completes d (.ok (some ⟨kind, []⟩), empty)
  | header {kind : UInt8} {length : Nat} : d.header = none → d.buffer = kind :: BigEndian.encode 4 (length + 4) →
      0 < length → Completes d (.ok none, { buffer := [], header := some (kind, length) })
  | body {kind : UInt8} {length : Nat} : d.header = some (kind, length) → d.buffer.length = length →
      Completes d (.ok (some ⟨kind, d.buffer⟩), empty)

/-- A decoder whose buffer has just the length that it must have completes its pending header or body. -/
theorem completes_of_length_eq {d : FrameDecoder} (h : d.buffer.length = d.needed) : d.Completes d.decode := by
  unfold needed at h
  split at h
  next hheader =>
    match hbuffer : d.buffer with
    | [kind, l0, l1, l2, l3] =>
      have hencode : BigEndian.encode 4 (BigEndian.decode [l0, l1, l2, l3]) = [l0, l1, l2, l3] :=
        BigEndian.encode_decode [l0, l1, l2, l3]
      simp only [decode, hheader, hbuffer]
      generalize BigEndian.decode [l0, l1, l2, l3] = length at hencode ⊢
      rw [← hencode] at hbuffer
      obtain hlt | rfl | ⟨body, hbody, rfl⟩ : length < 4 ∨ length = 4 ∨ ∃ body, 0 < body ∧ length = body + 4 := by
        by_cases hbody : 4 < length
        · exact .inr (.inr ⟨length - 4, by omega, by omega⟩)
        · omega
      · rw [if_pos hlt]
        exact .refused hheader hbuffer hlt
      · exact .emptyFrame hheader hbuffer
      · have hshort : ([] : Bytes).length < body := hbody
        rw [if_neg (by omega), Nat.add_sub_cancel, takeBody, List.splitAt_eq, List.take_nil, List.drop_nil]
        dsimp only
        rw [if_pos hshort]
        exact .header hheader hbuffer hbody
    | [] | [_] | [_, _] | [_, _, _] | [_, _, _, _] | _ :: _ :: _ :: _ :: _ :: _ :: _ =>
      rw [hbuffer] at h
      simp at h
  next kind length hheader =>
    have hdecode : d.decode = (.ok (some ⟨kind, d.buffer⟩), empty) := by
      simp only [decode, hheader, takeBody, List.splitAt_eq]
      rw [List.take_of_length_le (Nat.le_of_eq h), List.drop_of_length_le (Nat.le_of_eq h), if_neg (by omega)]
      rfl
    rw [hdecode]
    exact .body hheader h

/-- With all bytes that are missing a decoder completes its pending header or body. -/
theorem Waits.completes {d : FrameDecoder} (h : d.Waits) {chunk : Bytes} (hchunk : chunk.length = d.missing) :
    (d.feed chunk).Completes (d.feed chunk).decode := by
  apply completes_of_length_eq
  have hneeded : (d.feed chunk).needed = d.needed := rfl
  have hlength : (d.feed chunk).buffer.length = d.buffer.length + chunk.length := List.length_append
  rw [h.missing_eq] at hchunk
  unfold Waits at h
  omega

/-- Nothing is pending in a decoder that holds nothing. -/
theorem isPending_eq_false_iff {d : FrameDecoder} : d.isPending = false ↔ d.held = [] := by
  constructor
  · intro h
    rw [isPending, Bool.or_eq_false_iff, Bool.not_eq_false', List.isEmpty_iff, Option.isSome_eq_false_iff,
      Option.isNone_iff_eq_none] at h
    rw [held_of_no_header h.2, h.1]
  · intro h
    rw [eq_empty_of_held h]
    rfl

/-- A decoder that found nothing holds what parsing leaves of the bytes that arrived. -/
theorem held_of_run {actions : List Action} {d : FrameDecoder} (h : (empty.run actions).2.decode = (.ok none, d)) :
    d.held = (parse (actions.flatMap Action.bytes)).2 := by
  have hstream := parse_held_append fits_empty actions
  have hfirst := first?_held (fits_empty.run actions)
  have hheld := held_decode (d := (empty.run actions).2) (by rw [h]; rfl)
  rw [h] at hfirst hheld
  have hempty : empty.held = [] := rfl
  rw [hempty, List.nil_append, Frame.parse_of_first?_none hfirst] at hstream
  rw [hstream]
  exact hheld

/-- What is missing is exact. After any bytes in any chunks, with calls of `decode` in between, a call found nothing.
However fewer bytes than are missing then arrive, whatever is asked in between delivers nothing, and so many bytes less
are missing; with all of them, the next call completes the pending header or body. And nothing is pending if and only if
the bytes that arrived are a sequence of whole frames and refused headers. -/
theorem waits_until_missing {actions : List Action} {d : FrameDecoder}
    (h : (empty.run actions).2.decode = (.ok none, d)) :
    (∀ more : List Action, (more.flatMap Action.bytes).length < d.missing →
      let waiting := d.feed (more.flatMap Action.bytes)
      d.run more = ([], waiting) ∧ waiting.decode = (.ok none, waiting) ∧
        waiting.missing = d.missing - (more.flatMap Action.bytes).length) ∧
    (∀ chunk : Bytes, chunk.length = d.missing → (d.feed chunk).Completes (d.feed chunk).decode) ∧
    (d.isPending = false ↔ IsWhole (actions.flatMap Action.bytes)) := by
  have hwaits : d.Waits := waits_of_decode h
  refine ⟨fun more hmore => ?_, fun chunk hchunk => hwaits.completes hchunk, ?_⟩
  · obtain ⟨hwaiting, hmissing⟩ := hwaits.feed hmore
    exact ⟨hwaits.run_eq hmore, hwaiting.decode_eq, hmissing⟩
  · rw [isPending_eq_false_iff, held_of_run h, Frame.parse_snd_eq_nil_iff]

/-- A header that is refused, and the header of a frame with one of its three bytes, in three chunks. -/
def cutFrame : List Action :=
  [.feed [0x5A, 0, 0], .decode, .feed [0, 3, 0x5A, 0], .decode, .decode, .feed [0, 0, 7, 0]]

/-- The frame lacks two bytes. With one of them it is waited for, and with both it is there. -/
theorem waits_until_missing_cutFrame :
    (empty.run cutFrame).2.decode = (.ok none, ⟨[0], some (0x5A, 3)⟩) ∧
      FrameDecoder.missing ⟨[0], some (0x5A, 3)⟩ = 2 ∧
      FrameDecoder.run ⟨[0], some (0x5A, 3)⟩ [.decode, .feed [0]] = ([], ⟨[0, 0], some (0x5A, 3)⟩) ∧
      Completes ⟨[0, 0, 0x49], some (0x5A, 3)⟩ (.ok (some ⟨0x5A, [0, 0, 0x49]⟩), empty) ∧
      ¬ IsWhole (cutFrame.flatMap Action.bytes) := by
  have hdecode : (empty.run cutFrame).2.decode = (.ok none, ⟨[0], some (0x5A, 3)⟩) := by decide
  obtain ⟨hfewer, hall, hpending⟩ := waits_until_missing hdecode
  refine ⟨hdecode, rfl, (hfewer [.decode, .feed [0]] (by decide)).1, hall [0, 0x49] rfl, fun hwhole => ?_⟩
  cases hpending.mpr hwhole

end FrameDecoder

end GelClient
