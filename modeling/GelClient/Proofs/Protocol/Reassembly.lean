import GelClient.Proofs.Protocol.Frame
import Mathlib.Algebra.Group.Nat.Defs

/-!
# Frames out of chunks

Frames are found where they are in the stream of bytes, wherever the reads that bring the bytes end.
`Frame.parse` reads a whole stream at once. A decoder that is fed the stream in chunks, and is asked for
frames at any time in between, delivers the same frames and the same refusals in the same order, and
none of them before its bytes are there. The argument is that what it holds is a part of the stream, and
that each call either takes the first item of this part or finds that there is none yet. Out of a
stream that was made of frames it delivers just these.
-/

namespace GelClient

namespace Frame

/-- What stands in a stream: a frame, or a header whose length is refused. -/
abbrev Item := Except ProtocolError Frame

/-- The item that a header and the bytes behind it make, and the bytes behind the item; none while
bytes of the body are missing. -/
def afterHeader (kind : UInt8) (length : Nat) (rest : Bytes) : Option (Item × Bytes) :=
  if length < 4 then some (.error (.invalidLength (UInt32.ofNat length)), rest)
  else if rest.length < length - 4 then none
  else some (.ok { kind, body := rest.take (length - 4) }, rest.drop (length - 4))

/-- The first item of a stream and the bytes behind it, none if the stream ends before. -/
def first? : Bytes → Option (Item × Bytes)
  | kind :: l0 :: l1 :: l2 :: l3 :: rest =>
    afterHeader kind (BigEndian.decode [l0, l1, l2, l3]) rest
  | _ => none

/-- What is behind a header is no longer behind its item. -/
private theorem length_le_of_afterHeader {kind : UInt8} {length : Nat} {rest tail : Bytes} {item : Item}
    (h : afterHeader kind length rest = some (item, tail)) : tail.length ≤ rest.length := by
  unfold afterHeader at h
  split at h
  · cases h
    exact Nat.le_refl _
  · split at h
    · cases h
    · cases h
      rw [List.length_drop]
      exact Nat.sub_le _ _

/-- An item takes bytes off a stream. -/
theorem length_lt_of_first? {stream tail : Bytes} {item : Item} (h : first? stream = some (item, tail)) :
    tail.length < stream.length := by
  unfold first? at h
  split at h
  · have hle := length_le_of_afterHeader h
    simp only [List.length_cons]
    omega
  · cases h

/-- The items of a whole stream in order, and the bytes of an unfinished one behind them. -/
def parse (stream : Bytes) : List Item × Bytes :=
  match _h : first? stream with
  | none => ([], stream)
  | some (item, rest) =>
    let (items, tail) := parse rest
    (item :: items, tail)
  termination_by stream.length
  decreasing_by exact length_lt_of_first? _h

/-- A stream without a first item is unfinished. -/
theorem parse_of_first?_none {stream : Bytes} (h : first? stream = none) :
    parse stream = ([], stream) := by
  rw [parse]
  split
  · rfl
  next hsome =>
    rw [h] at hsome
    cases hsome

/-- The first item of a stream stands in front of those behind it. -/
theorem parse_of_first?_some {stream rest : Bytes} {item : Item}
    (h : first? stream = some (item, rest)) :
    parse stream = (item :: (parse rest).1, (parse rest).2) := by
  rw [parse]
  split
  next hnone =>
    rw [h] at hnone
    cases hnone
  next item' rest' hsome =>
    rw [h] at hsome
    cases hsome
    rfl

/-- A refused header costs its five bytes, and parsing goes on at the next one. -/
example : parse [90, 0, 0, 0, 3, 72, 0, 0, 0, 5, 1, 90] =
    ([.error (.invalidLength 3), .ok ⟨72, [1]⟩], [90]) := by cbv

/-- More bytes behind an item do not change it. -/
theorem afterHeader_append {kind : UInt8} {length : Nat} {rest tail : Bytes} {item : Item}
    (h : afterHeader kind length rest = some (item, tail)) (more : Bytes) :
    afterHeader kind length (rest ++ more) = some (item, tail ++ more) := by
  unfold afterHeader at h ⊢
  split
  next hshort =>
    rw [if_pos hshort] at h
    cases h
    rfl
  next hlong =>
    rw [if_neg hlong] at h
    split at h
    · cases h
    next hbody =>
      cases h
      have hle : length - 4 ≤ rest.length := Nat.not_lt.mp hbody
      have hmore : ¬ (rest ++ more).length < length - 4 := by
        rw [List.length_append]
        omega
      rw [if_neg hmore, List.take_append_of_le_length hle, List.drop_append_of_le_length hle]

/-- The first item of a stream is there as soon as its bytes are. -/
theorem first?_append {stream tail : Bytes} {item : Item} (h : first? stream = some (item, tail))
    (more : Bytes) : first? (stream ++ more) = some (item, tail ++ more) := by
  unfold first? at h
  split at h
  · exact afterHeader_append h more
  · cases h

/-- The length in a header of four bytes is read back. -/
theorem first?_header (kind : UInt8) {length : Nat} (h : length < 2 ^ 32) (rest : Bytes) :
    first? (kind :: BigEndian.encode 4 length ++ rest) = afterHeader kind length rest := by
  have hdecode : BigEndian.decode (BigEndian.encode 4 length) = length :=
    BigEndian.decode_encode_of_lt h
  simp only [BigEndian.encode, List.nil_append, List.cons_append] at hdecode ⊢
  rw [first?, hdecode]

/-- The first item behind which a stream goes on is the frame that it starts with. -/
theorem first?_toBytes_append {f : Frame} (h : f.body.length + 4 < 2 ^ 32) (rest : Bytes) :
    first? (f.toBytes ++ rest) = some (.ok f, rest) := by
  have hbytes : f.toBytes ++ rest =
      f.kind :: BigEndian.encode 4 (f.body.length + 4) ++ (f.body ++ rest) := by
    rw [toBytes, List.append_assoc]
  rw [hbytes, first?_header f.kind h, afterHeader, if_neg (by omega), Nat.add_sub_cancel,
    if_neg (by simp), List.take_left, List.drop_left]

/-- A stream of frames is parsed as these frames. -/
theorem parse_flatMap_toBytes {frames : List Frame} (h : ∀ f ∈ frames, f.body.length + 4 < 2 ^ 32) :
    parse (frames.flatMap toBytes) = (frames.map .ok, []) := by
  induction frames with
  | nil => exact parse_of_first?_none rfl
  | cons f frames ih =>
    have hfirst := first?_toBytes_append (h f List.mem_cons_self) (frames.flatMap toBytes)
    rw [List.flatMap_cons, parse_of_first?_some hfirst, ih fun f hf => h f (List.mem_cons_of_mem _ hf)]
    rfl

/-- Frames that come to less bytes than a length can announce are found again in these bytes. -/
theorem parse_of_flatMap_toBytes {frames : List Frame} {stream : Bytes}
    (hframes : frames.flatMap toBytes = stream) (hstream : stream.length < 2 ^ 32) :
    parse stream = (frames.map .ok, []) := by
  subst hframes
  refine parse_flatMap_toBytes fun f hf => ?_
  obtain ⟨front, back, rfl⟩ := List.append_of_mem hf
  rw [List.flatMap_append, List.flatMap_cons] at hstream
  simp only [List.length_append, toBytes, List.length_cons, BigEndian.length_encode] at hstream
  omega

end Frame

namespace FrameDecoder

open GelClient.Frame (Item parse first? afterHeader)

/-- The item that a call of `decode` delivers, none if more bytes are needed. -/
def delivered : Except ProtocolError (Option Frame) → Option Item
  | .ok none => none
  | .ok (some f) => some (.ok f)
  | .error e => some (.error e)

/-- The length of a header that was taken fits its four bytes. -/
def Fits (d : FrameDecoder) : Prop :=
  ∀ kind length, d.header = some (kind, length) → length + 4 < 2 ^ 32

/-- A decoder that has seen nothing has no header. -/
theorem fits_empty : empty.Fits := nofun

/-- Bytes that arrive leave the header as it is. -/
theorem Fits.feed {d : FrameDecoder} (h : d.Fits) (chunk : Bytes) : (d.feed chunk).Fits := h

/-- A header is kept only if it was there or is given. -/
theorem Fits.takeBody {kind : UInt8} {length : Nat} (h : length + 4 < 2 ^ 32) (buffer : Bytes) :
    (takeBody kind length buffer).2.Fits := by
  unfold FrameDecoder.takeBody
  dsimp only
  split
  · intro kind' length' heq
    cases heq
    exact h
  · exact nofun

/-- A number of four bytes is below their limit. -/
theorem decode_four_lt (l0 l1 l2 l3 : UInt8) : BigEndian.decode [l0, l1, l2, l3] < 2 ^ 32 := by
  have h0 := l0.toNat_lt
  have h1 := l1.toNat_lt
  have h2 := l2.toNat_lt
  have h3 := l3.toNat_lt
  simp only [BigEndian.decode, List.foldl_cons, List.foldl_nil]
  omega

/-- Decoding takes headers of four bytes only. -/
theorem Fits.decode {d : FrameDecoder} (h : d.Fits) : d.decode.2.Fits := by
  unfold FrameDecoder.decode
  split
  next kind length hheader => exact Fits.takeBody (h kind length hheader) d.buffer
  next =>
    split
    next kind l0 l1 l2 l3 rest hbuffer =>
      have hlt := decode_four_lt l0 l1 l2 l3
      dsimp only
      split
      · exact nofun
      next hlength => exact Fits.takeBody (by omega) rest
    · exact h

/-- Taking a body delivers what stands behind its header. -/
theorem afterHeader_of_takeBody {kind : UInt8} {length : Nat} {buffer : Bytes} {frame : Option Frame}
    {d : FrameDecoder} (h : takeBody kind length buffer = (frame, d)) :
    afterHeader kind (length + 4) buffer = (delivered (.ok frame)).map (·, d.held) := by
  have hlength : ¬ length + 4 < 4 := by omega
  rw [takeBody, List.splitAt_eq] at h
  rw [afterHeader, if_neg hlength, Nat.add_sub_cancel]
  dsimp only at h
  rw [List.length_take] at h
  split at h
  next hshort =>
    cases h
    rw [if_pos (by omega)]
    rfl
  next hwhole =>
    cases h
    rw [if_neg (by omega)]
    rfl

/-- A call of `decode` delivers the first item of what is held, and holds what is behind it. -/
theorem first?_held {d : FrameDecoder} (h : d.Fits) :
    first? d.held = (delivered d.decode.1).map (·, d.decode.2.held) := by
  unfold FrameDecoder.decode
  split
  next kind length hheader =>
    rw [held_of_header hheader, Frame.first?_header kind (h kind length hheader)]
    exact afterHeader_of_takeBody rfl
  next hheader =>
    rw [held_of_no_header hheader]
    split
    next kind l0 l1 l2 l3 rest hbuffer =>
      rw [hbuffer, first?]
      dsimp only
      split
      next hlength =>
        rw [afterHeader, if_pos hlength]
        rfl
      next hlength =>
        have hbody := afterHeader_of_takeBody
          (rfl : takeBody kind (BigEndian.decode [l0, l1, l2, l3] - 4) rest = (_, _))
        rw [Nat.sub_add_cancel (Nat.not_lt.mp hlength)] at hbody
        exact hbody
    next hbuffer =>
      rw [first?]
      · rfl
      · exact hbuffer

/-- A call of `decode` that delivers nothing takes nothing. -/
theorem held_decode {d : FrameDecoder} (h : delivered d.decode.1 = none) : d.decode.2.held = d.held := by
  cases hresult : d.decode.1 with
  | error e =>
    rw [hresult] at h
    cases h
  | ok frame =>
    cases frame with
    | some f =>
      rw [hresult] at h
      cases h
    | none => exact (held_of_decode (Prod.ext hresult rfl)).symm

/-- A header that is refused is taken off the buffer. -/
theorem pending_of_decode_error {d rest : FrameDecoder} {e : ProtocolError}
    (h : d.decode = (.error e, rest)) : rest.pending < d.pending := by
  unfold FrameDecoder.decode at h
  split at h
  · cases h
  next hheader =>
    split at h
    next kind l0 l1 l2 l3 buffer hbuffer =>
      dsimp only at h
      split at h
      · cases h
        simp only [pending, hheader, hbuffer, List.length_cons, Option.isSome_none, Bool.false_eq_true,
          if_false]
        omega
      · cases h
    · cases h

/-- Takes every item that has arrived, also behind a refused header. -/
def exhaust (d : FrameDecoder) : List Item × FrameDecoder :=
  match _h : d.decode with
  | (.ok none, rest) => ([], rest)
  | (.ok (some f), rest) =>
    let (items, last) := rest.exhaust
    (.ok f :: items, last)
  | (.error e, rest) =>
    let (items, last) := rest.exhaust
    (.error e :: items, last)
  termination_by d.pending
  decreasing_by
  · exact pending_decode _h
  · exact pending_of_decode_error _h

/-- Exhausting a decoder delivers the items of what it holds and leaves the unfinished rest. -/
theorem parse_held_eq_exhaust {d : FrameDecoder} (h : d.Fits) :
    parse d.held = (d.exhaust.1, d.exhaust.2.held) := by
  fun_induction exhaust d with
  | case1 d rest hd =>
    have hfirst := first?_held h
    have hheld := held_decode (d := d) (by rw [hd]; rfl)
    rw [hd] at hfirst hheld
    rw [Frame.parse_of_first?_none hfirst]
    exact congrArg (Prod.mk []) hheld.symm
  | case2 d f rest hd items last hrest ih =>
    have hfirst := first?_held h
    have hfits := h.decode
    rw [hd] at hfirst hfits
    rw [Frame.parse_of_first?_some hfirst, ih hfits, hrest]
  | case3 d e rest hd items last hrest ih =>
    have hfirst := first?_held h
    have hfits := h.decode
    rw [hd] at hfirst hfits
    rw [Frame.parse_of_first?_some hfirst, ih hfits, hrest]

/-- What is done with a decoder. Bytes arrive in a chunk, which may be empty, and it makes no
difference whether they are copied into the buffer or read into it; and an item is asked for. -/
inductive Action where
  | feed (chunk : Bytes)
  | decode

/-- The bytes that an action brings. -/
def Action.bytes : Action → Bytes
  | feed chunk => chunk
  | decode => []

/-- The items that a decoder delivers during some actions, and the decoder behind them. -/
def run (d : FrameDecoder) : List Action → List Item × FrameDecoder
  | [] => ([], d)
  | .feed chunk :: actions => (d.feed chunk).run actions
  | .decode :: actions =>
    let (items, last) := d.decode.2.run actions
    ((delivered d.decode.1).toList ++ items, last)

/-- Every action leaves a header that fits its bytes. -/
theorem Fits.run {d : FrameDecoder} (h : d.Fits) (actions : List Action) : (d.run actions).2.Fits := by
  induction actions generalizing d with
  | nil => exact h
  | cons action actions ih =>
    cases action with
    | feed chunk => exact ih (h.feed chunk)
    | decode => exact ih h.decode

/-- The items of what a decoder holds and is fed are those that it delivers and those of what it holds
then. -/
theorem parse_held_append {d : FrameDecoder} (h : d.Fits) (actions : List Action) :
    parse (d.held ++ actions.flatMap Action.bytes) =
      ((d.run actions).1 ++ (parse (d.run actions).2.held).1, (parse (d.run actions).2.held).2) := by
  induction actions generalizing d with
  | nil =>
    rw [List.flatMap_nil, List.append_nil]
    rfl
  | cons action actions ih =>
    rw [List.flatMap_cons]
    cases action with
    | feed chunk =>
      rw [← List.append_assoc, Action.bytes, ← held_feed]
      exact ih (h.feed chunk)
    | decode =>
      rw [Action.bytes, List.nil_append, FrameDecoder.run]
      have hfirst := first?_held h
      have hrest := ih h.decode
      cases hitem : delivered d.decode.1 with
      | none =>
        rw [held_decode hitem] at hrest
        exact hrest
      | some item =>
        rw [hitem] at hfirst
        rw [Frame.parse_of_first?_some (Frame.first?_append hfirst _), hrest]
        rfl

/-- A decoder that holds nothing is as it was before it saw anything. -/
theorem eq_empty_of_held {d : FrameDecoder} (h : d.held = []) : d = empty := by
  cases d with
  | mk buffer header =>
    cases header with
    | some header => cases h
    | none =>
      have hbuffer : buffer = [] := h
      rw [hbuffer]
      rfl

/-- Out of a stream of frames, in whatever chunks it arrives, a decoder delivers these frames. -/
theorem frames_of_run {frames : List Frame} (h : ∀ f ∈ frames, f.body.length + 4 < 2 ^ 32)
    {actions : List Action} (hstream : actions.flatMap Action.bytes = frames.flatMap Frame.toBytes) :
    (empty.run actions).1 ++ (empty.run actions).2.exhaust.1 = frames.map .ok ∧
      (empty.run actions).2.exhaust.2 = empty := by
  have hparse := parse_held_append fits_empty actions
  have hempty : empty.held = [] := rfl
  rw [hempty, List.nil_append, hstream, Frame.parse_flatMap_toBytes h,
    parse_held_eq_exhaust (fits_empty.run actions)] at hparse
  obtain ⟨hitems, hheld⟩ := Prod.mk.inj hparse
  exact ⟨hitems.symm, eq_empty_of_held hheld.symm⟩

/-- A stream is decoded alike however it is cut. Whatever chunks a decoder was fed and whenever it was
asked for frames in between, it has delivered nothing but the first items of the bytes that have
arrived; and when it is asked for the others, all of them have been delivered, in order, and it holds
just the bytes of an unfinished one. -/
theorem items_of_run (actions : List Action) :
    let stream := actions.flatMap Action.bytes
    let (items, d) := empty.run actions
    let (others, last) := d.exhaust
    items <+: (parse stream).1 ∧ (items ++ others, last.held) = parse stream := by
  have hstream := parse_held_append fits_empty actions
  have hrest := parse_held_eq_exhaust (fits_empty.run actions)
  rw [hrest] at hstream
  exact ⟨⟨_, (congrArg Prod.fst hstream).symm⟩, hstream.symm⟩

end FrameDecoder

end GelClient
