import GelClient.Proofs.Packet.Parts
import Mathlib.Algebra.Group.Nat.Defs

/-!
# The steps of writing

An operation asks for room before it stores, but each in its own way: for one piece, for two halves one after
the other, for a length and its bytes at once. `Request` makes these steps explicit. `Datum.runAll_requests`
says that a value is written by its steps, and `Request.Fills` what all operations have in common: the room
that is asked for is exactly what is then stored.
-/

namespace GelClient.Packet

/-- A step of an operation on a writer. -/
inductive Request where
  | room (needed : Nat)
  | store (bytes : Bytes)
  /-- The operation gives up, for a length that does not fit its field. -/
  | refuse (length : Nat)

namespace Request

/-- Does the step. -/
def run : Request → Put Unit
  | room needed => Put.reserve needed
  | store bytes => Put.emit bytes
  | refuse length => throw (.tooLarge length)

/-- Does steps one after the other. -/
def runAll (requests : List Request) : Put Unit := requests.forM run

/-- The steps that write one piece. -/
def piece (bytes : Bytes) : List Request := [room bytes.length, store bytes]

/-- The steps that write bytes behind their length. -/
def block (bytes : Bytes) : List Request :=
  room (4 + bytes.length) ::
    if bytes.length < 2 ^ 32 then [store (BigEndian.encode 4 bytes.length), store bytes]
    else [refuse bytes.length]

/-- The steps that write a count. -/
def count (width : CountWidth) (n : Nat) : List Request :=
  match width with
  | .two => if n < 2 ^ 16 then piece (BigEndian.encode 2 (UInt16.ofNat n).toNat) else [refuse n]
  | .four => if n < 2 ^ 32 then piece (BigEndian.encode 4 (UInt32.ofNat n).toNat) else [refuse n]

/-- Room is asked for exactly what is then stored; `credit` is what was asked for and is not stored yet. -/
inductive Fills : (credit : Nat) → List Request → Prop
  | nil : Fills 0 []
  | room {needed : Nat} {requests : List Request} : Fills needed requests → Fills 0 (.room needed :: requests)
  | store {bytes : Bytes} {credit : Nat} {requests : List Request} :
      Fills credit requests → Fills (bytes.length + credit) (.store bytes :: requests)
  | refuse {length credit : Nat} {requests : List Request} : Fills credit (.refuse length :: requests)

/-- Further steps may follow when all room is filled. -/
theorem Fills.append {credit : Nat} {first second : List Request} (h : Fills credit first)
    (hs : Fills 0 second) : Fills credit (first ++ second) := by
  induction h with
  | nil => exact hs
  | room _ ih => exact .room ih
  | store _ ih => exact .store ih
  | refuse => exact .refuse

/-- The steps for the items of a list fill their room if those for each item do. -/
theorem fills_flatMap {α : Type} {items : List α} {steps : α → List Request}
    (h : ∀ a ∈ items, Fills 0 (steps a)) : Fills 0 (items.flatMap steps) := by
  induction items with
  | nil => exact .nil
  | cons a items ih =>
    obtain ⟨ha, hitems⟩ := List.forall_mem_cons.mp h
    rw [List.flatMap_cons]
    exact ha.append (ih hitems)

/-- One piece fills its room. -/
theorem fills_piece (bytes : Bytes) : Fills 0 (piece bytes) := .room (.store .nil)

/-- A length and its bytes fill the room for both. -/
theorem fills_block (bytes : Bytes) : Fills 0 (block bytes) := by
  apply Fills.room
  split
  · have h : Fills ((BigEndian.encode 4 bytes.length).length + (bytes.length + 0))
        [store (BigEndian.encode 4 bytes.length), store bytes] := .store (.store .nil)
    rwa [BigEndian.length_encode] at h
  · exact .refuse

/-- A count fills its room. -/
theorem fills_count (width : CountWidth) (n : Nat) : Fills 0 (count width n) := by
  cases width with
  | two | four =>
    rw [count]
    split
    · exact fills_piece _
    · exact .refuse

/-- Steps may be done in two parts. -/
theorem runAll_append (first second : List Request) :
    runAll (first ++ second) = (do runAll first; runAll second) :=
  List.forM_append

/-- Bytes are written as one piece. -/
theorem runAll_piece (bytes : Bytes) : runAll (piece bytes) = Put.raw bytes := rfl

/-- The steps of `block` write bytes behind their length. -/
theorem runAll_block (bytes : Bytes) : runAll (block bytes) = Put.block bytes := by
  unfold block Put.block
  split <;> rfl

/-- The steps of `count` write a count. -/
theorem runAll_count (width : CountWidth) (n : Nat) : runAll (count width n) = Put.count width n := by
  cases width with
  | two | four =>
    rw [count, Put.count]
    split <;> rfl

/-- The steps for the items of a list write them one by one. -/
theorem runAll_flatMap {α : Type} {items : List α} {steps : α → List Request} {item : α → Put Unit}
    (h : ∀ a, runAll (steps a) = item a) : runAll (items.flatMap steps) = items.forM item := by
  induction items with
  | nil => rfl
  | cons a items ih => rw [List.flatMap_cons, runAll_append, h, ih, List.forM]

/-- The steps for a count and for the items behind it write a counted list. -/
theorem runAll_counted {α : Type} (width : CountWidth) (items : List α) {steps : α → List Request}
    {item : α → Put Unit} (h : ∀ a, runAll (steps a) = item a) :
    runAll (count width items.length ++ items.flatMap steps) = PutM.counted width items item := by
  rw [runAll_append, runAll_count, runAll_flatMap h, Put.counted_eq]

end Request

namespace Datum

open Request (piece count runAll runAll_append runAll_piece runAll_block runAll_counted)

/-- The steps that write a value. -/
def requests : Datum → List Request
  | uint8 n => piece (BigEndian.encode 1 n.toNat)
  | uint16 n => piece (BigEndian.encode 2 n.toNat)
  | uint32 n => piece (BigEndian.encode 4 n.toNat)
  | uint64 n => piece (BigEndian.encode 8 n.toNat)
  | int8 n => piece (BigEndian.encode 1 n.toUInt8.toNat)
  | int16 n => piece (BigEndian.encode 2 n.toUInt16.toNat)
  | int32 n => piece (BigEndian.encode 4 n.toUInt32.toNat)
  | int64 n => piece (BigEndian.encode 8 n.toUInt64.toNat)
  | bool b => piece (BigEndian.encode 1 (if b then 1 else 0 : UInt8).toNat)
  | float32 bits => piece (BigEndian.encode 4 bits.toNat)
  | float64 bits => piece (BigEndian.encode 8 bits.toNat)
  | uuid id => piece (BigEndian.encode 8 id.high.toNat) ++ piece (BigEndian.encode 8 id.low.toNat)
  | flags sets => piece (BigEndian.encode 8 (sets.foldl (· ||| ·) 0).toNat)
  | raw bytes => piece bytes
  | block bytes => Request.block bytes
  | optional (some bytes) => Request.block bytes
  | optional none => piece (BigEndian.encode 4 (-1 : Int32).toUInt32.toNat)
  | text s => Request.block (Utf8.encode s)
  | texts items => count .four items.length ++ items.flatMap fun s => Request.block (Utf8.encode s)
  | annotations items =>
    count .two items.length ++
      items.flatMap fun a => Request.block (Utf8.encode a.1) ++ Request.block (Utf8.encode a.2)
  | attributes items =>
    count .two items.length ++
      items.flatMap fun a => piece (BigEndian.encode 2 a.1.toNat) ++ Request.block a.2

/-- A value is written by its steps. -/
theorem runAll_requests (d : Datum) : runAll d.requests = d.write := by
  cases d with
  | uuid id => exact runAll_append _ _
  | block bytes => exact runAll_block bytes
  | optional bytes =>
    cases bytes with
    | none => rfl
    | some bytes => exact runAll_block bytes
  | text s => exact runAll_block _
  | texts items => exact runAll_counted .four items fun s => runAll_block _
  | annotations items =>
    apply runAll_counted .two items
    intro a
    rw [runAll_append, runAll_block, runAll_block]
    rfl
  | attributes items =>
    apply runAll_counted .two items
    intro a
    rw [runAll_append, runAll_piece, runAll_block]
    rfl
  | _ => rfl

/-- The steps of a value fill the room that they ask for. -/
theorem fills_requests (d : Datum) : Request.Fills 0 d.requests := by
  cases d with
  | uuid id => exact (Request.fills_piece _).append (Request.fills_piece _)
  | block bytes => exact Request.fills_block bytes
  | optional bytes =>
    cases bytes with
    | none => exact Request.fills_piece _
    | some bytes => exact Request.fills_block bytes
  | text s => exact Request.fills_block _
  | texts items =>
    exact (Request.fills_count _ _).append (Request.fills_flatMap fun s _ => Request.fills_block _)
  | annotations items =>
    exact (Request.fills_count _ _).append
      (Request.fills_flatMap fun a _ => (Request.fills_block _).append (Request.fills_block _))
  | attributes items =>
    exact (Request.fills_count _ _).append
      (Request.fills_flatMap fun a _ => (Request.fills_piece _).append (Request.fills_block _))
  | _ => exact Request.fills_piece _

end Datum

/-- A count that fits its width asks for room first. -/
theorem Request.exists_count_eq {width : CountWidth} {n : Nat} (h : n < width.limit) :
    ∃ needed rest, count width n = room needed :: rest := by
  cases width with
  | two | four => exact ⟨_, _, if_pos h⟩

namespace Datum

/-- The counts in a value fit their widths. -/
def CountFits : Datum → Prop
  | texts items => items.length < CountWidth.four.limit
  | annotations items => items.length < CountWidth.two.limit
  | attributes items => items.length < CountWidth.two.limit
  | _ => True

/-- A value whose counts fit asks for room first. -/
theorem exists_requests_eq {d : Datum} (h : d.CountFits) :
    ∃ needed rest, d.requests = .room needed :: rest := by
  cases d with
  | optional bytes =>
    cases bytes with
    | none | some bytes => exact ⟨_, _, rfl⟩
  | texts items | annotations items | attributes items =>
    obtain ⟨needed, rest, hcount⟩ := Request.exists_count_eq h
    rw [requests, hcount]
    exact ⟨_, _, rfl⟩
  | _ => exact ⟨_, _, rfl⟩

end Datum

end GelClient.Packet
