import GelClient.Packet.Error
import GelClient.Uuid

/-!
# Writing packets

A `Writer` collects the bytes of a packet. It may have a fixed capacity, which it never
exceeds, and once it has handed out its bytes it refuses every further write. A `PutM` action
runs on a writer and keeps what was written before a failure, so the state after a failed
action is visible.

Every primitive first reserves all the room that it needs and then appends, so a primitive
that fails leaves the writer as it was. `withLength` reserves a slot of four bytes, runs a
body, and patches the slot with the number of bytes that the body appended.
-/

namespace GelClient.Packet

/-- The bytes collected so far, the capacity if it is fixed, and whether the packet is done. -/
structure Writer where
  written : Array UInt8 := #[]
  capacity : Option Nat := none
  closed : Bool := false
  deriving Repr

namespace Writer

/-- An empty writer that grows without bound. -/
def empty : Writer := {}

/-- An empty writer for at most `capacity` bytes. -/
def fixed (capacity : Nat) : Writer := { capacity := some capacity }

/-- The number of bytes written so far. -/
def size (w : Writer) : Nat := w.written.size

/-- The bytes written so far. -/
def toBytes (w : Writer) : Bytes := w.written.toList

/-- The writer with `bytes` behind what it holds. -/
def append (w : Writer) (bytes : Bytes) : Writer :=
  { w with written := w.written.appendList bytes }

/-- The writer with the four bytes from `offset` on replaced by the big-endian form of `n`. -/
def patch (w : Writer) (offset n : Nat) : Writer :=
  let set (bytes : Array UInt8) (i : Nat) (b : UInt8) := bytes.setIfInBounds (offset + i) b
  { w with
    written :=
      set (set (set (set w.written 0 (UInt8.ofNat (n / 16777216))) 1 (UInt8.ofNat (n / 65536)))
        2 (UInt8.ofNat (n / 256))) 3 (UInt8.ofNat n) }

/-- Appending is appending on the bytes. -/
@[simp]
theorem toBytes_append (w : Writer) (bytes : Bytes) :
    (w.append bytes).toBytes = w.toBytes ++ bytes := by
  simp [append, toBytes]

/-- The size counts the bytes. -/
theorem size_eq_length (w : Writer) : w.size = w.toBytes.length := by
  simp [size, toBytes]

/-- Patching changes no byte count. -/
@[simp]
theorem size_patch (w : Writer) (offset n : Nat) : (w.patch offset n).size = w.size := by
  simp [patch, size]

end Writer

/-- An action on a writer that can fail, keeping the bytes written before the failure. -/
abbrev PutM (ε : Type) := EStateM ε Writer

/-- A writing action that fails with packet errors only. -/
abbrev Put := PutM Error

instance {ε : Type} [OfPacketError ε] : MonadLift Put (PutM ε) where
  monadLift x := x.adaptExcept OfPacketError.ofPacketError

namespace Put

/-- Checks that the writer is open and has room for `needed` more bytes. -/
def reserve (needed : Nat) : Put Unit := do
  let w ← get
  if w.closed then throw .closed
  match w.capacity with
  | some capacity => if capacity - w.size < needed then throw (.overflow capacity needed)
  | none => pure ()

/-- Appends without a check; the room has been reserved. -/
def emit (bytes : Bytes) : Put Unit :=
  modify fun w => w.append bytes

/-- Writes `bytes` as they are. -/
def raw (bytes : Bytes) : Put Unit := do
  reserve bytes.length
  emit bytes

/-- Writes the low `width` bytes of `n` as one piece. -/
def number (width n : Nat) : Put Unit :=
  raw (BigEndian.encode width n)

/-- Writes one byte. -/
def uint8 (n : UInt8) : Put Unit := number 1 n.toNat

/-- Writes an unsigned number of two bytes. -/
def uint16 (n : UInt16) : Put Unit := number 2 n.toNat

/-- Writes an unsigned number of four bytes. -/
def uint32 (n : UInt32) : Put Unit := number 4 n.toNat

/-- Writes an unsigned number of eight bytes. -/
def uint64 (n : UInt64) : Put Unit := number 8 n.toNat

/-- Writes a signed number of one byte. -/
def int8 (n : Int8) : Put Unit := uint8 n.toUInt8

/-- Writes a signed number of two bytes. -/
def int16 (n : Int16) : Put Unit := uint16 n.toUInt16

/-- Writes a signed number of four bytes. -/
def int32 (n : Int32) : Put Unit := uint32 n.toUInt32

/-- Writes a signed number of eight bytes. -/
def int64 (n : Int64) : Put Unit := uint64 n.toUInt64

/-- Writes one byte, 1 for true. -/
def bool (b : Bool) : Put Unit := uint8 (if b then 1 else 0)

/-- Writes a single precision number by its bits. -/
def float32 (bits : UInt32) : Put Unit := uint32 bits

/-- Writes a double precision number by its bits. -/
def float64 (bits : UInt64) : Put Unit := uint64 bits

/-- Writes an identifier, one half after the other. -/
def uuid (id : Uuid) : Put Unit := do
  uint64 id.high
  uint64 id.low

/-- Writes the length of `bytes` in four bytes and then the bytes, as one piece. -/
def block (bytes : Bytes) : Put Unit := do
  reserve (4 + bytes.length)
  if bytes.length < 2 ^ (32 : Nat) then
    emit (BigEndian.encode 4 bytes.length)
    emit bytes
  else throw (.tooLarge bytes.length)

/-- Writes a text with its length in bytes. -/
def text (s : String) : Put Unit := block (Utf8.encode s)

/-- Writes the length -1, which marks an absent value. -/
def null : Put Unit := int32 (-1)

/-- Writes the union of flag sets. -/
def flags (sets : List UInt64) : Put Unit :=
  uint64 (sets.foldl (· ||| ·) 0)

/-- Hands out the bytes and closes the writer. -/
def finish : Put Bytes := do
  let w ← get
  if w.closed then throw .closed
  set { w with written := #[], closed := true }
  return w.toBytes

end Put

/-- The width of the number that announces a count of items. -/
inductive CountWidth where
  | two
  | four
  deriving DecidableEq, Repr

/-- Writes a count of items in the given width. -/
def Put.count (width : CountWidth) (n : Nat) : Put Unit :=
  match width with
  | .two => if n < 2 ^ (16 : Nat) then Put.uint16 (UInt16.ofNat n) else throw (.tooLarge n)
  | .four => if n < 2 ^ (32 : Nat) then Put.uint32 (UInt32.ofNat n) else throw (.tooLarge n)

namespace PutM

variable {ε : Type} [OfPacketError ε]

/-- Writes the number of items and then each item in order. -/
def counted {α : Type} (width : CountWidth) (items : List α) (item : α → PutM ε Unit) :
    PutM ε Unit := do
  Put.count width items.length
  items.forM item

/-- A count as a signed number of four bytes. -/
def signedCount (n : Nat) : PutM ε Unit :=
  if n < 2 ^ (31 : Nat) then (Put.int32 (Int32.ofNat n) : Put Unit)
  else throw (OfPacketError.ofPacketError (.tooLarge n))

/-- Reserves a slot of four bytes, runs `body`, and stores in the slot how many bytes `body`
appended. -/
def withLength (body : PutM ε Unit) : PutM ε Unit := do
  (Put.reserve 4 : Put Unit)
  let offset := (← get).size
  (Put.emit (BigEndian.encode 4 0) : Put Unit)
  body
  let length := (← get).size - offset - 4
  if length < 2 ^ (31 : Nat) then modify fun w => w.patch offset length
  else throw (OfPacketError.ofPacketError (.tooLarge length))

/-- The bytes that an action writes to a writer that grows without bound. -/
def bytes? (action : PutM ε Unit) : Except ε Bytes :=
  match action.run Writer.empty with
  | .ok _ w => .ok w.toBytes
  | .error e _ => .error e

end PutM

end GelClient.Packet
