import GelClient.Packet.Error
import GelClient.Uuid

/-!
# Reading packets

A `Reader` holds what is left of a packet and how much of it was consumed. A `GetM` action
runs on a reader and keeps its position after a failure. A primitive that asks for more bytes
than are left consumes none of them; an action made of several primitives keeps what the
earlier ones consumed.
-/

namespace GelClient.Packet

/-- The unread bytes of a packet and the number of bytes already consumed. -/
structure Reader where
  rest : Bytes := []
  consumed : Nat := 0
  deriving DecidableEq, Repr

namespace Reader

/-- A reader at the start of `bytes`. -/
def ofBytes (bytes : Bytes) : Reader := { rest := bytes }

/-- The number of unread bytes. -/
def remaining (r : Reader) : Nat := r.rest.length

/-- The size of the whole packet. -/
def size (r : Reader) : Nat := r.consumed + r.remaining

/-- Whether every byte was consumed. -/
def isEmpty (r : Reader) : Bool := r.rest.isEmpty

end Reader

/-- An action on a reader that can fail, keeping the position reached before the failure. -/
abbrev GetM (ε : Type) := EStateM ε Reader

/-- A reading action that fails with packet errors only. -/
abbrev Get := GetM Error

instance {ε : Type} [OfPacketError ε] : MonadLift Get (GetM ε) where
  monadLift x := x.adaptExcept OfPacketError.ofPacketError

namespace GetM

variable {ε α : Type}

/-- Runs an action on a reader of its own; the reader at hand stays where it is. -/
def onReader (own : Reader) (action : GetM ε α) : GetM ε α := fun r =>
  match action own with
  | .ok a _ => .ok a r
  | .error e _ => .error e r

/-- Runs `item` the given number of times, behind the results already found, last one first. -/
def collect (item : GetM ε α) : (count : Nat) → (found : List α) → GetM ε (List α)
  | 0, found => pure found.reverse
  | count + 1, found => do
    let a ← item
    collect item count (a :: found)

/-- Runs `item` the given number of times and lists the results. -/
def times (count : Nat) (item : GetM ε α) : GetM ε (List α) :=
  collect item count []

/-- The result of an action on the whole of `bytes`, whatever it leaves unread. -/
def runOn (bytes : Bytes) (action : GetM ε α) : Except ε α :=
  match action (Reader.ofBytes bytes) with
  | .ok a _ => .ok a
  | .error e _ => .error e

end GetM

namespace Get

/-- Takes `n` bytes. -/
def raw (n : Nat) : Get Bytes := fun r =>
  let (taken, rest) := r.rest.splitAt n
  if taken.length < n then .error (.underflow n r.remaining) r
  else .ok taken { rest, consumed := r.consumed + n }

/-- Takes everything that is left. -/
def rest : Get Bytes := fun r =>
  .ok r.rest { rest := [], consumed := r.size }

/-- Passes over `n` bytes. -/
def skip (n : Nat) : Get Unit := do
  let _ ← raw n

/-- Reads an unsigned number of `width` bytes. -/
def number (width : Nat) : Get Nat :=
  return BigEndian.decode (← raw width)

/-- Reads one byte. -/
def uint8 : Get UInt8 := return UInt8.ofNat (← number 1)

/-- Reads an unsigned number of two bytes. -/
def uint16 : Get UInt16 := return UInt16.ofNat (← number 2)

/-- Reads an unsigned number of four bytes. -/
def uint32 : Get UInt32 := return UInt32.ofNat (← number 4)

/-- Reads an unsigned number of eight bytes. -/
def uint64 : Get UInt64 := return UInt64.ofNat (← number 8)

/-- Reads a signed number of one byte. -/
def int8 : Get Int8 := return (← uint8).toInt8

/-- Reads a signed number of two bytes. -/
def int16 : Get Int16 := return (← uint16).toInt16

/-- Reads a signed number of four bytes. -/
def int32 : Get Int32 := return (← uint32).toInt32

/-- Reads a signed number of eight bytes. -/
def int64 : Get Int64 := return (← uint64).toInt64

/-- Reads one byte; every byte but zero is true. -/
def bool : Get Bool := return (← uint8) != 0

/-- Reads the bits of a single precision number. -/
def float32 : Get UInt32 := uint32

/-- Reads the bits of a double precision number. -/
def float64 : Get UInt64 := uint64

/-- Reads an identifier, one half after the other. -/
def uuid : Get Uuid := do
  let high ← uint64
  let low ← uint64
  return ⟨high, low⟩

/-- Reads a length of four bytes and then as many bytes; a negative length is an absent value. -/
def block? : Get (Option Bytes) := do
  let length ← int32
  if length < 0 then return none
  return some (← raw length.toNatClampNeg)

/-- Reads a length of four bytes and then as many bytes, which must be present. -/
def block : Get Bytes := do
  let length ← int32
  if length < 0 then throw (.negativeLength length)
  raw length.toNatClampNeg

/-- The text of some bytes already read. -/
def utf8 (bytes : Bytes) : Get String :=
  match Utf8.decode bytes with
  | .ok s => pure s
  | .error cause => throw (.notUtf8 cause)

/-- Reads a text with its length in bytes. -/
def text : Get String := do
  utf8 (← block)

/-- Splits off a reader for the next `n` bytes. -/
def window (n : Nat) : Get Reader := return Reader.ofBytes (← raw n)

/-- Splits off a reader for a value with its length; none for an absent value. -/
def window? : Get (Option Reader) := return (← block?).map Reader.ofBytes

/-- Reads a count of two bytes and that many pairs of texts. -/
def annotations : Get (List (String × String)) := do
  let count ← uint16
  GetM.times count.toNat do
    let name ← text
    let value ← text
    return (name, value)

/-- Reads a count of two bytes and that many values keyed by numbers of two bytes. -/
def attributes : Get (List (UInt16 × Bytes)) := do
  let count ← uint16
  GetM.times count.toNat do
    let key ← uint16
    let value ← block
    return (key, value)

/-- Reads a count of four bytes and that many texts. -/
def texts : Get (List String) := do
  let count ← uint32
  GetM.times count.toNat text

end Get

end GelClient.Packet
