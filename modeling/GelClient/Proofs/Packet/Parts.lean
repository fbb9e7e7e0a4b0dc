import GelClient.Proofs.Packet.Convey
import Mathlib.Algebra.Group.Nat.Defs

/-!
# What packets are made of

A packet is written by a sequence of operations: single values, items behind their number, and blocks behind
their length, whose contents are written by operations again. `Datum` lists the values, `Part` the operations,
as trees of any depth, and `Part.write` does what they say. What holds of every part is proved by
`Part.induction`, with one case for each way to put parts together.
-/

namespace GelClient.Packet

open PutM (IsUniform isUniform_pure isUniform_throw isUniform_raw isUniform_reserve isUniform_emit)

/-- A value that is written by one operation. -/
inductive Datum where
  | uint8 (n : UInt8)
  | uint16 (n : UInt16)
  | uint32 (n : UInt32)
  | uint64 (n : UInt64)
  | int8 (n : Int8)
  | int16 (n : Int16)
  | int32 (n : Int32)
  | int64 (n : Int64)
  | bool (b : Bool)
  | float32 (bits : UInt32)
  | float64 (bits : UInt64)
  | uuid (id : Uuid)
  | flags (sets : List UInt64)
  /-- Bytes without their length. -/
  | raw (bytes : Bytes)
  /-- Bytes behind their length. -/
  | block (bytes : Bytes)
  /-- Bytes behind their length that may be absent. -/
  | optional (bytes : Option Bytes)
  | text (s : String)
  | texts (items : List String)
  | annotations (items : List (String × String))
  | attributes (items : List (UInt16 × Bytes))
  deriving DecidableEq

/-- Writes a value. -/
def Datum.write : Datum → Put Unit
  | uint8 n => Put.uint8 n
  | uint16 n => Put.uint16 n
  | uint32 n => Put.uint32 n
  | uint64 n => Put.uint64 n
  | int8 n => Put.int8 n
  | int16 n => Put.int16 n
  | int32 n => Put.int32 n
  | int64 n => Put.int64 n
  | bool b => Put.bool b
  | float32 bits => Put.float32 bits
  | float64 bits => Put.float64 bits
  | uuid id => Put.uuid id
  | flags sets => Put.flags sets
  | raw bytes => Put.raw bytes
  | block bytes => Put.block bytes
  | optional (some bytes) => Put.block bytes
  | optional none => Put.null
  | text s => Put.text s
  | texts items => Put.texts items
  | annotations items => Put.annotations items
  | attributes items => Put.attributes items

/-- An operation on a writer, with those that it is made of. -/
inductive Part where
  | datum (d : Datum)
  /-- Parts one after the other. -/
  | several (parts : List Part)
  /-- Items behind their number. -/
  | counted (width : CountWidth) (items : List Part)
  /-- Parts behind the number of bytes that they take. -/
  | block (parts : List Part)

namespace Part

/-- A property of parts that passes from the parts inside of each one to itself holds of all. -/
@[induction_eliminator]
theorem induction {P : Part → Prop} (datum : ∀ d, P (.datum d))
    (several : ∀ parts, (∀ p ∈ parts, P p) → P (.several parts))
    (counted : ∀ width items, (∀ p ∈ items, P p) → P (.counted width items))
    (block : ∀ parts, (∀ p ∈ parts, P p) → P (.block parts)) (p : Part) : P p :=
  @Part.rec P (fun parts => ∀ p ∈ parts, P p) datum several counted block (by simp)
    (fun _ _ h hs => List.forall_mem_cons.mpr ⟨h, hs⟩) p

mutual

/-- Writes a part. -/
def write : Part → Put Unit
  | datum d => d.write
  | several parts => writeAll parts
  | counted width items => do
    Put.count width items.length
    writeAll items
  | block parts => PutM.withLength (writeAll parts)

/-- Writes parts one after the other. -/
def writeAll : List Part → Put Unit
  | [] => pure ()
  | p :: parts => do
    write p
    writeAll parts

end

/-- Parts are written one after the other. -/
theorem writeAll_eq_forM (parts : List Part) : writeAll parts = parts.forM write := by
  induction parts with
  | nil => rw [writeAll, List.forM]
  | cons p parts ih => rw [writeAll, List.forM, ih]

end Part

/-- The counts that a width can hold are those below its limit. -/
def CountWidth.limit : CountWidth → Nat
  | two => 2 ^ 16
  | four => 2 ^ 32

namespace Put

/-- Counts are written uniformly, also those that do not fit. -/
theorem isUniform_count (width : CountWidth) (n : Nat) : IsUniform (count width n) := by
  cases width with
  | two | four =>
    rw [count]
    split
    · exact isUniform_raw _
    · exact isUniform_throw _

/-- Bytes behind their length are written uniformly, also when they are too many. -/
theorem isUniform_block (bytes : Bytes) : IsUniform (block bytes) := by
  apply (isUniform_reserve _).bind
  intro _
  split
  · exact (isUniform_emit _).bind fun _ => isUniform_emit _
  · exact isUniform_throw _

end Put

/-- Items behind their number are written after it, one by one. -/
theorem Put.counted_eq {α : Type} (width : CountWidth) (items : List α) (item : α → Put Unit) :
    (PutM.counted width items item : Put Unit) =
      (do Put.count width items.length; items.forM item) := by
  funext w
  simp only [PutM.counted, Bind.bind, EStateM.bind, PutM.liftM_apply]
  cases Put.count width items.length w <;> rfl

/-- Items behind their number are written uniformly if each of them is. -/
theorem Put.isUniform_counted {α : Type} (width : CountWidth) {items : List α} {item : α → Put Unit}
    (h : ∀ a ∈ items, IsUniform (item a)) : IsUniform (PutM.counted width items item : Put Unit) := by
  rw [counted_eq]
  exact (isUniform_count width _).bind fun _ => PutM.isUniform_forM items h

/-- A value is written uniformly. -/
theorem Datum.isUniform_write (d : Datum) : IsUniform d.write := by
  cases d with
  | uuid id => exact (isUniform_raw _).bind fun _ => isUniform_raw _
  | block bytes => exact Put.isUniform_block bytes
  | optional bytes =>
    cases bytes with
    | none => exact isUniform_raw _
    | some bytes => exact Put.isUniform_block bytes
  | text s => exact Put.isUniform_block _
  | texts items => exact Put.isUniform_counted .four fun s _ => Put.isUniform_block _
  | annotations items =>
    exact Put.isUniform_counted .two fun a _ => (Put.isUniform_block _).bind fun _ => Put.isUniform_block _
  | attributes items =>
    exact Put.isUniform_counted .two fun a _ => (isUniform_raw _).bind fun _ => Put.isUniform_block _
  | _ => exact isUniform_raw _

namespace Part

/-- Items behind their number are written as a counted list. -/
theorem write_counted (width : CountWidth) (items : List Part) :
    (counted width items).write = PutM.counted width items write := by
  rw [write, Put.counted_eq, writeAll_eq_forM]

/-- Parts are written uniformly if each of them is. -/
theorem isUniform_writeAll_of_forall {parts : List Part} (h : ∀ p ∈ parts, IsUniform p.write) :
    IsUniform (writeAll parts) := by
  rw [writeAll_eq_forM]
  exact PutM.isUniform_forM parts h

/-- Every part is written uniformly. -/
theorem isUniform_write (p : Part) : IsUniform p.write := by
  induction p with
  | datum d =>
    rw [write]
    exact d.isUniform_write
  | several parts ih =>
    rw [write]
    exact isUniform_writeAll_of_forall ih
  | counted width items ih =>
    rw [write_counted]
    exact Put.isUniform_counted width ih
  | block parts ih =>
    rw [write]
    exact PutM.isUniform_withLength (isUniform_writeAll_of_forall ih)

/-- Parts are written uniformly, one after the other. -/
theorem isUniform_writeAll (parts : List Part) : IsUniform (writeAll parts) :=
  isUniform_writeAll_of_forall fun p _ => p.isUniform_write

end Part

end GelClient.Packet
