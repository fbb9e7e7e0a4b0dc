import GelClient.BigEndian

/-!
# Type identifiers

Types of the server's schema are named by 128 bit identifiers. They travel as two 64 bit
halves and are shown as 32 lower case hexadecimal digits in five groups.
-/

namespace GelClient

/-- A 128 bit identifier, as its high and its low half. -/
structure Uuid where
  high : UInt64
  low : UInt64
  deriving DecidableEq, Repr, Inhabited, Hashable

namespace Uuid

/-- The identifier of all zero bits, which stands for no type at all. -/
def nil : Uuid := ⟨0, 0⟩

/-- The identifier whose 128 bits are the low bits of `n`. -/
def ofNat (n : Nat) : Uuid :=
  ⟨UInt64.ofNat (n / 2 ^ (64 : Nat)), UInt64.ofNat n⟩

/-- The 128 bits of an identifier as a number. -/
def toNat (id : Uuid) : Nat :=
  id.high.toNat * 2 ^ (64 : Nat) + id.low.toNat

/-- The sixteen bytes of an identifier. -/
def toBytes (id : Uuid) : Bytes :=
  BigEndian.encode 8 id.high.toNat ++ BigEndian.encode 8 id.low.toNat

/-- The lower case hexadecimal digit of a number below sixteen. -/
def hexDigit (n : Nat) : Char :=
  if n < 10 then Char.ofNat ('0'.toNat + n) else Char.ofNat ('a'.toNat + (n - 10))

/-- The two hexadecimal digits of a byte. -/
def hexByte (b : UInt8) : List Char :=
  [hexDigit (b.toNat / 16), hexDigit (b.toNat % 16)]

/-- The hexadecimal digits of `bytes`. -/
def hexText (bytes : Bytes) : String :=
  String.ofList (bytes.flatMap hexByte)

/-- The text of an identifier: digits in groups of 8, 4, 4, 4 and 12. -/
def toText (id : Uuid) : String :=
  let bytes := id.toBytes
  let group (start count : Nat) := hexText ((bytes.drop start).take count)
  "-".intercalate [group 0 4, group 4 2, group 6 2, group 8 2, group 10 6]

instance : ToString Uuid := ⟨toText⟩

/-- An identifier has sixteen bytes. -/
@[simp]
theorem length_toBytes (id : Uuid) : id.toBytes.length = 16 := by
  simp [toBytes]

/-- The nil identifier is the number zero. -/
@[simp]
theorem toNat_nil : nil.toNat = 0 := rfl

end Uuid

end GelClient
