/-!
# Bytes and big-endian numbers

A packet is a list of bytes, and every number in it stands in network order, most
significant byte first. `BigEndian.encode` writes a natural number in a given number of
bytes, keeping its low bits, and `BigEndian.decode` reads the number that a list of bytes
denotes. The main statement is that decoding an encoding gives the number back modulo the
width.
-/

namespace GelClient

-- Powers and zeros are the built-in ones, also where structures of algebra are at hand. An exponent that is a
-- literal has to be given its type for this.
attribute [scoped instance(2000)] instPowNat Zero.ofOfNat0

/-- The bytes of a packet, a payload or a text, first byte first. -/
abbrev Bytes := List UInt8

namespace BigEndian

/-- The low `width` bytes of `n`, most significant first. -/
def encode : (width : Nat) → (n : Nat) → Bytes
  | 0, _ => []
  | width + 1, n => encode width (n / 256) ++ [UInt8.ofNat n]

/-- The number whose digits in base 256 are `bytes`, most significant first. -/
def decode (bytes : Bytes) : Nat :=
  bytes.foldl (fun acc b => acc * 256 + b.toNat) 0

/-- An encoding has the width asked for. -/
@[simp]
theorem length_encode (width n : Nat) : (encode width n).length = width := by
  induction width generalizing n with
  | zero => rfl
  | succ width ih => simp [encode, ih]

/-- The last byte is the least significant digit. -/
theorem decode_append_singleton (bytes : Bytes) (b : UInt8) :
    decode (bytes ++ [b]) = decode bytes * 256 + b.toNat := by
  simp [decode]

/-- Reading an encoding gives the number modulo its width. -/
theorem decode_encode (width n : Nat) : decode (encode width n) = n % 256 ^ width := by
  induction width generalizing n with
  | zero => simp [encode, decode, Nat.mod_one]
  | succ width ih =>
    rw [encode, decode_append_singleton, ih, Nat.pow_succ, Nat.mul_comm (256 ^ width) 256,
      Nat.mod_mul]
    simp [Nat.mul_comm, Nat.add_comm]

/-- A number that fits its width is read back unchanged. -/
theorem decode_encode_of_lt {width n : Nat} (h : n < 256 ^ width) :
    decode (encode width n) = n := by
  rw [decode_encode, Nat.mod_eq_of_lt h]

/-- A count below the limit of a signed number has the same bits without a sign. -/
theorem toNat_toUInt32_ofNat {n : Nat} (h : n < 2 ^ (31 : Nat)) : (Int32.ofNat n).toUInt32.toNat = n := by
  change (UInt32.ofNat n).toNat = n
  rw [UInt32.toNat_ofNat']
  exact Nat.mod_eq_of_lt (by omega)

end BigEndian

end GelClient
