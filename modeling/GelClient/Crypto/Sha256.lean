import GelClient.BigEndian

/-!
# SHA-256

The hash function SHA-256. A message is padded to whole blocks of 64 bytes, and each block
changes a state of eight words through 64 rounds. `State.finish` continues from a state that has
already taken some blocks, so that a common beginning of many messages is processed once.
-/

namespace GelClient.Sha256

/-- The eight words that the blocks of a message change. -/
structure State where
  a : UInt32
  b : UInt32
  c : UInt32
  d : UInt32
  e : UInt32
  f : UInt32
  g : UInt32
  h : UInt32
  deriving DecidableEq, Repr

/-- The state before the first block: the fractional parts of the square roots of the first eight
primes. -/
def State.start : State :=
  ⟨0x6a09e667, 0xbb67ae85, 0x3c6ef372, 0xa54ff53a, 0x510e527f, 0x9b05688c, 0x1f83d9ab, 0x5be0cd19⟩

/-- The constants of the rounds: the fractional parts of the cube roots of the first 64 primes. -/
def roundConstants : List UInt32 :=
  [0x428a2f98, 0x71374491, 0xb5c0fbcf, 0xe9b5dba5, 0x3956c25b, 0x59f111f1, 0x923f82a4, 0xab1c5ed5,
    0xd807aa98, 0x12835b01, 0x243185be, 0x550c7dc3, 0x72be5d74, 0x80deb1fe, 0x9bdc06a7, 0xc19bf174,
    0xe49b69c1, 0xefbe4786, 0x0fc19dc6, 0x240ca1cc, 0x2de92c6f, 0x4a7484aa, 0x5cb0a9dc, 0x76f988da,
    0x983e5152, 0xa831c66d, 0xb00327c8, 0xbf597fc7, 0xc6e00bf3, 0xd5a79147, 0x06ca6351, 0x14292967,
    0x27b70a85, 0x2e1b2138, 0x4d2c6dfc, 0x53380d13, 0x650a7354, 0x766a0abb, 0x81c2c92e, 0x92722c85,
    0xa2bfe8a1, 0xa81a664b, 0xc24b8b70, 0xc76c51a3, 0xd192e819, 0xd6990624, 0xf40e3585, 0x106aa070,
    0x19a4c116, 0x1e376c08, 0x2748774c, 0x34b0bcb5, 0x391c0cb3, 0x4ed8aa4a, 0x5b9cca4f, 0x682e6ff3,
    0x748f82ee, 0x78a5636f, 0x84c87814, 0x8cc70208, 0x90befffa, 0xa4506ceb, 0xbef9a3f7, 0xc67178f2]

/-- The bits of a word rotated to the right. -/
def rotateRight (x : UInt32) (n : UInt32) : UInt32 :=
  (x >>> n) ||| (x <<< (32 - n))

/-- The big-endian words of a block. -/
def words : Bytes → List UInt32
  | b0 :: b1 :: b2 :: b3 :: rest =>
    ((b0.toUInt32 <<< 24) ||| (b1.toUInt32 <<< 16) ||| (b2.toUInt32 <<< 8) ||| b3.toUInt32)
      :: words rest
  | _ => []

/-- A schedule of at least 16 words with its next word. -/
def extend (w : Array UInt32) : Array UInt32 :=
  let at' (back : Nat) := w.getD (w.size - back) 0
  let s0 := rotateRight (at' 15) 7 ^^^ rotateRight (at' 15) 18 ^^^ (at' 15 >>> 3)
  let s1 := rotateRight (at' 2) 17 ^^^ rotateRight (at' 2) 19 ^^^ (at' 2 >>> 10)
  w.push (at' 16 + s0 + at' 7 + s1)

/-- The words of the 64 rounds of a block. -/
def schedule (block : Bytes) : Array UInt32 :=
  Nat.repeat extend 48 (words block).toArray

/-- One round, with the sum of its constant and its word. -/
def State.round (s : State) (kw : UInt32) : State :=
  let s1 := rotateRight s.e 6 ^^^ rotateRight s.e 11 ^^^ rotateRight s.e 25
  let choice := (s.e &&& s.f) ^^^ (~~~s.e &&& s.g)
  let t1 := s.h + s1 + choice + kw
  let s0 := rotateRight s.a 2 ^^^ rotateRight s.a 13 ^^^ rotateRight s.a 22
  let majority := (s.a &&& s.b) ^^^ (s.a &&& s.c) ^^^ (s.b &&& s.c)
  { a := t1 + s0 + majority, b := s.a, c := s.b, d := s.c
    e := s.d + t1, f := s.e, g := s.f, h := s.g }

/-- The rounds of a block from the given index of its schedule on. -/
def State.rounds (w : Array UInt32) (s : State) (index : Nat) : List UInt32 → State
  | [] => s
  | k :: ks => State.rounds w (s.round (k + w.getD index 0)) (index + 1) ks

/-- The state after a block of 64 bytes. -/
def State.compress (s : State) (block : Bytes) : State :=
  let t := State.rounds (schedule block) s 0 roundConstants
  { a := s.a + t.a, b := s.b + t.b, c := s.c + t.c, d := s.d + t.d
    e := s.e + t.e, f := s.f + t.f, g := s.g + t.g, h := s.h + t.h }

/-- The state after whole blocks. -/
def State.compressAll (s : State) (message : Bytes) : State :=
  if _h : message.length < 64 then s
  else State.compressAll (s.compress (message.take 64)) (message.drop 64)
termination_by message.length

/-- What follows a message of the given length up to a whole number of blocks: one bit, zeros and
the length in bits. -/
def padding (length : Nat) : Bytes :=
  0x80 :: List.replicate ((119 - length % 64) % 64) 0 ++ BigEndian.encode 8 (length * 8)

/-- The bytes of a state. -/
def State.toBytes (s : State) : Bytes :=
  [s.a, s.b, s.c, s.d, s.e, s.f, s.g, s.h].flatMap fun w => BigEndian.encode 4 w.toNat

/-- The hash of a message whose first `taken` bytes, whole blocks, led to this state. -/
def State.finish (s : State) (taken : Nat) (rest : Bytes) : Bytes :=
  (s.compressAll (rest ++ padding (taken + rest.length))).toBytes

/-- The hash of a message. -/
def hash (message : Bytes) : Bytes :=
  State.start.finish 0 message

/-- A hash has 32 bytes. -/
@[simp]
theorem length_toBytes (s : State) : s.toBytes.length = 32 := by
  simp [State.toBytes]

/-- A hash has 32 bytes. -/
@[simp]
theorem length_hash (message : Bytes) : (hash message).length = 32 := by
  simp [hash, State.finish]

end GelClient.Sha256
