import GelClient.Crypto.Sha256

/-!
# HMAC and PBKDF2

Keyed hashes with SHA-256 (HMAC), and the derivation of a key of 32 bytes from a password by
repeated keyed hashing (PBKDF2). The blocks that a key makes are hashed once per key.
-/

namespace GelClient

/-- Bytes combined one by one by exclusive or. -/
def xorBytes (a b : Bytes) : Bytes :=
  List.zipWith (· ^^^ ·) a b

/-- Combining with the same bytes once more undoes it. -/
theorem xorBytes_xorBytes {a b : Bytes} (h : a.length = b.length) : xorBytes (xorBytes a b) b = a := by
  induction a generalizing b with
  | nil => simp [xorBytes]
  | cons x a ih =>
    cases b with
    | nil => simp at h
    | cons y b =>
      have hrest := ih (Nat.succ.inj h)
      simp only [xorBytes, List.zipWith_cons_cons] at hrest ⊢
      rw [hrest, UInt8.xor_assoc, UInt8.xor_self, UInt8.xor_zero]

namespace Hmac

/-- A key, as the states of the inner and of the outer hash behind their first block. -/
structure Key where
  inner : Sha256.State
  outer : Sha256.State

/-- The bytes of a key padded to a block; a longer key is hashed first. -/
def block (key : Bytes) : Bytes :=
  let key := if 64 < key.length then Sha256.hash key else key
  key ++ List.replicate (64 - key.length) 0

/-- The key with the given bytes. -/
def Key.ofBytes (key : Bytes) : Key :=
  let masked (mask : UInt8) := Sha256.State.start.compress ((block key).map (· ^^^ mask))
  { inner := masked 0x36, outer := masked 0x5C }

/-- The keyed hash of a message. -/
def Key.sign (key : Key) (message : Bytes) : Bytes :=
  key.outer.finish 64 (key.inner.finish 64 message)

/-- The keyed hash of a message. -/
def sha256 (key message : Bytes) : Bytes :=
  (Key.ofBytes key).sign message

/-- A keyed hash has 32 bytes. -/
@[simp]
theorem length_sha256 (key message : Bytes) : (sha256 key message).length = 32 := by
  simp [sha256, Key.sign, Sha256.State.finish]

end Hmac

namespace Pbkdf2

/-- The exclusive or of `sum` and the next `count` links of a chain of keyed hashes. -/
def chain (key : Hmac.Key) : (count : Nat) → (link sum : Bytes) → Bytes
  | 0, _, sum => sum
  | count + 1, link, sum =>
    let link := key.sign link
    chain key count link (xorBytes sum link)

/-- The key that a password, a salt and a positive number of iterations give. -/
def sha256 (password salt : Bytes) (iterations : Nat) : Bytes :=
  let key := Hmac.Key.ofBytes password
  let first := key.sign (salt ++ BigEndian.encode 4 1)
  chain key (iterations - 1) first first

end Pbkdf2

end GelClient
