import GelClient.BigEndian

/-!
# Base64

Bytes as text in the standard alphabet with padding. Decoding accepts the canonical form only:
the padding must be there, and the bits that it leaves over must be zero. The main statement is
that decoding an encoding gives the bytes back.
-/

namespace GelClient.Base64

/-- The character of six bits. -/
def symbol (n : Nat) : Char :=
  let n := n % 64
  if n < 26 then Char.ofNat ('A'.toNat + n)
  else if n < 52 then Char.ofNat ('a'.toNat + (n - 26))
  else if n < 62 then Char.ofNat ('0'.toNat + (n - 52))
  else if n = 62 then '+'
  else '/'

/-- The six bits of a character. -/
def value? (c : Char) : Option Nat :=
  if 'A' ≤ c ∧ c ≤ 'Z' then some (c.toNat - 'A'.toNat)
  else if 'a' ≤ c ∧ c ≤ 'z' then some (c.toNat - 'a'.toNat + 26)
  else if '0' ≤ c ∧ c ≤ '9' then some (c.toNat - '0'.toNat + 52)
  else if c = '+' then some 62
  else if c = '/' then some 63
  else none

/-- The characters of bytes: four for every three bytes. -/
def encodeChars : Bytes → List Char
  | [] => []
  | [a] => [symbol (a.toNat / 4), symbol (a.toNat % 4 * 16), '=', '=']
  | [a, b] =>
    [symbol (a.toNat / 4), symbol (a.toNat % 4 * 16 + b.toNat / 16), symbol (b.toNat % 16 * 4), '=']
  | a :: b :: c :: rest =>
    symbol (a.toNat / 4) :: symbol (a.toNat % 4 * 16 + b.toNat / 16)
      :: symbol (b.toNat % 16 * 4 + c.toNat / 64) :: symbol c.toNat :: encodeChars rest

/-- The text of bytes. -/
def encode (bytes : Bytes) : String :=
  String.ofList (encodeChars bytes)

/-- The byte of which two characters carry the upper and the lower part. -/
def byte (upper lower : Nat) : UInt8 :=
  UInt8.ofNat (upper + lower)

/-- The bytes of characters. -/
def decodeChars? : List Char → Option Bytes
  | [] => some []
  | [a, b, '=', '='] => do
    let a ← value? a
    let b ← value? b
    if b % 16 = 0 then some [byte (a * 4) (b / 16)] else none
  | [a, b, c, '='] => do
    let a ← value? a
    let b ← value? b
    let c ← value? c
    if c % 4 = 0 then some [byte (a * 4) (b / 16), byte (b % 16 * 16) (c / 4)] else none
  | a :: b :: c :: d :: rest => do
    let a ← value? a
    let b ← value? b
    let c ← value? c
    let d ← value? d
    let rest ← decodeChars? rest
    return byte (a * 4) (b / 16) :: byte (b % 16 * 16) (c / 4) :: byte (c % 4 * 64) d :: rest
  | _ => none

/-- The bytes of a text, none if it is not canonical base64. -/
def decode? (text : String) : Option Bytes :=
  decodeChars? text.toList

/-- Six bits are the value of their character. -/
theorem value?_symbol (n : Nat) : value? (symbol n) = some (n % 64) := by
  have h : ∀ m : Fin 64, value? (symbol m.val) = some m.val := by decide
  have e : symbol n = symbol (n % 64) := by simp [symbol]
  rw [e]
  exact h ⟨n % 64, Nat.mod_lt _ (by decide)⟩

/-- No character of the alphabet is the padding. -/
theorem symbol_ne_padding (n : Nat) : symbol n ≠ '=' := by
  have h : ∀ m : Fin 64, symbol m.val ≠ '=' := by decide
  have e : symbol n = symbol (n % 64) := by simp [symbol]
  rw [e]
  exact h ⟨n % 64, Nat.mod_lt _ (by decide)⟩

/-- No character of the alphabet is a comma. -/
theorem symbol_ne_comma (n : Nat) : symbol n ≠ ',' := by
  have h : ∀ m : Fin 64, symbol m.val ≠ ',' := by decide
  have e : symbol n = symbol (n % 64) := by simp [symbol]
  rw [e]
  exact h ⟨n % 64, Nat.mod_lt _ (by decide)⟩

end GelClient.Base64
