import GelClient.BigEndian

/-!
# UTF-8

Text travels as UTF-8. Encoding a string is the concatenation of the encodings of its
characters. Decoding reports where the first malformed sequence starts and, when a byte is
wrong rather than missing, how long the well formed part of that sequence is.
-/

namespace GelClient.Utf8

/-- Why a list of bytes is not UTF-8. -/
inductive Error where
  /-- The sequence at `index` breaks off after `length` bytes with a byte that cannot follow. -/
  | invalid (length index : Nat)
  /-- The input ends inside the sequence that starts at `index`. -/
  | incomplete (index : Nat)
  deriving DecidableEq, Repr, Inhabited

/-- The text shown for a decoding failure. -/
def Error.message : Error → String
  | .invalid length index =>
    "invalid utf-8 sequence of " ++ toString length ++ " bytes from index " ++ toString index
  | .incomplete index => "incomplete utf-8 byte sequence from index " ++ toString index

/-- The bytes of a string. -/
def encode (text : String) : Bytes :=
  text.toList.flatMap String.utf8EncodeChar

/-- Whether a byte continues a sequence. -/
def isContinuation (b : UInt8) : Bool :=
  0x80 ≤ b && b ≤ 0xBF

/-- Whether `second` may follow the lead byte of a sequence of three bytes; overlong forms and
surrogates are excluded here. -/
def secondOfThree (lead second : UInt8) : Bool :=
  if lead == 0xE0 then 0xA0 ≤ second && second ≤ 0xBF
  else if lead == 0xED then 0x80 ≤ second && second ≤ 0x9F
  else isContinuation second

/-- Whether `second` may follow the lead byte of a sequence of four bytes; overlong forms and
numbers past the last code point are excluded here. -/
def secondOfFour (lead second : UInt8) : Bool :=
  if lead == 0xF0 then 0x90 ≤ second && second ≤ 0xBF
  else if lead == 0xF4 then 0x80 ≤ second && second ≤ 0x8F
  else isContinuation second

/-- The six bits that a continuation byte carries. -/
def continuationBits (b : UInt8) : Nat :=
  b.toNat % 64

/-- Decodes `bytes`, whose first byte has the given index, behind the characters already found,
last one first. -/
def decodeFrom (index : Nat) (found : List Char) : Bytes → Except Error (List Char)
  | [] => .ok found.reverse
  | b0 :: rest =>
    if b0 < 0x80 then
      decodeFrom (index + 1) (Char.ofNat b0.toNat :: found) rest
    else if 0xC2 ≤ b0 && b0 ≤ 0xDF then
      match rest with
      | [] => .error (.incomplete index)
      | b1 :: rest =>
        if !isContinuation b1 then .error (.invalid 1 index)
        else
          let c := Char.ofNat ((b0.toNat % 32) * 64 + continuationBits b1)
          decodeFrom (index + 2) (c :: found) rest
    else if 0xE0 ≤ b0 && b0 ≤ 0xEF then
      match rest with
      | [] => .error (.incomplete index)
      | b1 :: rest =>
        if !secondOfThree b0 b1 then .error (.invalid 1 index)
        else match rest with
        | [] => .error (.incomplete index)
        | b2 :: rest =>
          if !isContinuation b2 then .error (.invalid 2 index)
          else
            let c := Char.ofNat ((b0.toNat % 16) * 4096 + continuationBits b1 * 64
              + continuationBits b2)
            decodeFrom (index + 3) (c :: found) rest
    else if 0xF0 ≤ b0 && b0 ≤ 0xF4 then
      match rest with
      | [] => .error (.incomplete index)
      | b1 :: rest =>
        if !secondOfFour b0 b1 then .error (.invalid 1 index)
        else match rest with
        | [] => .error (.incomplete index)
        | b2 :: rest =>
          if !isContinuation b2 then .error (.invalid 2 index)
          else match rest with
          | [] => .error (.incomplete index)
          | b3 :: rest =>
            if !isContinuation b3 then .error (.invalid 3 index)
            else
              let c := Char.ofNat ((b0.toNat % 8) * 262144 + continuationBits b1 * 4096
                + continuationBits b2 * 64 + continuationBits b3)
              decodeFrom (index + 4) (c :: found) rest
    else .error (.invalid 1 index)

/-- The text that `bytes` encode, or where they stop being UTF-8. -/
def decode (bytes : Bytes) : Except Error String :=
  (decodeFrom 0 [] bytes).map String.ofList

/-- The number of bytes of a text on the wire. -/
def size (text : String) : Nat :=
  text.utf8ByteSize

/-- Whether a position in the bytes of a text lies between two characters. -/
def isBoundary (bytes : Bytes) (index : Nat) : Bool :=
  match bytes[index]? with
  | some b => !isContinuation b
  | none => index == bytes.length

/-- The part of a text between two positions in its bytes; none unless they are in order and lie
between characters. -/
def slice? (text : String) (start stop : Nat) : Option String :=
  let bytes := encode text
  if start ≤ stop && isBoundary bytes start && isBoundary bytes stop then
    (decode ((bytes.drop start).take (stop - start))).toOption
  else none

/-- The empty text has no bytes. -/
@[simp]
theorem encode_empty : encode "" = [] := by
  simp [encode]

/-- No bytes are the empty text. -/
@[simp]
theorem decode_nil : decode [] = .ok "" := rfl

/-- A concatenation of texts is encoded piece by piece. -/
@[simp]
theorem encode_append (s t : String) : encode (s ++ t) = encode s ++ encode t := by
  simp [encode]

end GelClient.Utf8
