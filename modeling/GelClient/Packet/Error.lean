import GelClient.Utf8

/-!
# Packet errors

What can go wrong between a value and the bytes of a packet. A layer above the packets embeds
these causes in its own errors through `OfPacketError`.
-/

namespace GelClient.Packet

/-- A failure to write to or to read from a packet. -/
inductive Error where
  /-- A writer of fixed capacity has no room for `needed` more bytes. -/
  | overflow (capacity needed : Nat)
  /-- The writer was finished before. -/
  | closed
  /-- The packet ends before `needed` bytes; `remaining` are left. -/
  | underflow (needed remaining : Nat)
  /-- A length does not fit the field that announces it. -/
  | tooLarge (length : Nat)
  /-- A length is negative where a value is required. -/
  | negativeLength (length : Int32)
  /-- A text field is not UTF-8. -/
  | notUtf8 (cause : Utf8.Error)
  deriving DecidableEq, Repr, Inhabited

/-- The short name of a kind of packet error. -/
def Error.label : Error → String
  | .overflow .. => "Overflow"
  | .closed => "Closed"
  | .underflow .. => "Underflow"
  | .tooLarge _ => "TooLarge"
  | .negativeLength _ => "NegativeLength"
  | .notUtf8 _ => "Utf8"

/-- The text shown for a packet error. -/
def Error.message : Error → String
  | .overflow capacity needed =>
    "fixed buffer of " ++ toString capacity ++ " bytes cannot fit " ++ toString needed
      ++ " more bytes"
  | .closed => "writer already finished"
  | .underflow needed remaining =>
    "buffer underflow, needed " ++ toString needed ++ " bytes but only " ++ toString remaining
      ++ " remaining"
  | .tooLarge length => "length " ++ toString length ++ " too large for protocol"
  | .negativeLength length => "unexpected negative length " ++ toString length.toInt
  | .notUtf8 cause => "invalid utf8 string: " ++ cause.message

/-- An error type with a case for the packet errors below it. -/
class OfPacketError (ε : Type) where
  ofPacketError : Error → ε

instance : OfPacketError Error := ⟨id⟩

end GelClient.Packet
