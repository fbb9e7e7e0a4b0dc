import GelClient.Codec.Error
import GelClient.Connection.Config
import GelClient.Connection.Error
import GelClient.Protocol.DatabaseError
import GelClient.Scram.Error

/-!
# Failures

Everything that can go wrong, by its cause, and a failure as it is reported: its cause and what
was done when it arose. Server errors and connection errors say whether the operation may
succeed when it is run again and whether it needs a new connection for that; no other failure is
worth another attempt.
-/

namespace GelClient

/-- The cause of a failure. -/
inductive Cause where
  | config (e : ConfigError)
  | packet (e : Packet.Error)
  | codec (e : CodecError)
  | protocol (e : ProtocolError)
  | io (e : IoError)
  | database (e : DatabaseError)
  | scram (e : ScramError)
  | connection (e : ConnectionError)
  /-- A transaction was given up after a number of attempts. -/
  | exhausted (attempts : Nat) (last : Cause)
  /-- The program stops: a message to the server has not the size that it is announced with. -/
  | misannounced
  deriving DecidableEq

instance : Inhabited Cause := ⟨.connection .closed⟩

namespace Cause

/-- The short name of a kind of cause. -/
def label : Cause → String
  | config e => "Config." ++ e.label
  | packet e => "Binary." ++ e.label
  | codec e => "Codec." ++ e.label
  | protocol e => "Protocol." ++ e.label
  | io _ => "Io"
  | database _ => "Database"
  | scram e => "Scram." ++ e.label
  | connection e => "Connection." ++ e.label
  | exhausted .. => "Transaction.Exhausted"
  | misannounced => "Panic"

/-- The text shown for a cause, if that of a server error can be laid out. -/
def message : Cause → Except LayoutFault String
  | config e => .ok e.message
  | packet e => .ok e.message
  | codec e => .ok e.message
  | protocol e => .ok e.message
  | io e => .ok e.message
  | database e => e.display
  | scram e => .ok e.message
  | connection e => .ok e.message
  | exhausted attempts last => do
    return "Transaction failed after " ++ toString attempts ++ " attempt(s): " ++ (← last.message)
  | misannounced => .ok "Client message body size not equal to size hint"

/-- Whether the operation may succeed when it is run again. -/
def isRetryable : Cause → Bool
  | database e => e.isRetryable
  | connection e => e.isRetryable
  | _ => false

/-- Whether the connection must be replaced before the operation is run again. -/
def reconnectRequired : Cause → Bool
  | database e => e.reconnectRequired
  | connection e => e.reconnectRequired
  | _ => false

/-- The code of a server error. -/
def code? : Cause → Option ErrorCode
  | database e => some e.code
  | _ => none

/-- Whether the cause leaves the messages of a connection in an unknown state. -/
def breaksConnection : Cause → Bool
  | io _ | protocol _ => true
  | cause => cause.reconnectRequired

/-- A cause as a log shows it: in quotes, except for a protocol error. A server error stands
without its place in the query. None for causes that are not shown in this way. -/
def quoted? : Cause → Option (Except LayoutFault String)
  | database e => some (.ok e.quoted)
  | protocol e => some (.ok e.message)
  | config _ | io _ | scram _ => none
  | cause => some (cause.message.map fun text => "\"" ++ text ++ "\"")

/-- Giving up is final. -/
theorem isRetryable_exhausted (attempts : Nat) (last : Cause) :
    (exhausted attempts last).isRetryable = false := rfl

end Cause

/-- A failure as it is reported. -/
structure Failure where
  /-- What was done when the failure arose; empty if that is not known. -/
  context : String := ""
  cause : Cause

/-- The text shown for a failure. -/
def Failure.message (f : Failure) : Except LayoutFault String := do
  let text ← f.cause.message
  return if f.context = "" then text else f.context ++ ": " ++ text

end GelClient
