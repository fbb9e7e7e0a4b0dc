import GelClient.Failure
import GelClient.Text.Quoted

/-!
# The log

What a client reports while it works, each entry with its level. Entries keep the causes that
they report; their texts are made when they are read.
-/

namespace GelClient

/-- How important an entry is. -/
inductive LogLevel where
  | error
  | warn
  | info
  | debug
  deriving DecidableEq, Repr

/-- The name of a level. -/
def LogLevel.name : LogLevel → String
  | .error => "ERROR"
  | .warn => "WARN"
  | .info => "INFO"
  | .debug => "DEBUG"

/-- An entry of the log. -/
inductive LogEntry where
  /-- The server has something to say. -/
  | server (severity : LogSeverity) (code : ErrorCode) (text : String)
  /-- A message of unknown type was skipped. -/
  | skipped (kind : UInt8) (length : Nat)
  /-- The server speaks a newer minor version than the client. -/
  | newerServer (announced spoken : ProtocolVersion)
  /-- The server could not be dialled and is dialled again. -/
  | dialFailed (attempt : Nat) (cause : IoError)
  /-- No connection could be opened. -/
  | connectFailed (host : String) (port : UInt16) (cause : Cause)
  /-- A transaction could not be rolled back. -/
  | rollbackFailed (cause : Cause)
  /-- A transaction failed and is run again. -/
  | retrying (attempt : Nat) (cause : Cause)

namespace LogEntry

/-- The level of an entry. What the server says has the level of its severity. -/
def level : LogEntry → LogLevel
  | server .debug _ _ => .debug
  | server .info _ _ => .info
  | server .notice _ _ => .info
  | server .warning _ _ => .warn
  | skipped .. => .warn
  | newerServer .. => .warn
  | dialFailed .. => .debug
  | connectFailed .. => .error
  | rollbackFailed _ => .error
  | retrying .. => .debug

/-- The text of an entry, if that of its cause can be laid out. -/
def text : LogEntry → Except LayoutFault String
  | server _ code text => .ok ("server: " ++ code.toText ++ ": " ++ text)
  | skipped kind length =>
    .ok ("skipping unknown message type " ++ Text.quotedChar (Char.ofNat kind.toNat) ++ " of "
      ++ toString length ++ " bytes")
  | newerServer announced spoken =>
    .ok ("server speaks protocol " ++ announced.toText ++ ", newer than " ++ spoken.toText
      ++ ", some features may not work")
  | dialFailed attempt cause =>
    .ok ("connect attempt " ++ toString attempt ++ " failed: " ++ cause.message)
  | connectFailed host port cause =>
    cause.message.map fun text =>
      "failed to connect to " ++ host ++ ":" ++ toString port.toNat ++ ": " ++ text
  | rollbackFailed cause =>
    cause.message.map fun text => "failed to rollback transaction: " ++ text
  | retrying attempt cause =>
    cause.message.map fun text =>
      "retrying transaction after attempt " ++ toString attempt ++ ": " ++ text

/-- The line of an entry: its level and its text. -/
def line (e : LogEntry) : Except LayoutFault String :=
  e.text.map fun text => e.level.name ++ ": " ++ text

end LogEntry

end GelClient
