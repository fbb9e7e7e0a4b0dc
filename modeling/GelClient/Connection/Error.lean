import GelClient.Protocol.Terms

/-!
# Connection errors

What can go wrong with the transport below a connection, and when a connection is opened.
-/

namespace GelClient

/-- A failure of the transport. -/
inductive IoError where
  /-- The peer closed its side. -/
  | endOfStream
  /-- The transport takes no more bytes. -/
  | writeZero
  /-- Nobody listens at the address. -/
  | refused
  /-- The peer neither sends nor closes, so what waits for it would wait for ever. -/
  | silence
  | other (text : String)
  deriving DecidableEq, Repr, Inhabited

/-- The text shown for a failure of the transport. -/
def IoError.message : IoError → String
  | .endOfStream => "unexpected end of file"
  | .writeZero => "write zero"
  | .refused => "Connection refused (os error 111)"
  | .silence => "no answer"
  | .other text => text

/-- A failure to open a connection or to use a closed one. -/
inductive ConnectionError where
  /-- The transport failed while the connection started. -/
  | transient (cause : IoError)
  /-- Connecting took too long. -/
  | timeout
  /-- The server speaks another version of the protocol. -/
  | unsupportedVersion (client server : ProtocolVersion)
  /-- The server could not be dialled in the given number of attempts. -/
  | failed (attempts : Nat) (last : IoError)
  | closed
  /-- TLS could not be set up. -/
  | tls (text : String)
  deriving DecidableEq, Repr, Inhabited

namespace ConnectionError

/-- The short name of a kind of connection error. -/
def label : ConnectionError → String
  | transient _ => "Transient"
  | timeout => "Timeout"
  | unsupportedVersion .. => "UnsupportedVersion"
  | failed .. => "Failed"
  | closed => "Closed"
  | tls _ => "Tls"

/-- The text shown for a connection error. -/
def message : ConnectionError → String
  | transient cause => "Failed to connect: " ++ cause.message
  | timeout => "Connection timed out"
  | unsupportedVersion client server =>
    "Server protocol version " ++ server.toText ++ " is not supported, client speaks "
      ++ client.toText
  | failed attempts last =>
    "Failed to connect after " ++ toString attempts ++ " attempt(s): " ++ last.message
  | closed => "Connection closed"
  | tls text => "TLS configuration error: " ++ text

/-- Whether another attempt may succeed, on another connection. -/
def isRetryable : ConnectionError → Bool
  | transient _ | closed => true
  | _ => false

/-- Whether the connection must be replaced before another attempt. -/
def reconnectRequired : ConnectionError → Bool
  | transient _ | closed => true
  | _ => false

end ConnectionError

end GelClient
