import GelClient.Protocol.Terms
import GelClient.Utf8

/-!
# Client messages

What a client sends. A message is written as its type byte, a length of four bytes that counts
itself, and the body. The length is announced before the body is written and is computed on
its own, in 32 bits, from the sizes of the fields; a message whose announced size is not the
size of its body is not sent.
-/

namespace GelClient

/-- What a client asks of the server about one query, whether it is to be compiled or run. -/
structure QueryRequest where
  capabilities : Capabilities
  compilationFlags : CompilationFlags
  implicitLimit : Int64
  format : IoFormat
  cardinality : Cardinality
  query : String
  stateTypeId : Uuid
  stateData : Bytes
  deriving DecidableEq, Repr

/-- The messages of a client. -/
inductive ClientMessage where
  /-- Opens the connection, with its parameters and the extensions asked for. -/
  | handshake (version : ProtocolVersion) (parameters : List (String × String))
      (extensions : List String)
  /-- Chooses an authentication method and starts it. -/
  | saslInitialResponse (method : String) (data : Bytes)
  /-- Answers a challenge of the server. -/
  | saslResponse (data : Bytes)
  /-- Compiles a query and asks for its input and output types. -/
  | parse (request : QueryRequest)
  /-- Runs a query with encoded arguments. -/
  | execute (request : QueryRequest) (inputTypeId outputTypeId : Uuid) (arguments : Bytes)
  /-- Ends the current cycle of commands. -/
  | sync
  /-- Asks the server to send what it holds back. -/
  | flush
  /-- Closes the connection. -/
  | terminate
  /-- Asks for a dump of the database. -/
  | dump
  deriving DecidableEq, Repr

/-- The bytes of a field behind their length, which is kept in 32 bits. -/
def prefixed (bytes : Bytes) : Bytes :=
  BigEndian.encode 4 bytes.length ++ bytes

/-- The bytes of a text field. -/
def prefixedText (s : String) : Bytes :=
  prefixed (Utf8.encode s)

/-- The size of a text field, in 32 bits. -/
def prefixedTextSize (s : String) : UInt32 :=
  4 + UInt32.ofNat (Utf8.size s)

/-- The size of a field of bytes, in 32 bits. -/
def prefixedSize (bytes : Bytes) : UInt32 :=
  4 + UInt32.ofNat bytes.length

namespace QueryRequest

/-- The fields in their order on the wire, behind an empty list of annotations. -/
def toBytes (r : QueryRequest) : Bytes :=
  BigEndian.encode 2 0
    ++ BigEndian.encode 8 r.capabilities.bits.toNat
    ++ BigEndian.encode 8 r.compilationFlags.bits.toNat
    ++ BigEndian.encode 8 r.implicitLimit.toUInt64.toNat
    ++ [r.format.toByte, r.cardinality.toByte]
    ++ prefixedText r.query
    ++ r.stateTypeId.toBytes
    ++ prefixed r.stateData

/-- The size that the fields are announced with. -/
def announcedSize (r : QueryRequest) : UInt32 :=
  2 + 8 + 8 + 8 + 1 + 1 + prefixedTextSize r.query + 16 + prefixedSize r.stateData

end QueryRequest

namespace ClientMessage

/-- The type byte of a message. -/
def kind : ClientMessage → UInt8
  | .handshake .. => 0x56
  | .saslInitialResponse .. => 0x70
  | .saslResponse _ => 0x72
  | .parse _ => 0x50
  | .execute .. => 0x4F
  | .sync => 0x53
  | .flush => 0x48
  | .terminate => 0x58
  | .dump => 0x3E

/-- The size that the body of a message is announced with. -/
def announcedSize : ClientMessage → UInt32
  | .handshake _ parameters extensions =>
    2 + 2 + 2
      + (parameters.map fun p => prefixedTextSize p.1 + prefixedTextSize p.2).sum
      + 2
      + (extensions.map fun name => prefixedTextSize name + 2).sum
  | .saslInitialResponse method data => prefixedTextSize method + prefixedSize data
  | .saslResponse data => prefixedSize data
  | .parse request => request.announcedSize
  | .execute request _ _ arguments => request.announcedSize + 16 + 16 + prefixedSize arguments
  | .sync => 0
  | .flush => 0
  | .terminate => 0
  | .dump => 2

/-- The body of a message. The counts in a handshake are kept in 16 bits. -/
def body : ClientMessage → Bytes
  | .handshake version parameters extensions =>
    BigEndian.encode 2 version.major.toNat
      ++ BigEndian.encode 2 version.minor.toNat
      ++ BigEndian.encode 2 parameters.length
      ++ parameters.flatMap (fun p => prefixedText p.1 ++ prefixedText p.2)
      ++ BigEndian.encode 2 extensions.length
      ++ extensions.flatMap (fun name => prefixedText name ++ BigEndian.encode 2 0)
  | .saslInitialResponse method data => prefixedText method ++ prefixed data
  | .saslResponse data => prefixed data
  | .parse request => request.toBytes
  | .execute request inputTypeId outputTypeId arguments =>
    request.toBytes ++ inputTypeId.toBytes ++ outputTypeId.toBytes ++ prefixed arguments
  | .sync => []
  | .flush => []
  | .terminate => []
  | .dump => BigEndian.encode 2 0

/-- The message with its type byte and its announced length. -/
def toBytes (m : ClientMessage) : Bytes :=
  m.kind :: BigEndian.encode 4 (4 + m.announcedSize).toNat ++ m.body

/-- Appends a message to a buffer; none if its announced size is not the size of its body. -/
def write? (m : ClientMessage) (buffer : Bytes) : Option Bytes :=
  if m.body.length = m.announcedSize.toNat then some (buffer ++ m.toBytes) else none

/-- Appends messages to a buffer in order. -/
def writeAll? (ms : List ClientMessage) (buffer : Bytes) : Option Bytes :=
  ms.foldlM (fun buffer m => m.write? buffer) buffer

/-- What is in the buffer before a message stays there. -/
theorem write?_eq_some {m : ClientMessage} {buffer written : Bytes}
    (h : m.write? buffer = some written) : written = buffer ++ m.toBytes := by
  unfold write? at h
  split at h
  · exact (Option.some.inj h).symm
  · cases h

end ClientMessage

end GelClient
