import GelClient.Log
import GelClient.Protocol.ClientMessage
import GelClient.Scram.Client
import GelClient.Text.Blank

/-!
# The start of a connection

A connection starts with messages about versions and authentication and is ready with the first
message that says so. The handshake is a state machine: it takes each message of the server and
says what to do next. It performs no input or output.

The server may announce its version any number of times, as long as the major version is that of
the client and the minor version is not below it. It then either lets the client in or asks for
a password, for which the two sides exchange four messages. After that come the key of the
session, parameters and the type of the session state, in any order. Any other message is an
error, and an error leaves the handshake disconnected.
-/

namespace GelClient

/-- Which message of the exchange the client sent last. -/
inductive SaslPhase where
  | initial
  | answered
  /-- The server proved that it knows the password. -/
  | verified
  deriving DecidableEq, Repr

/-- How far the start of a connection is. -/
inductive HandshakeState where
  | disconnected
  | tlsEstablishing
  | handshakeSent
  | authenticating (phase : SaslPhase)
  /-- The server let the client in. -/
  | authenticated
  | ready
  deriving DecidableEq, Repr

/-- The name of a state in messages. -/
def HandshakeState.name : HandshakeState → String
  | .disconnected => "Disconnected"
  | .tlsEstablishing => "TlsEstablishing"
  | .handshakeSent => "HandshakeSent"
  | .authenticating .initial => "SaslInitial"
  | .authenticating .answered => "SaslContinue"
  | .authenticating .verified => "SaslFinal"
  | .authenticated => "Authenticated"
  | .ready => "Ready"

/-- A state as it is shown to a programmer. -/
def HandshakeState.describe : HandshakeState → String
  | .authenticating .initial => "Authenticating(Initial)"
  | .authenticating .answered => "Authenticating(Continue)"
  | .authenticating .verified => "Authenticating(Final)"
  | state => state.name

/-- A message that the handshake wants to be sent. -/
inductive SaslReply where
  | initial (method data : String)
  | answer (data : String)
  deriving DecidableEq, Repr

/-- The client's message of a reply. -/
def SaslReply.toMessage : SaslReply → ClientMessage
  | .initial method data => .saslInitialResponse method (Utf8.encode data)
  | .answer data => .saslResponse (Utf8.encode data)

/-- What to do after a message of the server. -/
inductive HandshakeStep where
  | send (reply : SaslReply)
  | wait
  | ready
  deriving DecidableEq, Repr

/-- The start of a connection. -/
structure Handshake where
  primitives : Scram.Primitives := .standard
  state : HandshakeState := .disconnected
  version : ProtocolVersion
  /-- The version that the server announced, and that of the client before it did. -/
  serverVersion : ProtocolVersion
  user : String
  password : String
  /-- The nonce of an exchange that was not started before. -/
  nonce : String
  exchange : Option Scram.Client := none
  serverSignature : Option Bytes := none
  serverKey : Option Bytes := none
  stateDescription : Option StateDataDescription := none
  suggestedPoolConcurrency : Option Nat := none
  transactionState : TransactionState := .notInTransaction
  /-- What the log is to be told, in order. -/
  log : List LogEntry := []

namespace Handshake

/-- The start of a connection of a user, with a nonce in case a password is asked for. -/
def start (version : ProtocolVersion) (user password nonce : String) : Handshake :=
  { version, serverVersion := version, user, password, nonce }

/-- The handshake with an exchange that is started already. -/
def withExchange (h : Handshake) (exchange : Scram.Client) : Handshake :=
  { h with exchange := some exchange }

/-- The handshake while TLS is being set up. -/
def tlsStarted (h : Handshake) : Handshake :=
  { h with state := .tlsEstablishing }

/-- The handshake once the client's first message is sent. -/
def handshakeSent (h : Handshake) : Handshake :=
  { h with state := .handshakeSent }

/-- Whether the server speaks a newer minor version than the client. -/
def isDegraded (h : Handshake) : Bool :=
  h.version.minor < h.serverVersion.minor

/-- The type of the session state, which can be taken once. -/
def takeStateDescription (h : Handshake) : Option StateDataDescription × Handshake :=
  (h.stateDescription, { h with stateDescription := none })

/-- An action on a handshake that can fail. -/
abbrev Action := EStateM Cause Handshake

/-- The result of a step of an exchange. -/
def Action.ofScram {α : Type} : Except ScramError α → Action α
  | .ok a => pure a
  | .error e => throw (.scram e)

/-- Goes on to another state. -/
def Action.enter (state : HandshakeState) : Action Unit :=
  modify fun h => { h with state }

/-- Takes the version that the server announced. -/
def acceptVersion (server : ProtocolVersion) : Action Unit := do
  let h ← get
  if server.major ≠ h.version.major ∨ server.minor < h.version.minor then
    throw (.connection (.unsupportedVersion h.version server))
  let h := { h with serverVersion := server }
  let news := if h.isDegraded then [LogEntry.newerServer server h.version] else []
  set { h with log := h.log ++ news }

/-- Starts the exchange for a password by a method that the server offers. -/
def beginExchange (offered : List String) : Action HandshakeStep := do
  let method ← Action.ofScram (Scram.selectMethod offered)
  let h ← get
  let exchange := h.exchange.getD (Scram.Client.start h.primitives h.user h.nonce)
  set { h with exchange := some exchange, state := .authenticating .initial }
  return .send (.initial method exchange.initialMessage)

/-- Answers the challenge of the server. -/
def answerChallenge (challenge : Bytes) : Action HandshakeStep := do
  let h ← get
  match h.exchange with
  | none =>
    throw (.protocol (.unexpectedIn "SaslInitial" MessageKind.authentication.toByte))
  | some exchange =>
    let last ← Action.ofScram (exchange.finalMessage h.primitives challenge h.password)
    set { h with
      serverSignature := some last.serverSignature, state := .authenticating .answered }
    return .send (.answer last.message)

/-- Checks the proof of the server. -/
def checkProof (proof : Bytes) : Action HandshakeStep := do
  let h ← get
  match h.serverSignature with
  | none =>
    throw (.protocol (.unexpectedIn "SaslContinue" MessageKind.authentication.toByte))
  | some expected =>
    set { h with serverSignature := none }
    Action.ofScram (Scram.verifyServerFinal proof expected h.primitives)
    Action.enter (.authenticating .verified)
    return .wait

/-- The number that the server suggests for a pool, if the value of a parameter is one. -/
def poolConcurrency? (value : Bytes) : Option Nat :=
  match Utf8.decode value with
  | .ok text => Text.unsigned? 64 (String.ofList (Text.trim text.toList))
  | .error _ => none

/-- Takes a parameter of the server. -/
def takeParameter (p : ParameterStatus) (h : Handshake) : Handshake :=
  if p.name = Utf8.encode "suggested_pool_concurrency" then
    { h with suggestedPoolConcurrency := poolConcurrency? p.value }
  else h

/-- What a message of the server does in each state. -/
def advance (message : ServerMessage) : Action HandshakeStep := do
  match (← get).state, message with
  | _, .errorResponse e => throw (.database e.toDatabaseError)
  | _, .logMessage _ => return .wait
  | .handshakeSent, .serverHandshake m =>
    acceptVersion m.version
    return .wait
  | .handshakeSent, .authentication .ok =>
    Action.enter .authenticated
    return .wait
  | .handshakeSent, .authentication (.sasl methods) => beginExchange methods
  | .authenticating .initial, .authentication (.saslContinue data) => answerChallenge data
  | .authenticating .answered, .authentication (.saslFinal data) => checkProof data
  | .authenticating .verified, .authentication .ok =>
    modify fun h => { h with exchange := none, state := .authenticated }
    return .wait
  | .authenticated, .serverKeyData key =>
    modify fun h => { h with serverKey := some key.data }
    return .wait
  | .authenticated, .parameterStatus p =>
    modify (takeParameter p)
    return .wait
  | .authenticated, .stateDataDescription d =>
    modify fun h => { h with stateDescription := some d }
    return .wait
  | .authenticated, .readyForCommand ready =>
    modify fun h => { h with transactionState := ready.transactionState, state := .ready }
    return .ready
  | state, message => throw (.protocol (.unexpectedIn state.name message.kind.toByte))

/-- Takes a message of the server. An error leaves the handshake disconnected. -/
def onMessage (message : ServerMessage) : Action HandshakeStep := fun h =>
  match advance message h with
  | .ok step h => .ok step h
  | .error cause h => .error cause { h with state := .disconnected }

end Handshake

end GelClient
