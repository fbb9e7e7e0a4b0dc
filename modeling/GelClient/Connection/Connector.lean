import GelClient.Connection.Basic
import GelClient.Connection.Environment
import GelClient.Connection.Handshake
import GelClient.Connection.Tls

/-!
# Opening connections

A connection is opened by dialling the server and setting up a session of TLS with it, which is
tried again after a delay when it fails, and by the handshake on the stream that this gives. All of
it together may take no longer than the settings allow. A failure of the transport during the
handshake is a transient one. TLS itself is set up before anything is dialled, and a client that
has no library for it speaks over the bare socket.

What becomes of dialling is given by a function from the number of the attempt to a socket or a
failure. Time passes only between the attempts, and without end on a silent socket.
-/

namespace GelClient

namespace Connection

/-- What each attempt to dial the server comes to, counting from one. -/
abbrev Dialling := Nat → Except IoError Socket

/-- The time between two attempts to dial the server, in milliseconds. -/
def retryDelay : Nat := 100

/-- A connection that has not started yet, with what the log was told before. -/
def idle (config : Config) (registry : CodecRegistry) (socket : Socket) (log : List LogEntry) :
    Connection :=
  { stream := { socket, log }, registry, version := config.protocolVersion
    implicitLimit := config.implicitLimit }

/-- An action during which a failure of the transport is a transient failure to connect. -/
def transiently {α : Type} (action : Action α) : Action α := fun c =>
  match action c with
  | .error (.io e) c => .error (.connection (.transient e)) c
  | r => r

/-- Puts entries into the log. -/
def report (entries : List LogEntry) : Action Unit :=
  modify fun c => { c with stream := entries.foldl Stream.note c.stream }

/-- Gives a message to the handshake. -/
def handshakeStep (h : Handshake) (m : ServerMessage) : Action (HandshakeStep × Handshake) :=
  match Handshake.onMessage m { h with log := [] } with
  | .ok step h => do
    report h.log
    return (step, h)
  | .error e h => do
    report h.log
    throw e

/-- Takes messages until the handshake is done. The bound counts the messages that can still
arrive. -/
def runHandshake : (bound : Nat) → Handshake → Action Handshake
  | 0, _ => throw (.connection (.transient .endOfStream))
  | bound + 1, h => do
    let m ← transiently receive
    let (step, h) ← handshakeStep h m
    match step with
    | .send reply =>
      transiently (sendAll [reply.toMessage])
      runHandshake bound h
    | .wait => runHandshake bound h
    | .ready => return h

/-- Starts a connection: announces the client, and takes what the handshake brings. -/
def startUp (config : Config) (h : Handshake) : Action Unit := do
  transiently (sendAll [.handshake config.protocolVersion config.parameters []])
  let h ← runHandshake ((← get).stream.backlog + 1) h.handshakeSent
  modify fun c => { c with
    transactionState := h.transactionState, serverKey := h.serverKey
    suggestedPoolConcurrency := h.suggestedPoolConcurrency, isConnected := true }
  match h.stateDescription with
  | some d => applyState d
  | none => return ()

/-- What became of opening a connection: the connection or the cause of the failure, and in both
cases the codecs that are shared, the bytes that were sent and the log. -/
structure Opening where
  result : Except Cause Connection
  registry : CodecRegistry
  sent : Bytes
  log : List LogEntry

/-- What becomes of the start of a connection. Silence lasts until the time is up, and a program that
stops has nothing to report. -/
def Opening.ofStart (config : Config) : EStateM.Result Cause Connection Unit → Opening
  | .ok () c => ⟨.ok c, c.registry, c.stream.socket.sent, c.stream.log⟩
  | .error e c =>
    let closed (e : Cause) (news : List LogEntry) : Opening :=
      ⟨.error e, c.registry, c.stream.socket.sent, c.stream.log ++ news⟩
    match e with
    | .connection (.transient .silence) => closed (.connection .timeout) []
    | .misannounced => closed .misannounced []
    | e => closed e [.connectFailed config.host config.port e]

/-- TLS for the settings of a connection, if there is a library for it. -/
def setUpTls (config : Config) : Option TlsLibrary → Except Cause (Option TlsClient)
  | none => .ok none
  | some library =>
    match library.settings config.tlsMode config.tlsCa with
    | .ok settings => .ok (some { library, settings })
    | .error text => .error (.connection (.tls text))

/-- What an attempt to reach the server comes to, at the given time since the first attempt: the
server is dialled, and with TLS there has to be a session over the socket. A socket that comes when
the time is up is waited for in vain. -/
def reach (config : Config) (tls : Option TlsClient) (dial : Dialling) (attempt elapsed : Nat) :
    Except IoError Socket :=
  match dial attempt with
  | .error e => .error e
  | .ok socket =>
    if config.connectTimeout ≤ elapsed then .error .silence
    else
      match tls with
      | none => .ok socket
      | some tls => tls.upgrade config.host attempt socket

/-- Tries to reach the server with an attempt of the given number, and again as often as the settings
allow, at the given time since the first attempt. -/
def dialFrom (config : Config) (registry : CodecRegistry) (h : Handshake) (tls : Option TlsClient)
    (dial : Dialling) : (more attempt elapsed : Nat) → (log : List LogEntry) → Opening
  | more, attempt, elapsed, log =>
    let timeout (log : List LogEntry) : Opening :=
      ⟨.error (.connection .timeout), registry, [], log⟩
    match reach config tls dial attempt elapsed with
    | .ok socket =>
      let h := if tls.isSome then h.tlsStarted else h
      .ofStart config (startUp config h (idle config registry socket log))
    | .error .silence => timeout log
    | .error last =>
      match more with
      | 0 =>
        let e : Cause := .connection (.failed attempt last)
        ⟨.error e, registry, [], log ++ [.connectFailed config.host config.port e]⟩
      | more + 1 =>
        let log := log ++ [.dialFailed attempt last]
        let elapsed := elapsed + retryDelay
        if config.connectTimeout ≤ elapsed then timeout log
        else dialFrom config registry h tls dial more (attempt + 1) elapsed log

/-- Opens a connection, with a nonce in case a password is asked for. -/
def connect (config : Config) (registry : CodecRegistry) (nonce : String) (dial : Dialling)
    (library : Option TlsLibrary := none) : Opening :=
  let h := Handshake.start config.protocolVersion config.user config.password nonce
  match setUpTls config library with
  | .ok tls => dialFrom config registry h tls dial (config.maxConnectionAttempts - 1) 1 0 []
  | .error e => ⟨.error e, registry, [], [.connectFailed config.host config.port e]⟩

/-- Opens a connection with the settings of an environment. -/
def connectIn (env : Environment) (registry : CodecRegistry) (nonce : String) (dial : Dialling)
    (library : Option TlsLibrary := none) : Opening :=
  match Config.ofEnvironment env with
  | .ok config => connect config registry nonce dial library
  | .error e => ⟨.error (.config e), registry, [], []⟩

end Connection

end GelClient
