import GelClient.Proofs.Connection.Starting

/-!
# What comes of dialling

A client tries to reach the server until an attempt succeeds, until as many have failed as the settings allow,
or until the time is up, whichever comes first. An attempt dials the server and, with TLS, has to set up a
session on the socket. Once there is a socket, no other attempt is made whatever becomes of the exchange on it.
`Dialled` has one case for each of these ends. A failure to reach the server is reported as the failure of all
attempts or as a timeout; a transient failure is the loss of the transport in the exchange, and nothing else.
-/

namespace GelClient.Connection

/-- What the log says about attempts to reach the server that failed, counting from one. -/
def dialFailures (failures : List IoError) : List LogEntry :=
  (failures.zipIdx 1).map fun a => .dialFailed a.2 a.1

/-- The number of attempts to reach the server that the settings allow. -/
def dialLimit (config : Config) : Nat := max 1 config.maxConnectionAttempts

/-- What the attempt behind a number of failed ones comes to. -/
def attemptAfter (config : Config) (tls : Option TlsClient) (dial : Dialling) (failed : Nat) :
    Except IoError Socket :=
  reach config tls dial (failed + 1) (failed * retryDelay)

/-- The connection that is started on a socket behind some failed attempts. -/
def idleAfter (config : Config) (registry : CodecRegistry) (failures : List IoError) (socket : Socket) :
    Connection :=
  idle config registry socket (dialFailures failures)

/-- What a failed start of a connection leaves, with news for the log. -/
def Opening.failed (e : Cause) (c : Connection) (news : List LogEntry) : Opening :=
  ⟨.error e, c.registry, c.stream.socket.sent, c.stream.log ++ news⟩

/-- What a client comes to when some attempts to reach the server have failed before the last one. -/
inductive Dialled (config : Config) (registry : CodecRegistry) (h : Handshake) (tls : Option TlsClient)
    (dial : Dialling) (failures : List IoError) : Opening → Prop
  /-- The attempt succeeds, and a connection starts on its socket. -/
  | started {socket : Socket} {c : Connection}
    (hreach : attemptAfter config tls dial failures.length = .ok socket)
    (hstart : startUp config h (idleAfter config registry failures socket) = .ok () c) :
    Dialled config registry h tls dial failures ⟨.ok c, c.registry, c.stream.socket.sent, c.stream.log⟩
  /-- The attempt succeeds, and the exchange on its socket loses the transport. -/
  | lost {socket : Socket} {i : IoError} {c : Connection}
    (hreach : attemptAfter config tls dial failures.length = .ok socket)
    (hlost : LosesTransport config h (idleAfter config registry failures socket) i c)
    (hi : i ≠ .silence) :
    Dialled config registry h tls dial failures
      (.failed (.connection (.transient i)) c
        [.connectFailed config.host config.port (.connection (.transient i))])
  /-- The attempt succeeds, and the exchange on its socket waits until the time is up. -/
  | unanswered {socket : Socket} {c : Connection}
    (hreach : attemptAfter config tls dial failures.length = .ok socket)
    (hlost : LosesTransport config h (idleAfter config registry failures socket) .silence c) :
    Dialled config registry h tls dial failures (.failed (.connection .timeout) c [])
  /-- The attempt succeeds, and the exchange on its socket fails for another reason than the transport. -/
  | rejected {socket : Socket} {e : Cause} {c : Connection}
    (hreach : attemptAfter config tls dial failures.length = .ok socket)
    (hstart : startUp config h (idleAfter config registry failures socket) = .error e c)
    (htransport : e.isTransport = false) :
    Dialled config registry h tls dial failures
      (.failed e c (if e = .misannounced then [] else [.connectFailed config.host config.port e]))
  /-- The attempt waits until the time is up. -/
  | silent (hreach : attemptAfter config tls dial failures.length = .error .silence) :
    Dialled config registry h tls dial failures
      ⟨.error (.connection .timeout), registry, [], dialFailures failures⟩
  /-- The attempt fails and is the last one that is allowed. -/
  | usedUp {last : IoError} (hreach : attemptAfter config tls dial failures.length = .error last)
    (hlast : last ≠ .silence) (hlimit : failures.length + 1 = dialLimit config) :
    Dialled config registry h tls dial failures
      ⟨.error (.connection (.failed (dialLimit config) last)), registry, [],
        dialFailures failures ++
          [.connectFailed config.host config.port (.connection (.failed (dialLimit config) last))]⟩
  /-- The attempt fails, and the time is up before the next one. -/
  | outOfTime {last : IoError} (hreach : attemptAfter config tls dial failures.length = .error last)
    (hlast : last ≠ .silence) (hlimit : failures.length + 1 < dialLimit config)
    (htime : config.connectTimeout ≤ (failures.length + 1) * retryDelay) :
    Dialled config registry h tls dial failures
      ⟨.error (.connection .timeout), registry, [], dialFailures (failures ++ [last])⟩

/-- The first attempts to reach the server failed, each of them in time for another one. -/
def Retried (config : Config) (tls : Option TlsClient) (dial : Dialling) (failures : List IoError) : Prop :=
  ∀ a ∈ failures.zipIdx, attemptAfter config tls dial a.2 = .error a.1 ∧ a.1 ≠ .silence ∧
    (a.2 + 1) * retryDelay < config.connectTimeout

section

variable {config : Config} {tls : Option TlsClient} {dial dial' : Dialling} {failures : List IoError}

/-- One more failure in time for another attempt is retried. -/
theorem Retried.concat {last : IoError} (hretried : Retried config tls dial failures)
    (hreach : attemptAfter config tls dial failures.length = .error last) (hlast : last ≠ .silence)
    (htime : (failures.length + 1) * retryDelay < config.connectTimeout) :
    Retried config tls dial (failures ++ [last]) := by
  rw [Retried, List.zipIdx_append, List.zipIdx_singleton, Nat.zero_add, List.forall_mem_append]
  exact ⟨hretried, List.forall_mem_singleton.mpr ⟨hreach, hlast, htime⟩⟩

variable {registry : CodecRegistry} {h : Handshake} {more : Nat}

variable {o : Opening}

/-- A failure of the transport or to connect is a transient one, the failure of all attempts that are allowed,
or a timeout. Only the first is worth another attempt, on another connection. -/
theorem Dialled.flags (hdialled : Dialled config registry h tls dial failures o) {e : Cause}
    (he : o.result = .error e) (htransport : e.isTransport = true) :
    ((∃ i, e = .connection (.transient i)) ∧ e.isRetryable = true ∧ e.reconnectRequired = true) ∨
      (((∃ last, e = .connection (.failed (dialLimit config) last)) ∨ e = .connection .timeout) ∧
        e.isRetryable = false ∧ e.reconnectRequired = false) := by
  cases hdialled with
  | started _ _ => cases he
  | lost _ _ _ =>
    cases he
    exact .inl ⟨⟨_, rfl⟩, rfl, rfl⟩
  | usedUp _ _ _ =>
    cases he
    exact .inr ⟨.inl ⟨_, rfl⟩, rfl, rfl⟩
  | unanswered _ _ | silent _ | outOfTime _ _ _ _ =>
    cases he
    exact .inr ⟨.inr rfl, rfl, rfl⟩
  | rejected _ _ hother =>
    cases he
    cases hother.symm.trans htransport

end

/-- A library that finds no certificate in any text, and whose second session is the first to come about. -/
def secondSession : TlsLibrary where
  versions := .ok ()
  certificates _ := []
  trust _ := .ok ()
  roots := []
  trustAll _ := .ok ()
  verify _ _ _ := .ok ()
  hostName _ := .ok ()
  session _ _ attempt socket := if attempt = 1 then .error (.other "handshake failure") else .ok socket

/-- A text without certificates is found out before the server is dialled. -/
example : (connect { tlsCa := some "not a certificate" } .empty "" (fun _ => .ok .mute)
    (some secondSession)).result = .error (.connection (.tls "no certificate found in tls ca")) :=
  rfl

/-- A session that does not come about is followed by another attempt. -/
example : (connect {} .empty "" (fun _ => .ok { reads := [] }) (some secondSession)).log.map LogEntry.line =
    [.ok "DEBUG: connect attempt 1 failed: handshake failure",
      .ok "ERROR: failed to connect to localhost:5656: Failed to connect: unexpected end of file"] := by
  decide +kernel

end GelClient.Connection
