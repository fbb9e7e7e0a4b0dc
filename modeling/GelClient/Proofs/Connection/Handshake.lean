import GelClient.Connection.Handshake
import GelClient.Proofs.Actions

/-!
# The messages that a handshake accepts

A handshake is fed with messages in any order. `Handshake.Accepts` lists, once, which message a
handshake takes in which state, and what it does then; everything else is answered with an error. From
it follows which sequences of messages are answered without an error: those that go along
`Handshake.IsOpening`, where reports for the log may stand anywhere.
-/

namespace GelClient

/-- Whether a message is a report for the log. -/
def ServerMessage.isLog : ServerMessage → Bool
  | .logMessage _ => true
  | _ => false

/-- Whether the server offers methods for an exchange. -/
def ServerMessage.isOffer : ServerMessage → Bool
  | .authentication (.sasl _) => true
  | _ => false

/-- Whether the server challenges the client. -/
def ServerMessage.isChallenge : ServerMessage → Bool
  | .authentication (.saslContinue _) => true
  | _ => false

/-- Whether the server is ready for commands. -/
def ServerMessage.isReady : ServerMessage → Bool
  | .readyForCommand _ => true
  | _ => false

/-- Offers, challenges and the end are not for the log. -/
theorem ServerMessage.isLog_eq_false {m : ServerMessage}
    (hm : m.isOffer = true ∨ m.isChallenge = true ∨ m.isReady = true) : m.isLog = false := by
  cases m <;> simp_all [isOffer, isChallenge, isReady, isLog]

namespace Handshake

/-- The answer to a message. -/
def answer (h : Handshake) (m : ServerMessage) : Except Cause HandshakeStep :=
  match onMessage m h with
  | .ok step _ => .ok step
  | .error cause _ => .error cause

/-- The handshake after a message. -/
def next (h : Handshake) (m : ServerMessage) : Handshake :=
  match onMessage m h with
  | .ok _ h => h
  | .error _ h => h

/-- The handshake after a sequence of messages. -/
def after (h : Handshake) (ms : List ServerMessage) : Handshake :=
  ms.foldl next h

/-- The answers to a sequence of messages. -/
def answers (h : Handshake) : List ServerMessage → List (Except Cause HandshakeStep)
  | [] => []
  | m :: ms => h.answer m :: (h.next m).answers ms

/-- The exchange that a handshake uses when it is asked for a password. -/
def opener (h : Handshake) : Scram.Client :=
  h.exchange.getD (Scram.Client.start h.primitives h.user h.nonce)

/-- The handshake once the server has announced its version; a newer one is news for the log. -/
def announced (h : Handshake) (server : ProtocolVersion) : Handshake :=
  { h with
    serverVersion := server
    log := h.log ++ if h.version.minor < server.minor then
      [LogEntry.newerServer server h.version] else [] }

/-- A handshake takes a message, answers with a step and goes on to another handshake. -/
inductive Accepts (h : Handshake) : ServerMessage → HandshakeStep → Handshake → Prop
  | log (m : LogMessage) : Accepts h (.logMessage m) .wait h
  | version (m : ServerHandshake) : h.state = .handshakeSent → m.version.major = h.version.major →
      h.version.minor ≤ m.version.minor → Accepts h (.serverHandshake m) .wait (h.announced m.version)
  | admitted : h.state = .handshakeSent →
      Accepts h (.authentication .ok) .wait { h with state := .authenticated }
  | asked (methods : List String) : h.state = .handshakeSent → Scram.methodName ∈ methods →
      Accepts h (.authentication (.sasl methods))
        (.send (.initial Scram.methodName h.opener.initialMessage))
        { h with exchange := some h.opener, state := .authenticating .initial }
  | challenged (data : Bytes) (exchange : Scram.Client) (last : Scram.Final) :
      h.state = .authenticating .initial → h.exchange = some exchange →
      exchange.finalMessage h.primitives data h.password = .ok last →
      Accepts h (.authentication (.saslContinue data)) (.send (.answer last.message))
        { h with serverSignature := some last.serverSignature, state := .authenticating .answered }
  | proved (data expected : Bytes) :
      h.state = .authenticating .answered → h.serverSignature = some expected →
      Scram.verifyServerFinal data expected h.primitives = .ok () →
      Accepts h (.authentication (.saslFinal data)) .wait
        { h with serverSignature := none, state := .authenticating .verified }
  | verified : h.state = .authenticating .verified →
      Accepts h (.authentication .ok) .wait { h with exchange := none, state := .authenticated }
  | key (m : ServerKeyData) : h.state = .authenticated →
      Accepts h (.serverKeyData m) .wait { h with serverKey := some m.data }
  | parameter (m : ParameterStatus) : h.state = .authenticated →
      Accepts h (.parameterStatus m) .wait (takeParameter m h)
  | description (m : StateDataDescription) : h.state = .authenticated →
      Accepts h (.stateDataDescription m) .wait { h with stateDescription := some m }
  | ready (m : ReadyForCommand) : h.state = .authenticated →
      Accepts h (.readyForCommand m) .ready
        { h with transactionState := m.transactionState, state := .ready }

open Actions

/-- A version is taken exactly if it has the major version of the client and no smaller minor one. -/
theorem acceptVersion_apply (h : Handshake) (server : ProtocolVersion) :
    acceptVersion server h =
      if server.major = h.version.major ∧ h.version.minor ≤ server.minor then
        .ok () (h.announced server)
      else .error (.connection (.unsupportedVersion h.version server)) h := by
  unfold acceptVersion
  rw [get_bind_apply]
  by_cases hv : server.major = h.version.major ∧ h.version.minor ≤ server.minor
  · have hno : ¬ (server.major ≠ h.version.major ∨ server.minor < h.version.minor) := by
      simp [hv]
    rw [if_pos hv, if_neg hno]
    simp [isDegraded, announced]
    rfl
  · have hyes : server.major ≠ h.version.major ∨ server.minor < h.version.minor := by
      simpa [Decidable.or_iff_not_imp_left] using hv
    rw [if_neg hv, if_pos hyes]
    rfl

/-- An exchange is started exactly if the server offers its method. -/
theorem beginExchange_apply (h : Handshake) (offered : List String) :
    beginExchange offered h =
      if Scram.methodName ∈ offered then
        .ok (.send (.initial Scram.methodName h.opener.initialMessage))
          { h with exchange := some h.opener, state := .authenticating .initial }
      else .error (.scram (.unsupportedMethod offered)) h := by
  by_cases hm : Scram.methodName ∈ offered
  · rw [if_pos hm, beginExchange, Scram.selectMethod, if_pos hm]
    rfl
  · rw [if_neg hm, beginExchange, Scram.selectMethod, if_neg hm]
    rfl

/-- A challenge is answered by the exchange that was started, if it has an answer. -/
theorem answerChallenge_apply (h : Handshake) (data : Bytes) :
    answerChallenge data h =
      match h.exchange with
      | none => .error (.protocol (.unexpectedIn "SaslInitial" MessageKind.authentication.toByte)) h
      | some exchange =>
        match exchange.finalMessage h.primitives data h.password with
        | .error e => .error (.scram e) h
        | .ok last => .ok (.send (.answer last.message))
          { h with serverSignature := some last.serverSignature, state := .authenticating .answered } := by
  unfold answerChallenge
  rw [get_bind_apply]
  cases h.exchange with
  | none => rfl
  | some exchange =>
    dsimp only
    cases exchange.finalMessage h.primitives data h.password <;> rfl

/-- A proof is checked against the expected signature, which is forgotten. -/
theorem checkProof_apply (h : Handshake) (data : Bytes) :
    checkProof data h =
      match h.serverSignature with
      | none => .error (.protocol (.unexpectedIn "SaslContinue" MessageKind.authentication.toByte)) h
      | some expected =>
        match Scram.verifyServerFinal data expected h.primitives with
        | .error e => .error (.scram e) { h with serverSignature := none }
        | .ok () => .ok .wait
          { h with serverSignature := none, state := .authenticating .verified } := by
  unfold checkProof
  rw [get_bind_apply]
  cases h.serverSignature with
  | none => rfl
  | some expected =>
    dsimp only
    cases Scram.verifyServerFinal data expected h.primitives <;> rfl

/-- A message that is answered without an error is one that the handshake accepts. -/
theorem accepts_of_advance {h h' : Handshake} {m : ServerMessage} {step : HandshakeStep}
    (hm : advance m h = .ok step h') : Accepts h m step h' := by
  unfold advance at hm
  simp only [get_bind_apply] at hm
  generalize hs : h.state = s at hm
  split at hm
  · cases hm
  · cases hm
    exact .log _
  next m =>
    rw [bind_eq_ok] at hm
    obtain ⟨_, _, hv, hw⟩ := hm
    rw [acceptVersion_apply] at hv
    split at hv
    next hok =>
      cases hv
      cases hw
      exact .version m hs hok.1 hok.2
    · cases hv
  · cases hm
    exact .admitted hs
  next methods =>
    rw [beginExchange_apply] at hm
    split at hm
    next hmem =>
      cases hm
      exact .asked methods hs hmem
    · cases hm
  next data =>
    rw [answerChallenge_apply] at hm
    split at hm
    · cases hm
    next exchange he =>
      split at hm
      · cases hm
      next last hf =>
        cases hm
        exact .challenged data exchange last hs he hf
  next data =>
    rw [checkProof_apply] at hm
    split at hm
    · cases hm
    next expected he =>
      split at hm
      · cases hm
      next hv =>
        cases hm
        exact .proved data expected hs he hv
  · cases hm
    exact .verified hs
  · cases hm
    exact .key _ hs
  · cases hm
    exact .parameter _ hs
  · cases hm
    exact .description _ hs
  · cases hm
    exact .ready _ hs
  · cases hm

/-- A message that the handshake accepts is answered without an error. -/
theorem Accepts.advance_eq {h h' : Handshake} {m : ServerMessage} {step : HandshakeStep}
    (ha : Accepts h m step h') : advance m h = .ok step h' := by
  unfold advance
  rw [get_bind_apply]
  cases ha with
  | log m => cases h.state <;> rfl
  | version m hs hmajor hminor =>
    simp only [hs]
    rw [bind_of_ok (a := ()) (t := h.announced m.version)]
    · rfl
    · rw [acceptVersion_apply, if_pos ⟨hmajor, hminor⟩]
  | admitted hs =>
    simp only [hs]
    rfl
  | asked methods hs hmem =>
    simp only [hs]
    rw [beginExchange_apply, if_pos hmem]
  | challenged data exchange last hs he hf =>
    simp only [hs]
    rw [answerChallenge_apply, he]
    simp only [hf]
  | proved data expected hs he hv =>
    simp only [hs]
    rw [checkProof_apply, he]
    simp only [hv]
  | verified hs =>
    simp only [hs]
    rfl
  | key m hs => simp [hs]
  | parameter m hs => simp [hs]
  | description m hs => simp [hs]
  | ready m hs =>
    simp only [hs]
    rfl

/-- A message is answered without an error exactly if the handshake accepts it. -/
theorem onMessage_eq_ok {h h' : Handshake} {m : ServerMessage} {step : HandshakeStep} :
    onMessage m h = .ok step h' ↔ Accepts h m step h' := by
  constructor
  · intro hm
    unfold onMessage at hm
    split at hm
    next ha =>
      cases hm
      exact accepts_of_advance ha
    · cases hm
  · intro ha
    unfold onMessage
    rw [ha.advance_eq]

/-- An answer without an error is the step that goes with the message. -/
theorem answer_eq_ok {h : Handshake} {m : ServerMessage} {step : HandshakeStep} :
    h.answer m = .ok step ↔ Accepts h m step (h.next m) := by
  rw [← onMessage_eq_ok]
  unfold answer next
  cases onMessage m h <;> simp

/-- A handshake that accepts a message goes on as it says. -/
theorem Accepts.next_eq {h h' : Handshake} {m : ServerMessage} {step : HandshakeStep}
    (ha : Accepts h m step h') : h.next m = h' := by
  unfold next
  rw [onMessage_eq_ok.mpr ha]

/-- An error leaves the handshake disconnected. -/
theorem state_next_of_error {h : Handshake} {m : ServerMessage} {cause : Cause}
    (he : h.answer m = .error cause) : (h.next m).state = .disconnected := by
  unfold answer at he
  unfold next
  cases hm : onMessage m h with
  | ok step h' => simp [hm] at he
  | error cause' h' =>
    unfold onMessage at hm
    split at hm
    · cases hm
    · cases hm
      rfl

/-- A report for the log is taken in every state and changes nothing. -/
theorem next_of_isLog {h : Handshake} {m : ServerMessage} (hm : m.isLog = true) : h.next m = h := by
  cases m with
  | logMessage l => exact (Accepts.log l).next_eq
  | _ => cases hm

/-- A report for the log asks for nothing. -/
theorem answer_of_isLog {h : Handshake} {m : ServerMessage} (hm : m.isLog = true) :
    h.answer m = .ok .wait := by
  rw [answer_eq_ok, next_of_isLog hm]
  cases m with
  | logMessage l => exact .log l
  | _ => cases hm

/-- No parameter changes the state. -/
@[simp]
theorem state_takeParameter (p : ParameterStatus) (h : Handshake) :
    (takeParameter p h).state = h.state := by
  unfold takeParameter
  split <;> rfl

/-- Nothing but reports for the log is accepted after an error. -/
theorem Accepts.isLog_of_disconnected {h h' : Handshake} {m : ServerMessage} {step : HandshakeStep}
    (ha : Accepts h m step h') (hs : h.state = .disconnected) : m.isLog = true := by
  cases ha <;> simp_all [ServerMessage.isLog]

/-- The handshake is ready exactly with the message that says so. -/
theorem Accepts.eq_ready_iff {h h' : Handshake} {m : ServerMessage} {step : HandshakeStep}
    (ha : Accepts h m step h') : step = .ready ↔ m.isReady = true := by
  cases ha <;> simp [ServerMessage.isReady]

/-- Something is to be sent exactly after an offer and after a challenge. -/
theorem Accepts.exists_send_iff {h h' : Handshake} {m : ServerMessage} {step : HandshakeStep}
    (ha : Accepts h m step h') :
    (∃ reply, step = .send reply) ↔ m.isOffer = true ∨ m.isChallenge = true := by
  cases ha <;> simp [ServerMessage.isOffer, ServerMessage.isChallenge]

end Handshake

end GelClient
