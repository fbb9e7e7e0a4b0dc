import GelClient.Proofs.Connection.Handshake
import GelClient.Proofs.Connection.Replies

/-!
# The exchange at the start of a connection

A connection starts with an exchange: the client announces itself, and then takes messages of the
server and answers them until the handshake is done. `Awaits` says how far an exchange has come when the
next message is awaited, and `LosesTransport` that the transport fails at some point of it: where the
client announces itself, where a message is awaited, or where one is answered. The start of a connection
fails with a transient failure exactly if its exchange loses the transport, and never with the bare
failure of the transport.
-/

namespace GelClient

/-- A failure of the transport or to connect, unless the versions of the two sides do not go together. -/
def Cause.isTransport : Cause → Bool
  | .connection (.unsupportedVersion ..) => false
  | .io _ | .connection _ => true
  | _ => false

namespace Handshake

open Actions

/-- No message makes a handshake fail with the transport. -/
theorem isTransport_of_advance {h h' : Handshake} {m : ServerMessage} {e : Cause}
    (hm : advance m h = .error e h') : e.isTransport = false := by
  unfold advance at hm
  simp only [get_bind_apply] at hm
  generalize h.state = s at hm
  split at hm
  · cases hm
    rfl
  · cases hm
  next m =>
    obtain hversion | ⟨_, _, -, hwait⟩ := bind_eq_error.mp hm
    · rw [acceptVersion_apply] at hversion
      split at hversion <;> cases hversion
      rfl
    · cases hwait
  · cases hm
  · rw [beginExchange_apply] at hm
    split at hm <;> cases hm
    rfl
  · rw [answerChallenge_apply] at hm
    split at hm
    · cases hm
      rfl
    · split at hm <;> cases hm
      rfl
  · rw [checkProof_apply] at hm
    split at hm
    · cases hm
      rfl
    · split at hm <;> cases hm
      rfl
  all_goals cases hm
  rfl

end Handshake

namespace Connection

open Actions

variable {config : Config} {h₀ h h' : Handshake} {c₀ c c' : Connection} {e : Cause} {α : Type}

/-- A message that the handshake does not take is no failure of the transport. -/
theorem isTransport_of_handshakeStep {m : ServerMessage}
    (hstep : handshakeStep h m c = .error e c') : e.isTransport = false := by
  cases hm : Handshake.onMessage m { h with log := [] } with
  | ok step h₁ =>
    simp only [handshakeStep, hm] at hstep
    cases hstep
  | error e₁ h₁ =>
    simp only [handshakeStep, hm] at hstep
    cases hstep
    unfold Handshake.onMessage at hm
    split at hm
    · cases hm
    next hadvance =>
      cases hm
      exact Handshake.isTransport_of_advance hadvance

/-- A state of the session that cannot be adopted is no failure of the transport. -/
theorem isTransport_of_applyState {d : StateDataDescription} (hd : applyState d c = .error e c') :
    e.isTransport = false := by
  unfold applyState at hd
  rw [get_bind_apply] at hd
  obtain hbuild | ⟨codec, c₁, -, hd⟩ := bind_eq_error.mp hd
  · unfold onRegistry at hbuild
    split at hbuild <;> cases hbuild
    rfl
  · have hcodec {r : Except CodecError Bytes} {f : Bytes → Action Unit}
        (hf : ∀ data c₁, ∃ c₂, f data c₁ = .ok () c₂)
        (hr : (ofCodec r >>= f) c₁ = .error e c') : e.isTransport = false := by
      cases r with
      | ok data =>
        obtain ⟨c₂, hok⟩ := hf data c₁
        cases (show f data c₁ = _ from hr).symm.trans hok
      | error e' =>
        cases hr
        rfl
    cases codec with
    | null => cases hd
    | _ => exact hcodec (fun _ _ => ⟨_, rfl⟩) hd

/-- Messages cannot be received for the transport or the protocol. -/
theorem breaksOff_of_receive (hreceive : receive c = .error e c') :
    e.breaksOff = true ∨ e = .misannounced := by
  obtain ⟨_, hs⟩ := onStream_eq_error hreceive
  exact .inl (Stream.breaksOff_of_receive hs)

/-- Messages cannot be sent for the transport, or the program stops. -/
theorem breaksOff_of_sendAll {ms : List ClientMessage} (hsend : sendAll ms c = .error e c') :
    e.breaksOff = true ∨ e = .misannounced :=
  (sendAll_eq_error hsend).imp_right And.left

/-- A failure of the transport, and no other one of an action that reads or writes, is made a transient
one. -/
theorem transiently_eq_error {x : Action α}
    (hx : ∀ {e c'}, x c = .error e c' → e.breaksOff = true ∨ e = .misannounced)
    (ht : e.isTransport = true) (h : transiently x c = .error e c') :
    ∃ i, e = .connection (.transient i) ∧ x c = .error (.io i) c' := by
  unfold transiently at h
  split at h
  next i c₁ hi =>
    cases h
    exact ⟨i, rfl, hi⟩
  next hno =>
    obtain hbreaks | rfl := hx h
    · cases e with
      | io i => exact absurd h (hno i c')
      | protocol _ => cases ht
      | _ => cases hbreaks
    · cases ht

/-- An action that succeeds does so where failures of the transport are transient ones. -/
theorem transiently_of_ok {x : Action α} {a : α} (h : x c = .ok a c') :
    transiently x c = .ok a c' := by
  rw [transiently, h]

/-- What the client announces itself with. -/
def announcement (config : Config) : List ClientMessage :=
  [.handshake config.protocolVersion config.parameters []]

/-- An exchange at the start of a connection has come to where the next message of the server is
awaited. -/
inductive Awaits (config : Config) (h₀ : Handshake) (c₀ : Connection) : Handshake → Connection → Prop
  | announced {c : Connection} (hsend : sendAll (announcement config) c₀ = .ok () c) :
      Awaits config h₀ c₀ h₀.handshakeSent c
  | waited {h h' : Handshake} {c c₁ c₂ : Connection} {m : ServerMessage}
      (hbefore : Awaits config h₀ c₀ h c) (hreceive : receive c = .ok m c₁)
      (hstep : handshakeStep h m c₁ = .ok (.wait, h') c₂) : Awaits config h₀ c₀ h' c₂
  | answered {h h' : Handshake} {c c₁ c₂ c₃ : Connection} {m : ServerMessage} {reply : SaslReply}
      (hbefore : Awaits config h₀ c₀ h c) (hreceive : receive c = .ok m c₁)
      (hstep : handshakeStep h m c₁ = .ok (.send reply, h') c₂)
      (hsend : sendAll [reply.toMessage] c₂ = .ok () c₃) : Awaits config h₀ c₀ h' c₃

/-- The transport fails during the exchange at the start of a connection. -/
inductive LosesTransport (config : Config) (h₀ : Handshake) (c₀ : Connection) (i : IoError)
    (c' : Connection) : Prop
  | announcing (hsend : sendAll (announcement config) c₀ = .error (.io i) c')
  | awaiting {h : Handshake} {c : Connection} (hbefore : Awaits config h₀ c₀ h c)
      (hreceive : receive c = .error (.io i) c')
  | answering {h h' : Handshake} {c c₁ c₂ : Connection} {m : ServerMessage} {reply : SaslReply}
      (hbefore : Awaits config h₀ c₀ h c) (hreceive : receive c = .ok m c₁)
      (hstep : handshakeStep h m c₁ = .ok (.send reply, h') c₂)
      (hsend : sendAll [reply.toMessage] c₂ = .error (.io i) c')

/-- The exchange at the start of a connection. -/
def exchange (config : Config) (h : Handshake) : Action Handshake := do
  transiently (sendAll (announcement config))
  runHandshake ((← get).stream.backlog + 1) h.handshakeSent

/-- What a connection makes of a handshake that is done. -/
def adopt (h : Handshake) : Action Unit := do
  modify fun c => { c with
    transactionState := h.transactionState, serverKey := h.serverKey
    suggestedPoolConcurrency := h.suggestedPoolConcurrency, isConnected := true }
  match h.stateDescription with
  | some d => applyState d
  | none => return ()

/-- A connection starts with its exchange and then adopts what that brought. -/
theorem startUp_eq (config : Config) (h : Handshake) :
    startUp config h = exchange config h >>= adopt := by
  rw [exchange, bind_assoc]
  rfl

/-- What was brought by an exchange is adopted without the transport. -/
theorem isTransport_of_adopt (hadopt : adopt h c = .error e c') : e.isTransport = false := by
  rw [adopt, modify_bind_apply] at hadopt
  cases hd : h.stateDescription with
  | none =>
    rw [hd] at hadopt
    cases hadopt
  | some d =>
    rw [hd] at hadopt
    exact isTransport_of_applyState hadopt

/-- A handshake goes on behind a message that it only takes. -/
theorem runHandshake_of_wait {bound : Nat} {m : ServerMessage} {c₁ c₂ : Connection}
    (hreceive : receive c = .ok m c₁) (hstep : handshakeStep h m c₁ = .ok (.wait, h') c₂) :
    runHandshake (bound + 1) h c = runHandshake bound h' c₂ := by
  rw [runHandshake, bind_of_ok (transiently_of_ok hreceive), bind_of_ok hstep]

/-- A handshake that has something to send sends it and goes on. -/
theorem runHandshake_of_send {bound : Nat} {m : ServerMessage} {reply : SaslReply} {c₁ c₂ : Connection}
    (hreceive : receive c = .ok m c₁) (hstep : handshakeStep h m c₁ = .ok (.send reply, h') c₂) :
    runHandshake (bound + 1) h c =
      (transiently (sendAll [reply.toMessage]) >>= fun _ => runHandshake bound h') c₂ := by
  rw [runHandshake, bind_of_ok (transiently_of_ok hreceive), bind_of_ok hstep]

/-- A message that the handshake takes leaves fewer bytes to read. -/
theorem length_unread_of_step {m : ServerMessage} {step : HandshakeStep} {c₁ c₂ : Connection}
    (ho : c.stream.output = []) (hreceive : receive c = .ok m c₁)
    (hstep : handshakeStep h m c₁ = .ok (step, h') c₂) :
    c₂.stream.output = [] ∧ c₂.stream.unread.length + 5 ≤ c.stream.unread.length := by
  obtain ⟨s, hs, rfl⟩ := onStream_eq_ok hreceive
  have houtput := Stream.output_of_receive hs
  have hless := Stream.length_unread_of_receive ho hs
  rw [(handshakeStep_eq_ok hstep).2]
  exact ⟨houtput, hless⟩

/-- Where an exchange awaits a message all was written, and the rest of the exchange is a handshake
whose bound is not reached by the bytes that are still to be read. -/
theorem Awaits.exists_bound (hbefore : Awaits config h₀ c₀ h c) : c.stream.output = [] ∧
    ∃ bound, c.stream.unread.length < 5 * (bound + 1) ∧
      exchange config h₀ c₀ = runHandshake (bound + 1) h c := by
  induction hbefore with
  | @announced c hsend =>
    have hlength := c.stream.length_unread_le
    refine ⟨(sendAll_eq_ok hsend).2.1, c.stream.backlog, by omega, ?_⟩
    rw [exchange, bind_of_ok (transiently_of_ok hsend), get_bind_apply]
  | waited _ hreceive hstep ih =>
    obtain ⟨ho, bound, hbound, hrun⟩ := ih
    obtain ⟨ho', hless⟩ := length_unread_of_step ho hreceive hstep
    obtain ⟨bound, rfl⟩ : ∃ n, bound = n + 1 := ⟨bound - 1, by omega⟩
    exact ⟨ho', bound, by omega, hrun.trans (runHandshake_of_wait hreceive hstep)⟩
  | answered _ hreceive hstep hsend ih =>
    obtain ⟨ho, bound, hbound, hrun⟩ := ih
    obtain ⟨-, hless⟩ := length_unread_of_step ho hreceive hstep
    obtain ⟨-, ho', hunread, -⟩ := sendAll_eq_ok hsend
    obtain ⟨bound, rfl⟩ : ∃ n, bound = n + 1 := ⟨bound - 1, by omega⟩
    refine ⟨ho', bound, by rw [hunread]; omega, ?_⟩
    rw [hrun, runHandshake_of_send hreceive hstep, bind_of_ok (transiently_of_ok hsend)]

/-- A handshake that fails with the transport loses it in the exchange. -/
theorem Awaits.losesTransport {bound : Nat} (hbefore : Awaits config h₀ c₀ h c)
    (hbound : c.stream.unread.length < 5 * bound) (ht : e.isTransport = true)
    (hrun : runHandshake bound h c = .error e c') :
    ∃ i, e = .connection (.transient i) ∧ LosesTransport config h₀ c₀ i c' := by
  induction bound generalizing h c with
  | zero => omega
  | succ bound ih =>
    obtain hreceive | ⟨m, c₁, hreceive, hrun⟩ := bind_eq_error.mp hrun
    · obtain ⟨i, rfl, hlost⟩ := transiently_eq_error breaksOff_of_receive ht hreceive
      exact ⟨i, rfl, .awaiting hbefore hlost⟩
    replace hreceive := transiently_eq_ok hreceive
    obtain hstep | ⟨⟨step, h₁⟩, c₂, hstep, hrun⟩ := bind_eq_error.mp hrun
    · rw [isTransport_of_handshakeStep hstep] at ht
      cases ht
    obtain ⟨-, hless⟩ := length_unread_of_step hbefore.exists_bound.1 hreceive hstep
    cases step with
    | wait => exact ih (.waited hbefore hreceive hstep) (by omega) hrun
    | send reply =>
      obtain hsend | ⟨⟨⟩, c₃, hsend, hrun⟩ := bind_eq_error.mp hrun
      · obtain ⟨i, rfl, hlost⟩ := transiently_eq_error breaksOff_of_sendAll ht hsend
        exact ⟨i, rfl, .answering hbefore hreceive hstep hlost⟩
      · replace hsend := transiently_eq_ok hsend
        exact ih (.answered hbefore hreceive hstep hsend)
          (by rw [(sendAll_eq_ok hsend).2.2.1]; omega) hrun
    | ready => cases hrun

/-- The start of a connection that fails with the transport loses it in the exchange. -/
theorem losesTransport_of_startUp (ht : e.isTransport = true)
    (hstart : startUp config h₀ c₀ = .error e c') :
    ∃ i, e = .connection (.transient i) ∧ LosesTransport config h₀ c₀ i c' := by
  rw [startUp_eq] at hstart
  obtain hexchange | ⟨h, c, -, hadopt⟩ := bind_eq_error.mp hstart
  · obtain hsend | ⟨⟨⟩, c, hsend, hrun⟩ := bind_eq_error.mp hexchange
    · obtain ⟨i, rfl, hlost⟩ := transiently_eq_error breaksOff_of_sendAll ht hsend
      exact ⟨i, rfl, .announcing hlost⟩
    · have hlength := c.stream.length_unread_le
      exact (Awaits.announced (transiently_eq_ok hsend)).losesTransport (by omega) ht hrun
  · rw [isTransport_of_adopt hadopt] at ht
    cases ht

/-- The start of a connection never fails with the bare failure of the transport. -/
theorem startUp_ne_io {i : IoError} : startUp config h₀ c₀ ≠ .error (.io i) c' := by
  intro hstart
  obtain ⟨_, heq, -⟩ := losesTransport_of_startUp rfl hstart
  cases heq

end Connection

end GelClient
