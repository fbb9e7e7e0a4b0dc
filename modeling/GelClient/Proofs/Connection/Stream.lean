import GelClient.Connection.Stream
import GelClient.Failure
import GelClient.Proofs.Protocol.Frame

/-!
# What a stream reads and writes

The bytes of the server are cut into frames, wherever the reads of the socket end, and the buffer of
the client is written as a whole or not at all without an error. `Stream.Takes` says which frames a
stream has taken off the bytes of the server between two of its states.
-/

namespace GelClient

/-- Whether a frame has the type byte of the message that ends a cycle. -/
def Frame.isReady (f : Frame) : Bool :=
  f.kind == MessageKind.readyForCommand.toByte

/-- What is delivered of a frame: the message that it holds or why it holds none, but nothing of a frame
that is only noted. -/
def Frame.message? (f : Frame) : Option (Except ProtocolError ServerMessage) :=
  match Stream.arrival f with
  | .message r => some r
  | .note _ => none

/-- Whether a cause is a failure of the transport or of the protocol. -/
def Cause.breaksOff : Cause → Bool
  | .io _ | .protocol _ => true
  | _ => false

/-- The bytes that an attempt to read brings. -/
def ReadOutcome.bytes : ReadOutcome → Bytes
  | .data bytes => bytes
  | _ => []

/-- Of an empty buffer nothing is written. -/
theorem Socket.writeAll_nil (patient : Bool) (writes : List WriteOutcome) :
    writeAll patient [] writes = ⟨.ready (.ok ()), [], [], writes⟩ := by
  cases writes <;> rfl

/-- A buffer that is written without an error is written as a whole. -/
theorem Socket.rest_of_writeAll {patient : Bool} {buffer : Bytes} {writes : List WriteOutcome}
    (h : (writeAll patient buffer writes).result = .ready (.ok ())) :
    (writeAll patient buffer writes).rest = [] := by
  induction writes generalizing buffer with
  | nil => rfl
  | cons outcome writes ih =>
    unfold writeAll at h ⊢
    split
    · rfl
    next hbuffer =>
      rw [if_neg hbuffer] at h
      cases outcome with
      | accepted count =>
        cases count with
        | zero => cases h
        | succ count => exact ih h
      | pending =>
        dsimp only at h ⊢
        split
        next hp =>
          rw [if_pos hp] at h
          exact ih h
        next hp =>
          rw [if_neg hp] at h
          cases h
      | failed e => cases h

namespace Stream

/-- The bytes of the server that belong to no frame yet, whether they arrived or are still to come. -/
def unread (s : Stream) : Bytes :=
  s.decoder.held ++ s.socket.reads.flatMap ReadOutcome.bytes

/-- Between two states some frames were taken off the bytes of the server, and nothing was written. -/
structure Takes (s s' : Stream) (frames : List Frame) : Prop where
  unread_eq : s.unread = frames.flatMap Frame.toBytes ++ s'.unread
  sent_eq : s'.socket.sent = s.socket.sent
  output_eq : s'.output = s.output

/-- Nothing is taken between a state and itself. -/
theorem Takes.refl (s : Stream) : Takes s s [] := ⟨rfl, rfl, rfl⟩

/-- What is taken between two states and then on to a third one comes in this order. -/
theorem Takes.trans {s s' s'' : Stream} {frames more : List Frame} (h : Takes s s' frames)
    (h' : Takes s' s'' more) : Takes s s'' (frames ++ more) := by
  refine ⟨?_, h'.sent_eq.trans h.sent_eq, h'.output_eq.trans h.output_eq⟩
  rw [h.unread_eq, h'.unread_eq, List.flatMap_append, List.append_assoc]

/-- A frame that is only noted does not end a cycle. -/
theorem isReady_of_arrival_note {f : Frame} {e : LogEntry} (h : arrival f = .note e) :
    f.isReady = false := by
  unfold arrival at h
  split at h
  next hkind =>
    rw [Frame.isReady, beq_eq_false_iff_ne]
    intro hf
    rw [hf, MessageKind.ofByte?_toByte] at hkind
    cases hkind
  · split at h
    next m hm =>
      rw [Frame.isReady, ← ServerMessage.toByte_kind_of_ofFrame hm]
      rfl
    · cases h

/-- A frame that is delivered holds its message. -/
theorem ofFrame_of_arrival {f : Frame} {r : Except ProtocolError ServerMessage}
    (h : arrival f = .message r) : ServerMessage.ofFrame f = r := by
  unfold arrival at h
  split at h
  · cases h
  · split at h
    · cases h
    · exact Arrival.message.inj h

/-- A frame ends a cycle exactly if its message does. -/
theorem isReady_of_arrival {f : Frame} {m : ServerMessage} (h : arrival f = .message (.ok m)) :
    f.isReady = (m.kind == .readyForCommand) := by
  rw [Frame.isReady, ← ServerMessage.toByte_kind_of_ofFrame (ofFrame_of_arrival h)]
  cases m.kind <;> decide

/-- Decoding takes the frame that it gives. -/
theorem takes_of_decode {s s' : Stream} (frame : Option Frame)
    (h : s.decoder.decode = (.ok frame, s'.decoder)) (hsocket : s'.socket = s.socket)
    (houtput : s'.output = s.output) : Takes s s' frame.toList := by
  refine ⟨?_, by rw [hsocket], houtput⟩
  rw [unread, unread, FrameDecoder.held_of_decode h, hsocket]
  cases frame <;> simp

/-- Among frames of which some messages are delivered those that end a cycle are counted with their
messages. -/
theorem countP_isReady {frames : List Frame} {ms : List ServerMessage}
    (h : frames.filterMap Frame.message? = ms.map .ok) :
    frames.countP Frame.isReady = ms.countP (·.kind == .readyForCommand) := by
  induction frames generalizing ms with
  | nil =>
    obtain rfl := List.map_eq_nil_iff.mp h.symm
    rfl
  | cons f frames ih =>
    rw [List.filterMap_cons, Frame.message?] at h
    rw [List.countP_cons]
    cases hf : arrival f with
    | note e =>
      rw [hf] at h
      rw [isReady_of_arrival_note hf, ih h]
      rfl
    | message r =>
      rw [hf] at h
      dsimp only at h
      cases ms with
      | nil => cases h
      | cons m ms =>
        obtain ⟨rfl, hmessages⟩ := List.cons.inj h
        rw [isReady_of_arrival hf, ih hmessages, List.countP_cons]

/-- The frames up to the next message, or up to the end of what has arrived. -/
theorem takes_of_takeMessage {bound : Nat} {s s' : Stream} {r : Option ServerMessage}
    (h : takeMessage bound s = (r.map .ok, s')) :
    s'.socket = s.socket ∧
      ∃ frames, Takes s s' frames ∧ frames.filterMap Frame.message? = r.toList.map .ok := by
  induction bound generalizing s with
  | zero =>
    obtain ⟨hr, rfl⟩ := Prod.mk.inj h
    obtain rfl := Option.map_eq_none_iff.mp hr.symm
    exact ⟨rfl, [], .refl s, rfl⟩
  | succ bound ih =>
    unfold takeMessage at h
    cases hd : s.decoder.decode with
    | mk frame decoder =>
      simp only [hd] at h
      cases frame with
      | error e =>
        obtain ⟨hr, -⟩ := Prod.mk.inj h
        cases r <;> cases hr
      | ok frame =>
        cases frame with
        | none =>
          obtain ⟨hr, rfl⟩ := Prod.mk.inj h
          obtain rfl := Option.map_eq_none_iff.mp hr.symm
          exact ⟨rfl, [], takes_of_decode none hd rfl rfl, rfl⟩
        | some f =>
          dsimp only at h
          split at h
          next hf =>
            obtain ⟨hr, rfl⟩ := Prod.mk.inj h
            obtain ⟨m, rfl, rfl⟩ := Option.map_eq_some_iff.mp hr.symm
            refine ⟨rfl, [f], takes_of_decode (some f) hd rfl rfl, ?_⟩
            rw [List.filterMap_cons, Frame.message?, hf]
            rfl
          next e hf =>
            obtain ⟨hsocket, frames, htakes, hmessages⟩ := ih h
            have hone : Takes s (note { s with decoder } e) [f] := takes_of_decode (some f) hd rfl rfl
            refine ⟨hsocket, f :: frames, hone.trans htakes, ?_⟩
            rw [List.filterMap_cons, Frame.message?, hf, hmessages]

/-- What is taken without reading does not depend on the reads that are to come. -/
theorem Takes.withReads {s s' : Stream} {frames : List Frame} (h : Takes s s' frames)
    (hsocket : s'.socket = s.socket) (reads : List ReadOutcome) :
    Takes (s.withReads reads) (s'.withReads reads) frames := by
  obtain ⟨hunread, hsent, houtput⟩ := h
  refine ⟨?_, hsent, houtput⟩
  rw [unread, unread, hsocket, ← List.append_assoc] at hunread
  change s.decoder.held ++ reads.flatMap ReadOutcome.bytes =
    frames.flatMap Frame.toBytes ++ (s'.decoder.held ++ reads.flatMap ReadOutcome.bytes)
  rw [List.append_cancel_right hunread, List.append_assoc]

/-- Bytes that arrive were still to come. -/
theorem takes_feed (s : Stream) (bytes : Bytes) (reads : List ReadOutcome) :
    Takes (s.withReads (.data bytes :: reads)) ((s.feed bytes).withReads reads) [] := by
  refine ⟨?_, rfl, rfl⟩
  change s.decoder.held ++ (ReadOutcome.data bytes :: reads).flatMap ReadOutcome.bytes =
    (s.decoder.feed bytes).held ++ reads.flatMap ReadOutcome.bytes
  rw [FrameDecoder.held_feed, List.flatMap_cons, List.append_assoc]
  rfl

/-- The frames up to a message that has arrived already. -/
theorem takes_of_buffered {s s₁ s' : Stream} {r : Except ProtocolError ServerMessage}
    {m : ServerMessage} {reads : List ReadOutcome} (hb : s.buffered = (some r, s₁))
    (h : (Poll.ready (r.mapError Cause.protocol), s₁.withReads reads) = (.ready (.ok m), s')) :
    ∃ frames, Takes (s.withReads reads) s' frames ∧ frames.filterMap Frame.message? = [.ok m] := by
  obtain ⟨hr, rfl⟩ := Prod.mk.inj h
  cases r with
  | error e => cases hr
  | ok m' =>
    cases hr
    obtain ⟨hsocket, frames, htakes, hmessages⟩ := takes_of_takeMessage (r := some m) hb
    exact ⟨frames, htakes.withReads hsocket reads, hmessages⟩

/-- The frames up to a message, however the socket cuts them. -/
theorem takes_of_readMessage {patient : Bool} {reads : List ReadOutcome} {s s' : Stream}
    {m : ServerMessage} (h : readMessage patient reads s = (.ready (.ok m), s')) :
    ∃ frames, Takes (s.withReads reads) s' frames ∧ frames.filterMap Frame.message? = [.ok m] := by
  induction reads generalizing s with
  | nil =>
    unfold readMessage at h
    split at h
    next r s₁ hb => exact takes_of_buffered hb h
    next s₁ hb =>
      dsimp only at h
      split at h
      · cases h
      · split at h <;> cases h
  | cons outcome reads ih =>
    unfold readMessage at h
    split at h
    next r s₁ hb => exact takes_of_buffered hb h
    next s₁ hb =>
      obtain ⟨hsocket, frames, htakes, hmessages⟩ := takes_of_takeMessage (r := none) hb
      have hfirst := htakes.withReads hsocket (outcome :: reads)
      have hgo {s₂ : Stream} (hskip : Takes (s₁.withReads (outcome :: reads)) (s₂.withReads reads) [])
          (h : readMessage patient reads s₂ = (.ready (.ok m), s')) :
          ∃ frames, Takes (s.withReads (outcome :: reads)) s' frames ∧
            frames.filterMap Frame.message? = [.ok m] := by
        obtain ⟨more, hmore, hm⟩ := ih h
        refine ⟨frames ++ ([] ++ more), hfirst.trans (hskip.trans hmore), ?_⟩
        rw [List.filterMap_append, hmessages, List.nil_append, hm]
        rfl
      cases outcome with
      | data bytes =>
        cases bytes with
        | nil => cases h
        | cons b bytes => exact hgo (takes_feed s₁ (b :: bytes) reads) h
      | pending =>
        dsimp only at h
        split at h
        · exact hgo ⟨rfl, rfl, rfl⟩ h
        · cases h
      | failed e => cases h

/-- Reading fails only with the transport or the protocol. -/
theorem breaksOff_of_readMessage {patient : Bool} {reads : List ReadOutcome} {s s' : Stream}
    {e : Cause} (h : readMessage patient reads s = (.ready (.error e), s')) : e.breaksOff = true := by
  induction reads generalizing s with
  | nil =>
    unfold readMessage at h
    split at h
    next r s₁ hb =>
      cases r <;> cases h
      rfl
    next s₁ hb =>
      dsimp only at h
      split at h
      · cases h
        rfl
      · split at h <;> cases h
        rfl
  | cons outcome reads ih =>
    unfold readMessage at h
    split at h
    next r s₁ hb =>
      cases r <;> cases h
      rfl
    next s₁ hb =>
      cases outcome with
      | data bytes =>
        cases bytes with
        | nil =>
          cases h
          rfl
        | cons b bytes => exact ih h
      | pending =>
        dsimp only at h
        split at h
        · exact ih h
        · cases h
      | failed e =>
        cases h
        rfl

/-- A flush that comes to its end writes the whole buffer and touches nothing else. -/
theorem flushWith_eq_ok {patient : Bool} {s s' : Stream}
    (h : s.flushWith patient = (.ready (.ok ()), s')) :
    s'.socket.sent = s.socket.sent ++ s.output ∧ s'.output = [] ∧ s'.unread = s.unread := by
  have hall := s.flushWith_append patient
  obtain ⟨flushes, hs⟩ := s.exists_flushes_of_flushWith patient
  rw [h] at hall hs
  dsimp only at hall hs
  have hrest : s'.output = [] := by
    rw [hs]
    unfold flushWith at h
    split at h
    next t hwrite => exact Socket.rest_of_writeAll (congrArg Prod.fst hwrite)
    next r t hne _ =>
      obtain ⟨rfl, -⟩ := Prod.mk.inj h
      exact (hne rfl).elim
  rw [hrest, List.append_nil] at hall
  exact ⟨hall, hrest, by rw [hs]; rfl⟩

/-- In front of reading the buffer is empty or it is written. -/
theorem flushOutput_eq_ok {patient : Bool} {s s' : Stream}
    (h : s.flushOutput patient = (.ready (.ok ()), s')) :
    s'.socket.sent = s.socket.sent ++ s.output ∧ s'.output = [] ∧ s'.unread = s.unread := by
  unfold flushOutput at h
  split at h
  next hempty =>
    cases h
    have houtput := List.isEmpty_iff.mp hempty
    exact ⟨by rw [houtput, List.append_nil], houtput, rfl⟩
  next => exact flushWith_eq_ok h

/-- With an empty buffer nothing is done in front of reading. -/
theorem flushOutput_of_output_eq_nil {patient : Bool} {s : Stream} (h : s.output = []) :
    s.flushOutput patient = (.ready (.ok ()), s) :=
  if_pos (List.isEmpty_iff.mpr h)

/-- What is done in front of reading moves bytes from the buffer to the socket and adds none. -/
theorem flushOutput_append (patient : Bool) (s : Stream) :
    (s.flushOutput patient).2.socket.sent ++ (s.flushOutput patient).2.output =
      s.socket.sent ++ s.output := by
  unfold flushOutput
  split
  · rfl
  · exact s.flushWith_append patient

/-- Waiting for a result gives it. -/
theorem Action.await_eq_ok {α : Type} {poll : Stream → Poll (Except Cause α) × Stream} {s s' : Stream}
    {a : α} (h : Action.await poll s = .ok a s') : poll s = (.ready (.ok a), s') := by
  unfold await at h
  split at h
  next hp =>
    cases h
    exact hp
  · cases h
  · cases h

/-- Waiting for a result fails as the result does, or with silence. -/
theorem Action.await_eq_error {α : Type} {poll : Stream → Poll (Except Cause α) × Stream}
    {s s' : Stream} {e : Cause} (h : Action.await poll s = .error e s') :
    poll s = (.ready (.error e), s') ∨ e = .io .silence := by
  unfold await at h
  split at h
  · cases h
  next hp =>
    cases h
    exact .inl hp
  · cases h
    exact .inr rfl

/-- A flush writes the whole buffer and touches nothing else. -/
theorem flush_eq_ok {s s' : Stream} (h : flush s = .ok () s') :
    s'.socket.sent = s.socket.sent ++ s.output ∧ s'.output = [] ∧ s'.unread = s.unread := by
  have hp := Action.await_eq_ok h
  split at hp
  next r s₁ hf =>
    cases r with
    | error e => cases hp
    | ok _ =>
      cases hp
      exact flushWith_eq_ok hf
  · cases hp

/-- A flush fails only with the transport. -/
theorem breaksOff_of_flush {s s' : Stream} {e : Cause} (h : flush s = .error e s') :
    e.breaksOff = true := by
  obtain hp | rfl := Action.await_eq_error h
  · split at hp
    next r s₁ hf =>
      cases r with
      | error e =>
        cases hp
        rfl
      | ok _ => cases hp
    · cases hp
  · rfl

/-- With an empty buffer a message that is received takes its frame and those that are skipped before
it. -/
theorem takes_of_receive {s s' : Stream} {m : ServerMessage} (hs : s.output = [])
    (h : receive s = .ok m s') :
    ∃ frames, Takes s s' frames ∧ frames.filterMap Frame.message? = [.ok m] := by
  have hp := Action.await_eq_ok h
  rw [receiveWith, flushOutput_of_output_eq_nil hs] at hp
  exact takes_of_readMessage hp

/-- After a message was received the buffer is empty. -/
theorem output_of_receive {s s' : Stream} {m : ServerMessage} (h : receive s = .ok m s') :
    s'.output = [] := by
  have hp := Action.await_eq_ok h
  unfold receiveWith at hp
  split at hp
  next s₁ hf =>
    obtain ⟨frames, htakes, -⟩ := takes_of_readMessage hp
    rw [htakes.output_eq]
    exact (flushOutput_eq_ok hf).2.1
  · cases hp
  · cases hp

/-- Receiving fails only with the transport or the protocol. -/
theorem breaksOff_of_receive {s s' : Stream} {e : Cause} (h : receive s = .error e s') :
    e.breaksOff = true := by
  obtain hp | rfl := Action.await_eq_error h
  · unfold receiveWith at hp
    split at hp
    · exact breaksOff_of_readMessage hp
    · cases hp
      rfl
    · cases hp
  · rfl

/-- All that was written to the server, and what waits to be written behind it. -/
def outgoing (s : Stream) : Bytes :=
  s.socket.sent ++ s.output

/-- Looking at what has arrived writes nothing. -/
theorem outgoing_takeMessage (bound : Nat) (s : Stream) :
    (takeMessage bound s).2.outgoing = s.outgoing := by
  induction bound generalizing s with
  | zero => rfl
  | succ bound ih =>
    unfold takeMessage
    dsimp only
    split
    · rfl
    · rfl
    · split
      · rfl
      · exact ih _

/-- Reading writes nothing. -/
theorem outgoing_readMessage (patient : Bool) (reads : List ReadOutcome) (s : Stream) :
    (readMessage patient reads s).2.outgoing = s.outgoing := by
  have hbuffered {r : Option (Except ProtocolError ServerMessage)} {s s₁ : Stream}
      (hb : s.buffered = (r, s₁)) : s₁.outgoing = s.outgoing := by
    rw [← outgoing_takeMessage (s.decoder.buffer.length + 2) s]
    exact congrArg (fun b => outgoing b.2) hb.symm
  induction reads generalizing s with
  | nil =>
    unfold readMessage
    split
    next r s₁ hb => exact (hbuffered hb : s₁.outgoing = s.outgoing)
    next s₁ hb =>
      have hsame : s₁.outgoing = s.outgoing := hbuffered hb
      dsimp only
      split
      · exact hsame
      · split <;> exact hsame
  | cons outcome reads ih =>
    unfold readMessage
    split
    next r s₁ hb => exact (hbuffered hb : s₁.outgoing = s.outgoing)
    next s₁ hb =>
      have hsame : s₁.outgoing = s.outgoing := hbuffered hb
      cases outcome with
      | data bytes =>
        cases bytes with
        | nil => exact hsame
        | cons b bytes => exact (ih (s₁.feed (b :: bytes))).trans hsame
      | pending =>
        dsimp only
        split
        · exact (ih s₁).trans hsame
        · exact hsame
      | failed e => exact hsame

/-- Waiting for a result ends where the result is. -/
theorem Action.final_await {α : Type} (poll : Stream → Poll (Except Cause α) × Stream) (s : Stream) :
    Actions.final (Action.await poll s) = (poll s).2 := by
  unfold await
  split
  all_goals
    next hp => rw [hp]; rfl

/-- A flush moves bytes from the buffer to the server and adds none. -/
theorem outgoing_flush (s : Stream) : (Actions.final (flush s)).outgoing = s.outgoing := by
  have hflush := s.flushWith_append true
  rw [flush, Action.final_await]
  cases hf : s.flushWith true with
  | mk p s₁ =>
    rw [hf] at hflush
    cases p <;> exact hflush

/-- Receiving adds nothing to what is written. -/
theorem outgoing_receive (s : Stream) : (Actions.final (receive s)).outgoing = s.outgoing := by
  have hflush := s.flushOutput_append true
  rw [receive, Action.final_await, receiveWith]
  split
  next s₁ hf =>
    rw [hf] at hflush
    exact (outgoing_readMessage _ _ _).trans hflush
  all_goals
    next hf =>
      rw [hf] at hflush
      exact hflush

/-- Entries for the log are put behind those that are there. -/
theorem foldl_note (entries : List LogEntry) (s : Stream) :
    entries.foldl note s = { s with log := s.log ++ entries } := by
  induction entries generalizing s with
  | nil => simp
  | cons e entries ih =>
    rw [List.foldl_cons, ih, note]
    simp

end Stream

end GelClient
