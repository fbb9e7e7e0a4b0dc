import GelClient.Connection.Connector
import GelClient.Proofs.Connection.Stream
import Mathlib.Data.List.Induction

/-!
# Cycles stay in step

Every command of a client is followed by one `Sync`, and every cycle of the server ends with one
`ReadyForCommand`. `Connection.InStep` says of two states of a connection that between them as many of
the ones were written as of the others were read, and that nothing waits to be written. Actions that
do not touch the stream are in step, sequences of actions in step are, and a command with its cycle is:
it either reads the cycle to its end or fails with the transport or the protocol. After such a failure
a connection is not used any more.
-/

namespace GelClient

namespace ClientMessage

/-- Whether a message has the size that it is announced with. -/
def isWhole (m : ClientMessage) : Bool :=
  m.body.length == m.announcedSize.toNat

end ClientMessage

namespace Stream

/-- Messages are buffered one behind the other if all of them have the announced size. -/
theorem foldlM_send? (ms : List ClientMessage) (s : Stream) :
    ms.foldlM send? s =
      if ms.all ClientMessage.isWhole then
        some { s with output := s.output ++ ms.flatMap ClientMessage.toBytes }
      else none := by
  induction ms generalizing s with
  | nil => simp
  | cons m ms ih =>
    rw [List.foldlM_cons, send?, ClientMessage.write?, List.all_cons, ClientMessage.isWhole]
    by_cases hm : m.body.length = m.announcedSize.toNat
    · simp [hm, ih]
    · simp [hm]

end Stream

namespace Connection

open Actions

/-- Between two states of a connection the client ended as many cycles as the server did, and all was
written. -/
def InStep (c c' : Connection) : Prop :=
  ∃ (written : List ClientMessage) (frames : List Frame),
    c'.stream.socket.sent = c.stream.socket.sent ++ written.flatMap ClientMessage.toBytes ∧
      (∀ m ∈ written, m.isWhole = true) ∧
      c.stream.unread = frames.flatMap Frame.toBytes ++ c'.stream.unread ∧
      written.count .sync = frames.countP Frame.isReady ∧ c'.stream.output = []

/-- A connection with the same stream and nothing to write is in step. -/
theorem inStep_of_stream_eq {c c' : Connection} (h : c'.stream = c.stream) (ho : c.stream.output = []) :
    InStep c c' :=
  ⟨[], [], by simp [h], by simp, by simp [h], rfl, by rw [h, ho]⟩

/-- Steps can be put together. -/
theorem InStep.trans {c c' c'' : Connection} (h : InStep c c') (h' : InStep c' c'') : InStep c c'' := by
  obtain ⟨written, frames, hsent, hwhole, hunread, hcount, -⟩ := h
  obtain ⟨written', frames', hsent', hwhole', hunread', hcount', houtput⟩ := h'
  refine ⟨written ++ written', frames ++ frames', ?_, ?_, ?_, ?_, houtput⟩
  · rw [hsent', hsent, List.flatMap_append, List.append_assoc]
  · intro m hm
    exact (List.mem_append.mp hm).elim (hwhole m) (hwhole' m)
  · rw [hunread, hunread', List.flatMap_append, List.append_assoc]
  · rw [List.count_append, List.countP_append, hcount, hcount']

/-- After a step nothing waits to be written. -/
theorem InStep.output_eq {c c' : Connection} (h : InStep c c') : c'.stream.output = [] := by
  obtain ⟨_, _, -, -, -, -, houtput⟩ := h
  exact houtput

variable {α β : Type}

/-- An action that touches neither the stream nor the use of the connection. -/
structure IsQuiet (x : Action α) : Prop where
  ok {c c' : Connection} {a : α} : x c = .ok a c' →
    c'.stream = c.stream ∧ c'.isConnected = c.isConnected
  error {c c' : Connection} {e : Cause} : x c = .error e c' →
    c'.stream = c.stream ∧ c'.isConnected = c.isConnected

/-- A result without an action is quiet. -/
theorem isQuiet_pure (a : α) : IsQuiet (pure a : Action α) where
  ok h := by cases h; exact ⟨rfl, rfl⟩
  error h := by cases h

/-- A failure without an action is quiet. -/
theorem isQuiet_throw (e : Cause) : IsQuiet (throw e : Action α) where
  ok h := by cases h
  error h := by cases h; exact ⟨rfl, rfl⟩

/-- Reading the state is quiet. -/
theorem isQuiet_get : IsQuiet (get : Action Connection) where
  ok h := by cases h; exact ⟨rfl, rfl⟩
  error h := by cases h

/-- A change of other parts of the state is quiet. -/
theorem isQuiet_modify {g : Connection → Connection} (hstream : ∀ c, (g c).stream = c.stream)
    (hconnected : ∀ c, (g c).isConnected = c.isConnected) : IsQuiet (modify g : Action PUnit) where
  ok h := by cases h; exact ⟨hstream _, hconnected _⟩
  error h := by cases h

/-- A sequence of quiet actions is quiet. -/
theorem isQuiet_bind {x : Action α} {f : α → Action β} (hx : IsQuiet x) (hf : ∀ a, IsQuiet (f a)) :
    IsQuiet (x >>= f) where
  ok h := by
    obtain ⟨a, c₁, hxa, hfa⟩ := bind_eq_ok.mp h
    obtain ⟨hstream, hconnected⟩ := (hf a).ok hfa
    exact ⟨hstream.trans (hx.ok hxa).1, hconnected.trans (hx.ok hxa).2⟩
  error h := by
    obtain hxe | ⟨a, c₁, hxa, hfa⟩ := bind_eq_error.mp h
    · exact hx.error hxe
    · obtain ⟨hstream, hconnected⟩ := (hf a).error hfa
      exact ⟨hstream.trans (hx.ok hxa).1, hconnected.trans (hx.ok hxa).2⟩

/-- What is done with the codecs is quiet. -/
theorem isQuiet_onRegistry (x : CodecRegistry.Action α) : IsQuiet (onRegistry x) where
  ok h := by
    unfold onRegistry at h
    split at h <;> cases h
    exact ⟨rfl, rfl⟩
  error h := by
    unfold onRegistry at h
    split at h <;> cases h
    exact ⟨rfl, rfl⟩

/-- The result of a codec is quiet. -/
theorem isQuiet_ofCodec (r : Except CodecError α) : IsQuiet (ofCodec r) := by
  cases r with
  | ok a => exact isQuiet_pure a
  | error e => exact isQuiet_throw _

/-- Adopting a state of the session is quiet. -/
theorem isQuiet_applyState (d : StateDataDescription) : IsQuiet (applyState d) := by
  refine isQuiet_bind isQuiet_get fun c => isQuiet_bind (isQuiet_onRegistry _) fun codec => ?_
  have hadopt (data : Bytes) : IsQuiet
      (modify fun c => { c with session := { typeId := d.typeId, data } } : Action PUnit) :=
    isQuiet_modify (fun _ => rfl) (fun _ => rfl)
  cases codec with
  | null => exact isQuiet_bind (isQuiet_pure _) hadopt
  | _ => exact isQuiet_bind (isQuiet_ofCodec _) hadopt

/-- Remembering a description is quiet. -/
theorem isQuiet_applyDescription (key : UInt64) (d : CommandDataDescription) :
    IsQuiet (applyDescription key d) :=
  isQuiet_bind isQuiet_get fun _ => isQuiet_bind (isQuiet_onRegistry _) fun _ =>
    isQuiet_bind (isQuiet_onRegistry _) fun _ =>
      isQuiet_bind (isQuiet_modify (fun _ => rfl) (fun _ => rfl)) fun _ => isQuiet_pure _

/-- A quiet action has touched neither of them wherever it ends. -/
theorem IsQuiet.final {x : Action α} (hx : IsQuiet x) (c : Connection) :
    (Actions.final (x c)).stream = c.stream ∧ (Actions.final (x c)).isConnected = c.isConnected := by
  cases h : x c with
  | ok a c' => exact hx.ok h
  | error e c' => exact hx.error h

/-- A message of a cycle, and the connection that takes it. -/
structure Received where
  connection : Connection
  message : ServerMessage

/-- The connection once a message of a cycle was taken: what is described is built, as far as that is
possible, and nothing else changes. -/
def Received.after (q : Query) (x : Received) : Connection :=
  match x.message with
  | .commandDataDescription d => final (applyDescription q.key d x.connection)
  | .stateDataDescription d => final (applyState d x.connection)
  | _ => x.connection

/-- The reply once a message of a cycle was taken. -/
def Reply.next (command : Command) (q : Query) (r : Reply) (x : Received) : Reply :=
  match absorb command q r x.message x.connection with
  | .ok r _ => r
  | .error _ _ => r

/-- What follows on the outcome of an action goes on from its result or from its failure. -/
theorem outcome_bind_apply (x : Action α) (f : Except Cause α → Action β)
    (c : Connection) : (outcome x >>= f) c =
      match x c with
      | .ok a c => f (.ok a) c
      | .error e c => f (.error e) c := by
  cases h : x c with
  | ok a c' => exact bind_of_ok (by rw [outcome, h])
  | error e c' => exact bind_of_ok (by rw [outcome, h])

/-- A description that is taken is adopted, or its failure is recorded. -/
theorem absorb_description (command : Command) (q : Query) (r : Reply) (d : CommandDataDescription)
    (c : Connection) : absorb command q r (.commandDataDescription d) c =
      match applyDescription q.key d c with
      | .ok p c => .ok (r.adopt p) c
      | .error e c => .ok (r.record e) c :=
  (outcome_bind_apply _ _ c).trans (by cases applyDescription q.key d c <;> rfl)

/-- A state of the session that is described leaves no trace in the reply, but for its failure. -/
theorem absorb_state (command : Command) (q : Query) (r : Reply) (d : StateDataDescription)
    (c : Connection) : absorb command q r (.stateDataDescription d) c =
      match applyState d c with
      | .ok _ c => .ok r c
      | .error e c => .ok (r.record e) c :=
  (outcome_bind_apply _ _ c).trans (by cases applyState d c <;> rfl)

/-- A message before the end of a cycle is taken, whatever comes of it. -/
theorem absorb_apply (command : Command) (q : Query) (r : Reply) (x : Received) :
    absorb command q r x.message x.connection = .ok (r.next command q x) (x.after q) := by
  rw [Reply.next]
  obtain ⟨c, m⟩ := x
  cases m with
  | commandDataDescription d =>
    rw [absorb_description, Received.after]
    dsimp only
    cases applyDescription q.key d c <;> rfl
  | stateDataDescription d =>
    rw [absorb_state, Received.after]
    dsimp only
    cases applyState d c <;> rfl
  | _ => cases command <;> rfl

/-- Taking a message touches neither the stream nor the use of the connection. -/
theorem Received.after_stream (q : Query) (x : Received) :
    (x.after q).stream = x.connection.stream ∧ (x.after q).isConnected = x.connection.isConnected := by
  obtain ⟨c, m⟩ := x
  cases m with
  | commandDataDescription d => exact (isQuiet_applyDescription q.key d).final c
  | stateDataDescription d => exact (isQuiet_applyState d).final c
  | _ => exact ⟨rfl, rfl⟩

/-- An action on the stream succeeds as it does there. -/
theorem onStream_eq_ok {x : Stream.Action α} {c c' : Connection} {a : α}
    (h : onStream x c = .ok a c') : ∃ s, x c.stream = .ok a s ∧ c' = { c with stream := s } := by
  unfold onStream at h
  split at h
  next b s hx =>
    cases h
    exact ⟨s, hx, rfl⟩
  next => cases h

/-- An action on the stream fails as it does there. -/
theorem onStream_eq_error {x : Stream.Action α} {c c' : Connection} {e : Cause}
    (h : onStream x c = .error e c') : ∃ s, x c.stream = .error e s := by
  unfold onStream at h
  split at h
  next => cases h
  next e' s hx =>
    cases h
    exact ⟨s, hx⟩

/-- Messages that have the announced size are buffered and flushed. With any other message among them the
program stops. -/
theorem sendAll_apply (ms : List ClientMessage) (c : Connection) :
    sendAll ms c =
      if ms.all ClientMessage.isWhole then
        onStream Stream.flush { c with
          stream := { c.stream with output := c.stream.output ++ ms.flatMap ClientMessage.toBytes } }
      else .error .misannounced c := by
  rw [sendAll, get_bind_apply, Stream.foldlM_send?]
  split
  · rfl
  · rfl

/-- Sending writes the messages behind what waited to be written. They have the announced size. -/
theorem sendAll_eq_ok {ms : List ClientMessage} {c c' : Connection} (h : sendAll ms c = .ok () c') :
    c'.stream.socket.sent = c.stream.socket.sent ++
        (c.stream.output ++ ms.flatMap ClientMessage.toBytes) ∧
      c'.stream.output = [] ∧ c'.stream.unread = c.stream.unread ∧
      c'.isConnected = c.isConnected ∧ ∀ m ∈ ms, m.isWhole = true := by
  rw [sendAll_apply] at h
  split at h
  next hwhole =>
    obtain ⟨s, hflush, rfl⟩ := onStream_eq_ok h
    obtain ⟨hsent, houtput, hunread⟩ := Stream.flush_eq_ok hflush
    exact ⟨hsent, houtput, hunread, rfl, List.all_eq_true.mp hwhole⟩
  next => cases h

/-- Sending fails only with the transport, or the program stops before anything is sent. -/
theorem sendAll_eq_error {ms : List ClientMessage} {c c' : Connection} {e : Cause}
    (h : sendAll ms c = .error e c') : e.breaksOff = true ∨ e = .misannounced ∧ c' = c := by
  rw [sendAll_apply] at h
  split at h
  next =>
    obtain ⟨s, hflush⟩ := onStream_eq_error h
    exact .inl (Stream.breaksOff_of_flush hflush)
  next =>
    cases h
    exact .inr ⟨rfl, rfl⟩

/-- The message that ends a cycle is the only one of its kind. -/
theorem readCycle_step (command : Command) (q : Query) (bound : Nat) (r : Reply) (m : ServerMessage)
    (c c' : Connection) (h : receive c = .ok m c') :
    (m.kind = .readyForCommand ∧ ∃ state,
        readCycle command q (bound + 1) r c = .ok r { c' with transactionState := state }) ∨
      (m.kind ≠ .readyForCommand ∧ ∃ r' c'', c''.stream = c'.stream ∧
        c''.isConnected = c'.isConnected ∧
        readCycle command q (bound + 1) r c = readCycle command q bound r' c'') := by
  rw [readCycle, bind_of_ok h]
  cases m with
  | readyForCommand ready => exact .inl ⟨rfl, ready.transactionState, rfl⟩
  | _ =>
    obtain ⟨hstream, hconnected⟩ := Received.after_stream q ⟨c', _⟩
    exact .inr ⟨nofun, _, _, hstream, hconnected, bind_of_ok (absorb_apply command q r ⟨c', _⟩)⟩

/-- A cycle that is read to its end takes one frame that ends a cycle, its last one. -/
theorem readCycle_eq_ok {command : Command} {q : Query} {bound : Nat} {r r' : Reply}
    {c c' : Connection} (ho : c.stream.output = []) (h : readCycle command q bound r c = .ok r' c') :
    (∃ frames, Stream.Takes c.stream c'.stream frames ∧ frames.countP Frame.isReady = 1) ∧
      c'.isConnected = c.isConnected := by
  induction bound generalizing c r with
  | zero => cases h
  | succ bound ih =>
    cases hm : receive c with
    | error e c₁ =>
      rw [readCycle, bind_of_error hm] at h
      cases h
    | ok m c₁ =>
      obtain ⟨s, hs, rfl⟩ := onStream_eq_ok hm
      obtain ⟨frames, htakes, hmessages⟩ := Stream.takes_of_receive ho hs
      have hcount : frames.countP Frame.isReady = if m.kind == .readyForCommand then 1 else 0 :=
        (Stream.countP_isReady hmessages).trans List.countP_singleton
      obtain ⟨hkind, state, heq⟩ | ⟨hkind, r₂, c₂, hstream, hconnected, heq⟩ :=
        readCycle_step command q bound r m c _ hm
      · rw [heq] at h
        cases h
        refine ⟨⟨frames, htakes, ?_⟩, rfl⟩
        rw [hcount, if_pos (beq_iff_eq.mpr hkind)]
      · rw [heq] at h
        have hnext : Stream.Takes c.stream c₂.stream frames := by rwa [hstream]
        obtain ⟨⟨more, hmore, hone⟩, hconnected'⟩ := ih (hnext.output_eq.trans ho) h
        refine ⟨⟨frames ++ more, hnext.trans hmore, ?_⟩, hconnected'.trans hconnected⟩
        rw [List.countP_append, hone, hcount, if_neg (mt beq_iff_eq.mp hkind)]

/-- A cycle that is not read to its end breaks off with the transport or the protocol. -/
theorem breaksOff_of_readCycle {command : Command} {q : Query} {bound : Nat} {r : Reply}
    {c c' : Connection} {e : Cause} (h : readCycle command q bound r c = .error e c') :
    e.breaksOff = true := by
  induction bound generalizing c r with
  | zero =>
    cases h
    rfl
  | succ bound ih =>
    cases hm : receive c with
    | error e₁ c₁ =>
      rw [readCycle, bind_of_error hm] at h
      cases h
      obtain ⟨s, hs⟩ := onStream_eq_error hm
      exact Stream.breaksOff_of_receive hs
    | ok m c₁ =>
      obtain ⟨hkind, state, heq⟩ | ⟨hkind, r₂, c₂, -, -, heq⟩ :=
        readCycle_step command q bound r m c _ hm
      · rw [heq] at h
        cases h
      · rw [heq] at h
        exact ih h

/-- An action that stays in step with the server, unless it fails with the transport or the
protocol. -/
structure StaysInStep (x : Action α) : Prop where
  ok {c c' : Connection} {a : α} : c.stream.output = [] → x c = .ok a c' →
    InStep c c' ∧ c'.isConnected = c.isConnected
  error {c c' : Connection} {e : Cause} : c.stream.output = [] → x c = .error e c' →
    e.breaksOff = true ∨ InStep c c' ∧ c'.isConnected = c.isConnected

/-- A quiet action stays in step. -/
theorem staysInStep_of_isQuiet {x : Action α} (hx : IsQuiet x) : StaysInStep x where
  ok ho h := ⟨inStep_of_stream_eq (hx.ok h).1 ho, (hx.ok h).2⟩
  error ho h := .inr ⟨inStep_of_stream_eq (hx.error h).1 ho, (hx.error h).2⟩

/-- A sequence of actions that stay in step does. -/
theorem staysInStep_bind {x : Action α} {f : α → Action β} (hx : StaysInStep x)
    (hf : ∀ a, StaysInStep (f a)) : StaysInStep (x >>= f) where
  ok ho h := by
    obtain ⟨a, c₁, hxa, hfa⟩ := bind_eq_ok.mp h
    obtain ⟨hfirst, hconnected⟩ := hx.ok ho hxa
    obtain ⟨hsecond, hconnected'⟩ := (hf a).ok hfirst.output_eq hfa
    exact ⟨hfirst.trans hsecond, hconnected'.trans hconnected⟩
  error ho h := by
    obtain hxe | ⟨a, c₁, hxa, hfa⟩ := bind_eq_error.mp h
    · exact hx.error ho hxe
    · obtain ⟨hfirst, hconnected⟩ := hx.ok ho hxa
      obtain hbreaks | ⟨hsecond, hconnected'⟩ := (hf a).error hfirst.output_eq hfa
      · exact .inl hbreaks
      · exact .inr ⟨hfirst.trans hsecond, hconnected'.trans hconnected⟩

/-- A command with its cycle stays in step: behind the command one `Sync` is written, and the cycle
is read to the one frame that ends it. -/
theorem staysInStep_runCycle (command : Command) (q : Query) {message : ClientMessage}
    (hmessage : message ≠ .sync) (r : Reply) : StaysInStep (runCycle command q message r) where
  ok {c c'} r' ho h := by
    obtain ⟨⟨⟩, c₁, hsend, h⟩ := bind_eq_ok.mp h
    rw [get_bind_apply] at h
    obtain ⟨hsent, houtput, hunread, hconnected, hwhole⟩ := sendAll_eq_ok hsend
    obtain ⟨⟨frames, htakes, hcount⟩, hconnected'⟩ := readCycle_eq_ok houtput h
    rw [ho, List.nil_append] at hsent
    refine ⟨⟨[message, .sync], frames, ?_, hwhole, ?_, ?_, ?_⟩, hconnected'.trans hconnected⟩
    · rw [htakes.sent_eq, hsent]
    · rw [← hunread, htakes.unread_eq]
    · rw [hcount, List.count_cons_of_ne hmessage]
      rfl
    · rw [htakes.output_eq, houtput]
  error {c c'} _ ho h := by
    obtain hsend | ⟨⟨⟩, c₁, hsend, h⟩ := bind_eq_error.mp h
    · obtain hbreaks | ⟨-, rfl⟩ := sendAll_eq_error hsend
      · exact .inl hbreaks
      · exact .inr ⟨inStep_of_stream_eq rfl ho, rfl⟩
    · rw [get_bind_apply] at h
      exact .inl (breaksOff_of_readCycle h)

/-- Compiling a query stays in step. -/
theorem staysInStep_parse (q : Query) : StaysInStep (parse q) := by
  refine staysInStep_bind (staysInStep_of_isQuiet isQuiet_get) fun c => ?_
  have hmessage : ClientMessage.parse (c.request q) ≠ .sync := nofun
  refine staysInStep_bind (staysInStep_runCycle _ q hmessage _) fun r => staysInStep_of_isQuiet ?_
  split
  · exact isQuiet_throw _
  · exact isQuiet_pure _
  · exact isQuiet_throw _

/-- Getting at the codecs of a query looks into the cache and then goes on in step. -/
theorem prepare_eq (q : Query) (c : Connection) :
    ∃ x registry, StaysInStep x ∧ prepare q c = x { c with registry } := by
  cases hq : c.registry.query? c.version q.key with
  | mk cached registry =>
    rw [prepare, get_bind_apply, hq]
    dsimp only
    rw [set_bind_apply]
    cases cached with
    | some p => exact ⟨pure p, registry, staysInStep_of_isQuiet (isQuiet_pure p), rfl⟩
    | none =>
      dsimp only
      split
      · exact ⟨_, registry, staysInStep_of_isQuiet (isQuiet_pure _), rfl⟩
      · exact ⟨parse q, registry, staysInStep_parse q, rfl⟩

/-- Getting at the codecs of a query stays in step. -/
theorem staysInStep_prepare (q : Query) : StaysInStep (prepare q) where
  ok {c} _ _ ho h := by
    obtain ⟨x, registry, hx, hrun⟩ := prepare_eq q c
    rw [hrun] at h
    exact hx.ok (c := { c with registry }) ho h
  error {c} _ _ ho h := by
    obtain ⟨x, registry, hx, hrun⟩ := prepare_eq q c
    rw [hrun] at h
    exact hx.error (c := { c with registry }) ho h

/-- Running a query once stays in step. -/
theorem staysInStep_executeOnce (q : Query) : StaysInStep (executeOnce q) := by
  refine staysInStep_bind (staysInStep_prepare q) fun p =>
    staysInStep_bind (staysInStep_of_isQuiet (isQuiet_ofCodec _)) fun arguments =>
    staysInStep_bind (staysInStep_of_isQuiet isQuiet_get) fun c => ?_
  have hmessage : ClientMessage.execute (c.request q) p.inputId p.outputId arguments ≠ .sync := nofun
  refine staysInStep_bind (staysInStep_runCycle _ q hmessage _) fun r => staysInStep_of_isQuiet ?_
  split
  · exact isQuiet_throw _
  · exact isQuiet_pure _

/-- A failure of the transport or of the protocol leaves a connection unusable. -/
theorem breaksConnection_of_breaksOff {e : Cause} (h : e.breaksOff = true) :
    e.breaksConnection = true := by
  cases e <;> first | rfl | cases h

/-- A session out of date is found by the server, in a cycle that is read to its end. -/
theorem breaksOff_of_isStale {e : Cause} (h : isStale e = true) : e.breaksOff = false := by
  cases e <;> first | rfl | cases h

/-- Giving up fails with the cause, and leaves the connection unusable if the cause does. -/
theorem abandon_apply (e : Cause) (c : Connection) :
    (abandon e : Action α) c =
      .error e (if e.breaksConnection then { c with isConnected := false } else c) := by
  unfold abandon
  cases e.breaksConnection <;> rfl

/-- How a query ends: in step with the server, or with a failure of the transport or of the
protocol, after which the connection is not used any more. -/
inductive Ended (c : Connection) : EStateM.Result Cause Connection QueryResult → Prop
  | ok {r : QueryResult} {c' : Connection} : InStep c c' → c'.isConnected = c.isConnected →
      Ended c (.ok r c')
  | failed {e : Cause} {c' : Connection} : InStep c c' →
      c'.isConnected = (c.isConnected && !e.breaksConnection) → Ended c (.error e c')
  | broken {e : Cause} {c' : Connection} : e.breaksOff = true → c'.isConnected = false →
      Ended c (.error e c')

/-- A query may end after another one in step. -/
theorem Ended.after_inStep {c c' : Connection} {r : EStateM.Result Cause Connection QueryResult}
    (h : InStep c c') (hconnected : c'.isConnected = c.isConnected) (hr : Ended c' r) : Ended c r := by
  cases hr with
  | ok hstep hconnected' => exact .ok (h.trans hstep) (hconnected'.trans hconnected)
  | failed hstep hconnected' => exact .failed (h.trans hstep) (by rw [hconnected', hconnected])
  | broken hbreaks hconnected' => exact .broken hbreaks hconnected'

/-- A query that is given up after a failure has ended. -/
theorem ended_of_abandon {c c' : Connection} {e : Cause}
    (h : e.breaksOff = true ∨ InStep c c' ∧ c'.isConnected = c.isConnected) :
    Ended c (abandon e c') := by
  rw [abandon_apply]
  obtain hbreaks | ⟨hstep, hconnected⟩ := h
  · rw [if_pos (breaksConnection_of_breaksOff hbreaks)]
    exact .broken hbreaks rfl
  · by_cases hbreaks : e.breaksConnection = true
    · rw [if_pos hbreaks]
      exact .failed hstep (by rw [hbreaks]; simp)
    · rw [if_neg hbreaks]
      exact .failed hstep (by rw [hconnected, Bool.not_eq_true] at *; simp [hbreaks])

/-- What follows on one run of a query ends it, if it does so after a failure. -/
theorem ended_of_executeOnce (q : Query) {c : Connection} (ho : c.stream.output = [])
    {next : Except Cause QueryResult → Action QueryResult} (hok : ∀ r, next (.ok r) = pure r)
    (herror : ∀ e c', e.breaksOff = true ∨ InStep c c' ∧ c'.isConnected = c.isConnected →
      Ended c (next (.error e) c')) : Ended c ((outcome (executeOnce q) >>= next) c) := by
  cases h : executeOnce q c with
  | ok r c' =>
    have houtcome : outcome (executeOnce q) c = .ok (.ok r) c' := by simp only [outcome, h]
    obtain ⟨hstep, hconnected⟩ := (staysInStep_executeOnce q).ok ho h
    rw [bind_of_ok houtcome, hok]
    exact .ok hstep hconnected
  | error e c' =>
    have houtcome : outcome (executeOnce q) c = .ok (.error e) c' := by simp only [outcome, h]
    rw [bind_of_ok houtcome]
    exact herror e c' ((staysInStep_executeOnce q).error ho h)

/-- A query ends, however often it may be run again. -/
theorem ended_of_executeAgain (q : Query) (more : Nat) {c : Connection} (ho : c.stream.output = []) :
    Ended c (executeAgain q more c) := by
  induction more generalizing c with
  | zero => exact ended_of_executeOnce q ho (fun _ => rfl) fun e c' => ended_of_abandon
  | succ more ih =>
    refine ended_of_executeOnce q ho (fun _ => rfl) fun e c' herror => ?_
    dsimp only
    split
    next hstale =>
      rw [breaksOff_of_isStale hstale] at herror
      obtain ⟨hstep, hconnected⟩ := herror.resolve_left nofun
      exact (ih hstep.output_eq).after_inStep hstep hconnected
    next => exact ended_of_abandon herror

/-- A query on a connection in use ends. -/
theorem ended_of_execute (q : Query) {c : Connection} (hc : c.isConnected = true)
    (ho : c.stream.output = []) : Ended c (execute q c) := by
  rw [execute, get_bind_apply, if_pos hc]
  exact ended_of_executeAgain q 1 ho

/-- A query on a connection that is not used any more fails and writes nothing. -/
theorem execute_of_not_isConnected (q : Query) {c : Connection} (hc : c.isConnected = false) :
    execute q c = .error (.connection .closed) c := by
  rw [execute, get_bind_apply, hc]
  rfl

/-- The connection after a query, whatever came of it. -/
def after (c : Connection) (q : Query) : Connection :=
  final (execute q c)

/-- After a query the connection is in step, or it is not used any more. -/
theorem inStep_after {c : Connection} (ho : c.isConnected = true → c.stream.output = []) (q : Query)
    (h : (c.after q).isConnected = true) : c.isConnected = true ∧ InStep c (c.after q) := by
  cases hc : c.isConnected with
  | false =>
    rw [after, execute_of_not_isConnected q hc] at h
    exact nomatch h.symm.trans hc
  | true =>
    refine ⟨rfl, ?_⟩
    have hended := ended_of_execute q hc (ho hc)
    unfold after at h ⊢
    generalize execute q c = r at h hended
    cases hended with
    | ok hstep => exact hstep
    | failed hstep => exact hstep
    | broken _ hconnected => exact nomatch h.symm.trans hconnected

/-- After any number of queries a connection in use is in step since it started. -/
theorem inStep_foldl_after {c₀ : Connection} (ho : c₀.stream.output = []) (qs : List Query)
    (h : (qs.foldl after c₀).isConnected = true) : InStep c₀ (qs.foldl after c₀) := by
  induction qs using List.reverseRecOn with
  | nil => exact inStep_of_stream_eq rfl ho
  | append_singleton qs q ih =>
    rw [List.foldl_append, List.foldl_cons, List.foldl_nil] at h ⊢
    obtain ⟨hconnected, hstep⟩ := inStep_after (fun hc => (ih hc).output_eq) q h
    exact (ih hconnected).trans hstep

/-- A failure of the transport that is transient is a failure. -/
theorem transiently_eq_ok {x : Action α} {c c' : Connection} {a : α}
    (h : transiently x c = .ok a c') : x c = .ok a c' := by
  unfold transiently at h
  split at h
  · cases h
  · exact h

/-- A message that the handshake takes changes only the log of the connection. -/
theorem handshakeStep_eq_ok {h h' : Handshake} {m : ServerMessage} {step : HandshakeStep}
    {c c' : Connection} (hstep : handshakeStep h m c = .ok (step, h') c') :
    Handshake.onMessage m { h with log := [] } = .ok step h' ∧
      c' = { c with stream := { c.stream with log := c.stream.log ++ h'.log } } := by
  cases hm : Handshake.onMessage m { h with log := [] } with
  | ok step₁ h₁ =>
    simp only [handshakeStep, hm] at hstep
    cases hstep
    refine ⟨rfl, ?_⟩
    rw [← Stream.foldl_note]
  | error e h₁ =>
    simp only [handshakeStep, hm] at hstep
    cases hstep

/-- After the last message of the handshake nothing waits to be written. -/
theorem output_of_runHandshake {bound : Nat} {h h' : Handshake} {c c' : Connection}
    (hrun : runHandshake bound h c = .ok h' c') : c'.stream.output = [] := by
  induction bound generalizing h c with
  | zero => cases hrun
  | succ bound ih =>
    obtain ⟨m, c₁, hreceive, hrun⟩ := bind_eq_ok.mp hrun
    obtain ⟨⟨step, h₁⟩, c₂, hstep, hrun⟩ := bind_eq_ok.mp hrun
    obtain ⟨s, hs, rfl⟩ := onStream_eq_ok (transiently_eq_ok hreceive)
    cases step with
    | send reply =>
      obtain ⟨⟨⟩, c₃, -, hrun⟩ := bind_eq_ok.mp hrun
      exact ih hrun
    | wait => exact ih hrun
    | ready =>
      cases hrun
      have houtput := Stream.output_of_receive hs
      rw [(handshakeStep_eq_ok hstep).2]
      exact houtput

/-- A connection that has started is in use, and nothing waits to be written. -/
theorem startUp_eq_ok {config : Config} {h : Handshake} {c c' : Connection}
    (hstart : startUp config h c = .ok () c') :
    c'.stream.output = [] ∧ c'.isConnected = true := by
  obtain ⟨⟨⟩, c₁, -, hstart⟩ := bind_eq_ok.mp hstart
  rw [get_bind_apply] at hstart
  obtain ⟨h', c₂, hrun, hstart⟩ := bind_eq_ok.mp hstart
  have houtput := output_of_runHandshake hrun
  rw [modify_bind_apply] at hstart
  cases hd : h'.stateDescription with
  | none =>
    rw [hd] at hstart
    cases hstart
    exact ⟨houtput, rfl⟩
  | some d =>
    rw [hd] at hstart
    obtain ⟨hstream, hconnected⟩ := (isQuiet_applyState d).ok hstart
    exact ⟨by rw [hstream]; exact houtput, hconnected⟩

/-- A query that succeeds leaves the connection in use. -/
theorem isConnected_of_execute {q : Query} {c c' : Connection} {r : QueryResult}
    (ho : c.isConnected = true → c.stream.output = []) (h : execute q c = .ok r c') :
    c'.isConnected = true := by
  cases hc : c.isConnected with
  | false =>
    rw [execute_of_not_isConnected q hc] at h
    cases h
  | true =>
    have hended := ended_of_execute q hc (ho hc)
    rw [h] at hended
    cases hended with
    | ok _ hconnected => exact hconnected.trans hc

/-- A query that fails with the transport or the protocol leaves the connection unusable. -/
theorem not_isConnected_of_execute {q : Query} {c c' : Connection} {e : Cause}
    (ho : c.isConnected = true → c.stream.output = []) (h : execute q c = .error e c')
    (he : e.breaksOff = true) : c'.isConnected = false := by
  cases hc : c.isConnected with
  | false =>
    rw [execute_of_not_isConnected q hc] at h
    cases h
    exact hc
  | true =>
    have hended := ended_of_execute q hc (ho hc)
    rw [h] at hended
    cases hended with
    | failed _ hconnected =>
      rw [hconnected, breaksConnection_of_breaksOff he]
      exact Bool.and_false _
    | broken _ hconnected => exact hconnected

/-- Cycles never get out of step. A connection has started, over a socket that cuts the bytes of the
server in any way, and some queries were run on it. If it is in use, then since it started as many
`Sync` were written as frames that end a cycle were read, and nothing waits to be written. The next
query is in step as well, or the connection is not in use after it: a query that succeeds leaves it in
use, and one that fails with the transport or the protocol does not. On a connection that is not in
use every query fails and changes nothing. -/
theorem inStep_of_startUp {config : Config} {registry : CodecRegistry} {h : Handshake}
    {socket : Socket} {log : List LogEntry} {c₀ : Connection}
    (hstart : startUp config h (idle config registry socket log) = .ok () c₀) (qs : List Query) :
    let c := qs.foldl after c₀
    c₀.isConnected = true ∧
      (c.isConnected = true → InStep c₀ c) ∧
      (∀ q, (c.after q).isConnected = true → InStep c (c.after q)) ∧
      (∀ q r c', execute q c = .ok r c' → c'.isConnected = true) ∧
      (∀ q e c', execute q c = .error e c' → e.breaksOff = true → c'.isConnected = false) ∧
      (c.isConnected = false → ∀ q, execute q c = .error (.connection .closed) c) := by
  obtain ⟨houtput, hconnected⟩ := startUp_eq_ok hstart
  have hstep := inStep_foldl_after houtput qs
  have ho (hc : (qs.foldl after c₀).isConnected = true) := (hstep hc).output_eq
  exact ⟨hconnected, hstep, fun q hc => (inStep_after ho q hc).2,
    fun _ _ _ => isConnected_of_execute ho, fun _ _ _ => not_isConnected_of_execute ho,
    fun hc q => execute_of_not_isConnected q hc⟩

/-- A server that lets the client in and ends one cycle more, in two pieces. -/
def oneCycle : Socket :=
  { reads := [
      .data [0x52, 0, 0, 0, 8, 0, 0, 0, 0, 0x5A, 0, 0],
      .data [0, 7, 0, 0, 0x49, 0x5A, 0, 0, 0, 7, 0, 0, 0x49]] }

/-- A query without arguments and without a result. -/
def resultless : Query := { text := "select 1", format := .none }

/-- The end of a cycle. -/
def cycleEnd : Frame := { kind := 0x5A, body := [0, 0, 0x49] }

/-- The first query on a server that ends one cycle is in step: one `Sync` is written behind the command, and
one end of a cycle is read. The second query is not, and the third one is refused. -/
theorem inStep_of_startUp_oneCycle :
    ∃ c₀, startUp {} (.start .v1 "edgedb" "" "") (idle {} .empty oneCycle []) = .ok () c₀ ∧
      let c := c₀.after resultless
      let written : List ClientMessage := [.execute (c₀.request resultless) .nil .nil [], .sync]
      c.stream.socket.sent = c₀.stream.socket.sent ++ written.flatMap ClientMessage.toBytes ∧
        c₀.stream.unread = cycleEnd.toBytes ++ c.stream.unread ∧
        written.count .sync = 1 ∧ [cycleEnd].countP Frame.isReady = 1 ∧ InStep c₀ c ∧
        execute resultless (c.after resultless) = .error (.connection .closed) (c.after resultless) := by
  have hruns : (match startUp {} (.start .v1 "edgedb" "" "") (idle {} .empty oneCycle []) with
      | .ok _ c₀ =>
        let c := c₀.after resultless
        let written : List ClientMessage := [.execute (c₀.request resultless) .nil .nil [], .sync]
        decide (c.isConnected = true ∧ (c.after resultless).isConnected = false ∧
          c.stream.socket.sent = c₀.stream.socket.sent ++ written.flatMap ClientMessage.toBytes ∧
          c₀.stream.unread = cycleEnd.toBytes ++ c.stream.unread)
      | .error _ _ => false) = true := by decide +kernel
  cases hstart : startUp {} (.start .v1 "edgedb" "" "") (idle {} .empty oneCycle []) with
  | error e c =>
    rw [hstart] at hruns
    cases hruns
  | ok _ c₀ =>
    rw [hstart] at hruns
    obtain ⟨hfirst, hsecond, hsent, hunread⟩ := of_decide_eq_true hruns
    exact ⟨c₀, rfl, hsent, hunread, rfl, rfl, (inStep_of_startUp hstart [_]).2.1 hfirst,
      (inStep_of_startUp hstart [_, _]).2.2.2.2.2 hsecond _⟩

end Connection

end GelClient
