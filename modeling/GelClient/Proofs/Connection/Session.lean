import GelClient.Proofs.Connection.Handshake
import GelClient.Proofs.Connection.Replies
import GelClient.Proofs.Schema.Retention

/-!
# The state of a session is never torn

With every command goes the state of the session: the type that the server described last and that could
be adopted, with the empty object of this type. `Course` lists, in order, what a connection sends and what
it takes while queries run on it. Along a course every command carries the state that was adopted last in
front of it; a description that cannot be adopted leaves the state as it was. A query runs its course once,
and a second time only if the server found the state out of date.
-/

namespace GelClient

/-- The state of the session that goes with a command. -/
def ClientMessage.session? : ClientMessage → Option SessionState
  | .parse r | .execute r .. => some ⟨r.stateTypeId, r.stateData⟩
  | _ => none

/-- The description of a state of the session that a message holds. -/
def ServerMessage.state? : ServerMessage → Option StateDataDescription
  | .stateDataDescription d => some d
  | _ => none

/-- The data of an empty state: the encoding of the empty object, or nothing for the type without data. -/
def Codec.emptyState : Codec → Except CodecError Bytes
  | .null => .ok []
  | codec => codec.encode (.object [])

namespace Connection

open Actions

/-- A state is adopted with the codec that is built for its type, which has to encode the empty object. -/
theorem applyState_apply (d : StateDataDescription) (c : Connection) : applyState d c =
    match CodecRegistry.build c.version d.typeId d.descriptors c.registry with
    | .error e registry => .error (.codec e) { c with registry }
    | .ok codec registry =>
      match codec.emptyState with
      | .error e => .error (.codec e) { c with registry }
      | .ok data => .ok () { c with registry, session := { typeId := d.typeId, data } } := by
  rw [applyState, get_bind_apply]
  cases hbuild : CodecRegistry.build c.version d.typeId d.descriptors c.registry with
  | error e registry =>
    have hregistry : onRegistry (CodecRegistry.build c.version d.typeId d.descriptors) c =
        .error (.codec e) { c with registry } := by rw [onRegistry, hbuild]
    exact bind_of_error hregistry
  | ok codec registry =>
    have hregistry : onRegistry (CodecRegistry.build c.version d.typeId d.descriptors) c =
        .ok codec { c with registry } := by rw [onRegistry, hbuild]
    rw [bind_of_ok hregistry]
    cases codec with
    | null => rfl
    | _ =>
      dsimp only [Codec.emptyState]
      cases Codec.encode _ (.object []) <;> rfl

/-- A state that is adopted has the type that was described, and the empty object of the codec that is built
for it. -/
theorem session_of_applyState {d : StateDataDescription} {c c' : Connection}
    (h : applyState d c = .ok () c') : c'.session.typeId = d.typeId ∧
      ∃ codec registry, CodecRegistry.build c.version d.typeId d.descriptors c.registry = .ok codec registry ∧
        codec.emptyState = .ok c'.session.data := by
  rw [applyState_apply] at h
  cases hbuild : CodecRegistry.build c.version d.typeId d.descriptors c.registry with
  | error e registry =>
    rw [hbuild] at h
    cases h
  | ok codec registry =>
    rw [hbuild] at h
    dsimp only at h
    cases hempty : codec.emptyState with
    | error e =>
      rw [hempty] at h
      cases h
    | ok data =>
      rw [hempty] at h
      cases h
      exact ⟨rfl, codec, registry, rfl, hempty⟩

/-- A state that cannot be adopted leaves the state as it was. -/
theorem session_of_applyState_error {d : StateDataDescription} {c c' : Connection} {e : Cause}
    (h : applyState d c = .error e c') : c'.session = c.session := by
  rw [applyState_apply] at h
  split at h
  · cases h
    rfl
  · split at h
    · cases h
      rfl
    · cases h

/-- What is done with the codecs leaves the state as it was. -/
theorem session_onRegistry {α : Type} (x : CodecRegistry.Action α) (c : Connection) :
    (final (onRegistry x c)).session = c.session := by
  unfold onRegistry
  cases x c.registry <;> rfl

/-- Remembering a description leaves the state as it was. -/
theorem session_applyDescription (key : UInt64) (d : CommandDataDescription) (c : Connection) :
    (final (applyDescription key d c)).session = c.session := by
  rw [applyDescription, get_bind_apply]
  refine final_bind (p := fun c' : Connection => c'.session = c.session) (session_onRegistry _ c) ?_
  intro input c₁ hinput
  have hc₁ := session_onRegistry (CodecRegistry.build c.version d.inputTypeId d.inputDescriptors) c
  rw [hinput] at hc₁
  refine final_bind (p := fun c' : Connection => c'.session = c.session)
    ((session_onRegistry _ c₁).trans hc₁) ?_
  intro output c₂ houtput
  have hc₂ := session_onRegistry (CodecRegistry.build c.version d.outputTypeId d.outputDescriptors) c₁
  rw [houtput] at hc₂
  exact Eq.trans hc₂ hc₁

/-- The state that a message brings, if it describes one and this one can be adopted. -/
def Received.adopted? (x : Received) : Option SessionState :=
  match x.message.state? with
  | some d =>
    match applyState d x.connection with
    | .ok _ c => some c.session
    | .error _ _ => none
  | none => none

/-- A message that is taken leaves the state that it brings, or else the one that was there. -/
theorem Received.session_after (q : Query) (x : Received) :
    (x.after q).session = x.adopted?.getD x.connection.session := by
  obtain ⟨c, m⟩ := x
  cases m with
  | commandDataDescription d => exact session_applyDescription q.key d c
  | stateDataDescription d =>
    rw [after, adopted?]
    dsimp only [ServerMessage.state?]
    cases h : applyState d c with
    | ok _ c' => rfl
    | error e c' => exact session_of_applyState_error h
  | _ => rfl

/-- What happens on a connection: a command is sent, with a `Sync` behind it, or a message of its cycle is
taken. -/
inductive Event where
  | command (m : ClientMessage)
  | taken (x : Received)

namespace Event

/-- The state that is adopted in an event. -/
def adopted? : Event → Option SessionState
  | command _ => none
  | taken x => x.adopted?

/-- Whether a query is sent to be run. -/
def isExecute : Event → Bool
  | command (.execute ..) => true
  | _ => false

/-- The bytes that are to be written. The program stops before it writes a command that has not the size that it is
announced with. -/
def bytes : Event → Bytes
  | command m => if m.isWhole then [m, .sync].flatMap ClientMessage.toBytes else []
  | taken _ => []

end Event

/-- The state that was adopted last in some events, or else the one that was there before. -/
def latest (s : SessionState) (events : List Event) : SessionState :=
  (events.filterMap Event.adopted?).getLast?.getD s

/-- The state that was adopted last, in events and then in more of them. -/
private theorem latest_append (s : SessionState) (events more : List Event) :
    latest s (events ++ more) = latest (latest s events) more := by
  rw [latest, List.filterMap_append, List.getLast?_append, latest, latest]
  cases (more.filterMap Event.adopted?).getLast? <;> rfl

/-- The state that was adopted last, in a single message. -/
private theorem latest_taken (s : SessionState) (x : Received) :
    latest s [.taken x] = x.adopted?.getD s := by
  rw [latest, List.filterMap_cons, Event.adopted?]
  cases x.adopted? <;> rfl

/-- A message is a command about a query, to compile it or to run it. -/
def IsCommand (c : Connection) (q : Query) (m : ClientMessage) : Prop :=
  m = .parse (c.request q) ∨
    ∃ inputId outputId arguments, m = .execute (c.request q) inputId outputId arguments

/-- The course of a connection on which queries run: it looks up what is known of a query, it is given up,
or it sends a command, which may fail, and takes all that is heard in its cycle. -/
inductive Course : Connection → List Event → Connection → Prop
  | done (c : Connection) : Course c [] c
  | lookedUp {c c' : Connection} {events : List Event} (q : Query) :
      Course { c with registry := (c.registry.query? c.version q.key).2 } events c' → Course c events c'
  | givenUp {c c' : Connection} {events : List Event} :
      Course { c with isConnected := false } events c' → Course c events c'
  | unsent {c c₁ c' : Connection} {q : Query} {m : ClientMessage} {e : Cause} {events : List Event} :
      c.IsCommand q m → sendAll [m, .sync] c = .error e c₁ → Course c₁ events c' →
      Course c (.command m :: events) c'
  | cycle {c c₁ c₂ c' : Connection} {q : Query} {m : ClientMessage} {xs : List Received}
      {ending : Except Cause ReadyForCommand} {events : List Event} :
      c.IsCommand q m → sendAll [m, .sync] c = .ok () c₁ → Hears q c₁ xs ending c₂ →
      Course c₂ events c' → Course c (.command m :: (xs.map .taken ++ events)) c'

/-- One course after another is a course. -/
theorem Course.trans {c c' c'' : Connection} {events more : List Event} (h : Course c events c')
    (h' : Course c' more c'') : Course c (events ++ more) c'' := by
  induction h with
  | done => exact h'
  | lookedUp q _ ih => exact .lookedUp q (ih h')
  | givenUp _ ih => exact .givenUp (ih h')
  | unsent hm hsend _ ih => exact .unsent hm hsend (ih h')
  | cycle hm hsend hears _ ih =>
    rw [List.cons_append, List.append_assoc]
    exact .cycle hm hsend hears (ih h')

/-- What holds along a course. All that is written are the commands; each carries the state that was adopted
last in front of it, and the last state of all is there at the end. -/
structure Carries (c : Connection) (events : List Event) (c' : Connection) : Prop where
  course : Course c events c'
  outgoing_eq : c'.stream.outgoing = c.stream.outgoing ++ events.flatMap Event.bytes
  command_eq : ∀ front m back, events = front ++ .command m :: back →
    m.session? = some (latest c.session front)
  session_eq : c'.session = latest c.session events

/-- What is written while a command is sent is this command with its `Sync`, and the state stays. -/
theorem final_sendAll (m : ClientMessage) (c : Connection) :
    (final (sendAll [m, .sync] c)).session = c.session ∧
      (final (sendAll [m, .sync] c)).stream.outgoing =
        c.stream.outgoing ++ Event.bytes (.command m) := by
  have hall : [m, .sync].all ClientMessage.isWhole = m.isWhole := by
    rw [List.all_cons, show [ClientMessage.sync].all ClientMessage.isWhole = true from rfl, Bool.and_true]
  rw [sendAll_apply, hall, Event.bytes]
  split
  next hwhole =>
    let s : Stream := { c.stream with
      output := c.stream.output ++ [m, .sync].flatMap ClientMessage.toBytes }
    have hflush : (final (Stream.flush s)).outgoing =
        c.stream.outgoing ++ [m, .sync].flatMap ClientMessage.toBytes := by
      rw [Stream.outgoing_flush, Stream.outgoing, Stream.outgoing, List.append_assoc]
    rw [onStream]
    cases hresult : Stream.flush s with
    | ok a s' =>
      rw [hresult] at hflush
      exact ⟨rfl, hflush⟩
    | error e s' =>
      rw [hresult] at hflush
      exact ⟨rfl, hflush⟩
  next => exact ⟨rfl, (List.append_nil _).symm⟩

/-- Sending leaves the state. -/
theorem session_of_sendAll {ms : List ClientMessage} {c c' : Connection} (h : sendAll ms c = .ok () c') :
    c'.session = c.session := by
  rw [sendAll_apply] at h
  split at h
  next =>
    obtain ⟨s, -, rfl⟩ := onStream_eq_ok h
    rfl
  next => cases h

/-- Receiving writes nothing more and leaves the state. -/
theorem final_receive (c : Connection) : (final (receive c)).session = c.session ∧
    (final (receive c)).stream.outgoing = c.stream.outgoing := by
  have hreceive := Stream.outgoing_receive c.stream
  rw [receive, onStream]
  cases hresult : Stream.receive c.stream with
  | ok a s =>
    rw [hresult] at hreceive
    exact ⟨rfl, hreceive⟩
  | error e s =>
    rw [hresult] at hreceive
    exact ⟨rfl, hreceive⟩

/-- What is heard leaves the state that was adopted last, and writes nothing. -/
theorem Hears.session {q : Query} {c c' : Connection} {xs : List Received}
    {ending : Except Cause ReadyForCommand} (h : Hears q c xs ending c') :
    c'.session = latest c.session (xs.map .taken) ∧ c'.stream.outgoing = c.stream.outgoing := by
  induction h with
  | @ready c c' ready hm | @lost c c' e hm =>
    obtain ⟨hsession, houtgoing⟩ := final_receive c
    rw [hm] at hsession houtgoing
    exact ⟨hsession, houtgoing⟩
  | @more c c₁ c' m xs ending hm hkind _ ih =>
    obtain ⟨hsession, houtgoing⟩ := final_receive c
    rw [hm] at hsession houtgoing
    obtain ⟨hrest, houtgoing'⟩ := ih
    rw [(Received.after_stream q _).1] at houtgoing'
    refine ⟨?_, houtgoing'.trans houtgoing⟩
    have hfirst : (Received.after q ⟨c₁, m⟩).session = latest c.session [.taken ⟨c₁, m⟩] := by
      rw [Received.session_after, latest_taken]
      exact congrArg _ hsession
    rw [hrest, hfirst, ← latest_append, List.map_cons]
    rfl

/-- A command carries the state that is there when it is sent. -/
theorem IsCommand.session?_eq {c : Connection} {q : Query} {m : ClientMessage} (h : c.IsCommand q m) :
    m.session? = some c.session := by
  obtain rfl | ⟨inputId, outputId, arguments, rfl⟩ := h <;> rfl

/-- A course that goes on carries what its parts carry. -/
theorem Carries.append {c c' c'' : Connection} {events more : List Event} (h : Carries c events c')
    (h' : Carries c' more c'') : Carries c (events ++ more) c'' where
  course := h.course.trans h'.course
  outgoing_eq := by
    rw [h'.outgoing_eq, h.outgoing_eq, List.flatMap_append, List.append_assoc]
  command_eq front m back hsplit := by
    obtain ⟨rest, hfront, hback⟩ | ⟨rest, hevents, hmore⟩ := List.append_eq_append_iff.mp hsplit
    · rw [hfront, h'.command_eq rest m back hback, h.session_eq, ← latest_append]
    · cases rest with
      | nil =>
        rw [List.append_nil] at hevents
        rw [h'.command_eq [] m back hmore.symm, h.session_eq, hevents]
        rfl
      | cons event rest =>
        obtain ⟨rfl, -⟩ := List.cons.inj hmore
        exact h.command_eq front m rest hevents
  session_eq := by rw [h'.session_eq, h.session_eq, latest_append]

/-- A command with the messages that are taken behind it carries the state that was there. -/
theorem carries_command {c c₁ : Connection} {q : Query} {m : ClientMessage} {xs : List Received}
    (hm : c.IsCommand q m) (hcourse : Course c (.command m :: xs.map .taken) c₁)
    (houtgoing : c₁.stream.outgoing = c.stream.outgoing ++ Event.bytes (.command m))
    (hsession : c₁.session = latest c.session (xs.map .taken)) :
    Carries c (.command m :: xs.map .taken) c₁ where
  course := hcourse
  outgoing_eq := by
    have htaken : (xs.map Event.taken).flatMap Event.bytes = [] := by
      rw [List.flatMap_map]
      exact List.flatMap_eq_nil_iff.mpr fun _ _ => rfl
    rw [houtgoing, List.flatMap_cons, htaken, List.append_nil]
  command_eq front m' back hsplit := by
    cases front with
    | nil =>
      obtain ⟨hcommand, -⟩ := List.cons.inj hsplit
      cases hcommand
      exact hm.session?_eq
    | cons event front =>
      obtain ⟨-, htaken⟩ := List.cons.inj hsplit
      have hmem : Event.command m' ∈ xs.map Event.taken := by
        rw [htaken]
        exact List.mem_append_right _ List.mem_cons_self
      obtain ⟨x, -, hx⟩ := List.mem_map.mp hmem
      cases hx
  session_eq := hsession

/-- Along every course each command carries the state that was adopted last. -/
theorem carries_of_course {c c' : Connection} {events : List Event} (h : Course c events c') :
    Carries c events c' := by
  induction h with
  | done c =>
    refine ⟨.done c, (List.append_nil _).symm, fun front m back hsplit => ?_, rfl⟩
    cases front <;> cases hsplit
  | lookedUp q _ ih => exact ⟨.lookedUp q ih.course, ih.outgoing_eq, ih.command_eq, ih.session_eq⟩
  | givenUp _ ih => exact ⟨.givenUp ih.course, ih.outgoing_eq, ih.command_eq, ih.session_eq⟩
  | @unsent c c₁ c' q m e events hm hsend _ ih =>
    obtain ⟨hsession, houtgoing⟩ := final_sendAll m c
    rw [hsend] at hsession houtgoing
    have hfirst : Carries c (.command m :: ([] : List Received).map .taken) c₁ :=
      carries_command hm (.unsent hm hsend (.done c₁)) houtgoing hsession
    exact hfirst.append ih
  | @cycle c c₁ c₂ c' q m xs ending events hm hsend hears _ ih =>
    obtain ⟨hsession, houtgoing⟩ := final_sendAll m c
    rw [hsend] at hsession houtgoing
    obtain ⟨hrest, hsame⟩ := hears.session
    have hcourse : Course c (.command m :: xs.map .taken) c₂ := by
      have := Course.cycle hm hsend hears (.done c₂)
      rwa [List.append_nil] at this
    have hfirst : Carries c (.command m :: xs.map .taken) c₂ :=
      carries_command hm hcourse (hsame.trans houtgoing) (hrest.trans (by rw [show c₁.session = c.session from hsession]))
    exact hfirst.append ih

/-- What comes of an action runs a course, on which at most some number of queries are sent to be run. -/
def Traced {α : Type} (c : Connection) (n : Nat) (r : EStateM.Result Cause Connection α) : Prop :=
  ∃ events, Course c events (final r) ∧ events.countP Event.isExecute ≤ n

variable {α β : Type}

/-- What changes nothing runs a course. -/
theorem traced_pure (c : Connection) (a : α) : Traced c 0 (.ok a c : EStateM.Result Cause Connection α) :=
  ⟨[], .done c, Nat.le_refl 0⟩

/-- What fails and changes nothing runs a course. -/
theorem traced_throw (c : Connection) (e : Cause) :
    Traced c 0 (.error e c : EStateM.Result Cause Connection α) :=
  ⟨[], .done c, Nat.le_refl 0⟩

/-- A sequence runs the courses of its actions. -/
theorem traced_bind {x : Action α} {f : α → Action β} {c : Connection} {n k : Nat}
    (hx : Traced c n (x c)) (hf : ∀ a c₁, x c = .ok a c₁ → Traced c₁ k (f a c₁)) :
    Traced c (n + k) ((x >>= f) c) := by
  obtain ⟨events, hcourse, hcount⟩ := hx
  cases h : x c with
  | ok a c₁ =>
    rw [h] at hcourse
    obtain ⟨more, hmore, hcount'⟩ := hf a c₁ h
    rw [bind_of_ok h]
    refine ⟨events ++ more, hcourse.trans hmore, ?_⟩
    rw [List.countP_append]
    omega
  | error e c₁ =>
    rw [h] at hcourse
    rw [bind_of_error h]
    exact ⟨events, hcourse, by omega⟩

/-- A command with its cycle runs a course, with one query to be run if it is such a command. -/
theorem traced_runCycle (command : Command) {c : Connection} {q : Query} {m : ClientMessage}
    (hm : c.IsCommand q m) (r : Reply) :
    Traced c ([Event.command m].countP Event.isExecute) (runCycle command q m r c) := by
  cases hsend : sendAll [m, .sync] c with
  | error e c₁ =>
    have hrun : runCycle command q m r c = .error e c₁ := bind_of_error hsend
    rw [hrun]
    exact ⟨_, .unsent hm hsend (.done c₁), Nat.le_refl _⟩
  | ok _ c₁ =>
    obtain ⟨xs, ending, c₂, hears⟩ := exists_hears q (sendAll_eq_ok hsend).2.1
    have hfinal (r : Reply) : final (r.ended ending c₂) = c₂ := by cases ending <;> rfl
    have htaken : (xs.map Event.taken).countP Event.isExecute = 0 := by
      rw [List.countP_eq_zero]
      intro event hevent
      obtain ⟨x, -, rfl⟩ := List.mem_map.mp hevent
      exact Bool.false_ne_true
    rw [runCycle_of_hears command hsend hears r, Traced, hfinal]
    refine ⟨_, .cycle hm hsend hears (.done c₂), ?_⟩
    rw [List.append_nil, List.countP_cons, htaken, List.countP_singleton]
    omega

/-- Compiling a query runs a course on which nothing is sent to be run. -/
theorem traced_parse (q : Query) (c : Connection) : Traced c 0 (parse q c) := by
  rw [parse, get_bind_apply]
  refine traced_bind (k := 0) (traced_runCycle .parse (.inl rfl) _) fun r c₁ _ => ?_
  cases r.failure with
  | some e => exact traced_throw c₁ e
  | none =>
    cases r.prepared with
    | some p => exact traced_pure c₁ p
    | none => exact traced_throw c₁ _

/-- Getting at the codecs of a query runs a course on which nothing is sent to be run. -/
theorem traced_prepare (q : Query) (c : Connection) : Traced c 0 (prepare q c) := by
  have hlooked {r : EStateM.Result Cause Connection PreparedQuery}
      (h : Traced { c with registry := (c.registry.query? c.version q.key).2 } 0 r) : Traced c 0 r := by
    obtain ⟨events, hcourse, hcount⟩ := h
    exact ⟨events, .lookedUp q hcourse, hcount⟩
  apply hlooked
  rw [prepare, get_bind_apply]
  cases c.registry.query? c.version q.key with
  | mk cached registry =>
    dsimp only
    rw [set_bind_apply]
    cases cached with
    | some p => exact traced_pure _ p
    | none =>
      dsimp only
      split
      · exact traced_pure _ _
      · exact traced_parse q _

/-- Running a query once runs a course on which it is sent to be run at most once. -/
theorem traced_executeOnce (q : Query) (c : Connection) : Traced c 1 (executeOnce q c) := by
  have hencode (r : Except CodecError Bytes) (c : Connection) : Traced c 0 (ofCodec r c) := by
    cases r with
    | ok bytes => exact traced_pure c bytes
    | error e => exact traced_throw c _
  refine traced_bind (n := 0) (k := 1) (traced_prepare q c) fun p c₁ _ => ?_
  refine traced_bind (n := 0) (k := 1) (hencode _ c₁) fun arguments c₂ _ => ?_
  rw [get_bind_apply]
  refine traced_bind (n := 1) (k := 0) (traced_runCycle .execute (.inr ⟨_, _, _, rfl⟩) _) fun r c₃ _ => ?_
  cases r.failure with
  | some e => exact traced_throw c₃ e
  | none => exact traced_pure c₃ _

/-- A query that is given up runs a course to its end. -/
theorem course_abandon (e : Cause) (c : Connection) :
    Course c [] (final (abandon e c : EStateM.Result Cause Connection QueryResult)) := by
  rw [abandon_apply]
  by_cases hbreaks : e.breaksConnection = true
  · rw [if_pos hbreaks]
    exact .givenUp (.done _)
  · rw [if_neg hbreaks]
    exact .done c

/-- A query that may not be run again runs its course once. -/
theorem traced_executeAgain_zero (q : Query) (c : Connection) : Traced c 1 (executeAgain q 0 c) := by
  obtain ⟨events, hcourse, hcount⟩ := traced_executeOnce q c
  rw [executeAgain, outcome_bind_apply]
  cases h : executeOnce q c with
  | ok r c₁ =>
    rw [h] at hcourse
    exact ⟨events, hcourse, hcount⟩
  | error e c₁ =>
    rw [h] at hcourse
    have hend := hcourse.trans (course_abandon e c₁)
    rw [List.append_nil] at hend
    exact ⟨events, hend, hcount⟩

/-- A query runs its course once, and a second time only if the server found the state out of date. -/
theorem courses_after (q : Query) (c : Connection) :
    ∃ first second c₁, Course c first c₁ ∧ Course c₁ second (c.after q) ∧
      first.countP Event.isExecute ≤ 1 ∧ second.countP Event.isExecute ≤ 1 ∧
      (second = [] ∨ ∃ e, executeOnce q c = .error e c₁ ∧ isStale e = true) := by
  rw [after]
  cases hconnected : c.isConnected with
  | false =>
    rw [execute_of_not_isConnected q hconnected]
    exact ⟨[], [], c, .done c, .done c, Nat.zero_le 1, Nat.zero_le 1, .inl rfl⟩
  | true =>
    obtain ⟨first, hfirst, hcount⟩ := traced_executeOnce q c
    rw [execute, get_bind_apply, if_pos hconnected, executeAgain, outcome_bind_apply]
    cases h : executeOnce q c with
    | ok r c₁ =>
      rw [h] at hfirst
      exact ⟨first, [], c₁, hfirst, .done c₁, hcount, Nat.zero_le 1, .inl rfl⟩
    | error e c₁ =>
      rw [h] at hfirst
      dsimp only
      by_cases hstale : isStale e = true
      · rw [if_pos hstale]
        obtain ⟨second, hsecond, hcount'⟩ := traced_executeAgain_zero q c₁
        exact ⟨first, second, c₁, hfirst, hsecond, hcount, hcount', .inr ⟨e, rfl, hstale⟩⟩
      · rw [if_neg hstale]
        exact ⟨first, [], c₁, hfirst, course_abandon e c₁, hcount, Nat.zero_le 1, .inl rfl⟩

/-- Any number of queries run a course. -/
theorem course_foldl_after (c : Connection) (qs : List Query) :
    ∃ events, Course c events (qs.foldl after c) := by
  induction qs generalizing c with
  | nil => exact ⟨[], .done c⟩
  | cons q qs ih =>
    obtain ⟨first, second, c₁, hfirst, hsecond, -⟩ := courses_after q c
    obtain ⟨events, hrest⟩ := ih (c.after q)
    exact ⟨first ++ second ++ events, (hfirst.trans hsecond).trans hrest⟩

/-- A message that the handshake accepts brings its description of the state, if it holds one. -/
theorem stateDescription_of_onMessage {h h' : Handshake} {m : ServerMessage} {step : HandshakeStep}
    (hm : Handshake.onMessage m h = .ok step h') :
    h'.stateDescription = m.state?.or h.stateDescription := by
  cases Handshake.onMessage_eq_ok.mp hm with
  | parameter p _ =>
    rw [Handshake.takeParameter]
    split <;> rfl
  | _ => rfl

/-- Between two states of a connection the frames with some messages were taken off the bytes of the
server. -/
def Receives (c c' : Connection) (ms : List ServerMessage) : Prop :=
  ∃ frames : List Frame, c.stream.unread = frames.flatMap Frame.toBytes ++ c'.stream.unread ∧
    frames.filterMap Frame.message? = ms.map .ok

/-- A message that is received is followed by those that are received later. -/
theorem Receives.cons {c c₁ c₂ c' : Connection} {m : ServerMessage} {ms : List ServerMessage}
    (h : Receives c c₁ [m]) (hunread : c₂.stream.unread = c₁.stream.unread) (h' : Receives c₂ c' ms) :
    Receives c c' (m :: ms) := by
  obtain ⟨frames, hframes, hmessage⟩ := h
  obtain ⟨more, hmore, hmessages⟩ := h'
  refine ⟨frames ++ more, ?_, ?_⟩
  · rw [hframes, ← hunread, hmore, List.flatMap_append, List.append_assoc]
  · rw [List.filterMap_append, hmessage, hmessages]
    rfl

/-- The state that is described last is that of the first message only if no later one describes any. -/
private theorem getLast?_state?_cons (m : ServerMessage) (ms : List ServerMessage)
    (d : Option StateDataDescription) :
    ((m :: ms).filterMap ServerMessage.state?).getLast?.or d =
      (ms.filterMap ServerMessage.state?).getLast?.or (m.state?.or d) := by
  rw [List.filterMap_cons]
  cases m.state? with
  | none => rfl
  | some first =>
    rw [List.getLast?_cons]
    cases (ms.filterMap ServerMessage.state?).getLast? <;> rfl

/-- While the handshake runs no state is adopted, and the one that was described last is kept for its
end. -/
theorem stateDescription_of_runHandshake {bound : Nat} {h h' : Handshake} {c c' : Connection}
    (ho : c.stream.output = []) (hrun : runHandshake bound h c = .ok h' c') :
    c'.session = c.session ∧ ∃ ms, Receives c c' ms ∧
      h'.stateDescription = (ms.filterMap ServerMessage.state?).getLast?.or h.stateDescription := by
  induction bound generalizing h c with
  | zero => cases hrun
  | succ bound ih =>
    obtain ⟨m, c₁, hreceive, hrun⟩ := bind_eq_ok.mp hrun
    obtain ⟨⟨step, h₁⟩, c₂, hstep, hrest⟩ := bind_eq_ok.mp hrun
    obtain ⟨s, hs, rfl⟩ := onStream_eq_ok (transiently_eq_ok hreceive)
    obtain ⟨frames, htakes, hmessage⟩ := Stream.takes_of_receive ho hs
    have hreceives : Receives c { c with stream := s } [m] := ⟨frames, htakes.unread_eq, hmessage⟩
    have houtput := Stream.output_of_receive hs
    obtain ⟨hm, hc₂⟩ := handshakeStep_eq_ok hstep
    have hsession₂ : c₂.session = c.session := by rw [hc₂]
    have hunread₂ : c₂.stream.unread = s.unread := by
      rw [hc₂]
      rfl
    have houtput₂ : c₂.stream.output = [] := by
      rw [hc₂]
      exact houtput
    have hdescription : h₁.stateDescription = m.state?.or h.stateDescription :=
      stateDescription_of_onMessage (h := { h with log := [] }) hm
    -- What follows on the message takes more frames, and brings more descriptions.
    have hgo {c₃ : Connection} (hsession : c₃.session = c₂.session)
        (hunread : c₃.stream.unread = c₂.stream.unread) (ho : c₃.stream.output = [])
        (hrun : runHandshake bound h₁ c₃ = .ok h' c') : c'.session = c.session ∧ ∃ ms,
          Receives c c' ms ∧ h'.stateDescription =
            (ms.filterMap ServerMessage.state?).getLast?.or h.stateDescription := by
      obtain ⟨hsession', ms, hmore, hlast⟩ := ih ho hrun
      refine ⟨hsession'.trans (hsession.trans hsession₂), m :: ms,
        hreceives.cons (hunread.trans hunread₂) hmore, ?_⟩
      rw [hlast, hdescription, getLast?_state?_cons]
    cases step with
    | send reply =>
      obtain ⟨⟨⟩, c₃, hsend, hrun⟩ := bind_eq_ok.mp hrest
      have hsent := transiently_eq_ok hsend
      obtain ⟨-, ho, hunread, -⟩ := sendAll_eq_ok hsent
      exact hgo (session_of_sendAll hsent) hunread ho hrun
    | wait => exact hgo rfl rfl houtput₂ hrest
    | ready =>
      obtain ⟨rfl, rfl⟩ := EStateM.Result.ok.inj hrest
      refine ⟨hsession₂, [m], ⟨frames, by rw [hunread₂, htakes.unread_eq], hmessage⟩, ?_⟩
      rw [hdescription, getLast?_state?_cons]
      rfl

/-- A connection starts without a state, and at the end of the handshake it adopts the one that was
described last, if there is one. -/
theorem session_of_start {config : Config} {registry : CodecRegistry} {h : Handshake} {socket : Socket}
    {log : List LogEntry} {c₀ : Connection}
    (hstart : startUp config h (idle config registry socket log) = .ok () c₀) :
    ∃ c ms, c.session = {} ∧ Receives (idle config registry socket log) c ms ∧
      match (ms.filterMap ServerMessage.state?).getLast?.or h.stateDescription with
      | none => c₀ = c
      | some d => applyState d c = .ok () c₀ := by
  obtain ⟨⟨⟩, c₁, hsend, hrest⟩ := bind_eq_ok.mp hstart
  rw [get_bind_apply] at hrest
  obtain ⟨h', c₂, hrun, hend⟩ := bind_eq_ok.mp hrest
  have hsent := transiently_eq_ok hsend
  have hsession : c₁.session = {} := session_of_sendAll hsent
  obtain ⟨-, ho, hunread, -⟩ := sendAll_eq_ok hsent
  obtain ⟨hsession', ms, ⟨frames, htakes, hmessages⟩, hdescription⟩ :=
    stateDescription_of_runHandshake ho hrun
  rw [modify_bind_apply] at hend
  refine ⟨{ c₂ with
      transactionState := h'.transactionState, serverKey := h'.serverKey
      suggestedPoolConcurrency := h'.suggestedPoolConcurrency, isConnected := true },
    ms, hsession'.trans hsession, ⟨frames, hunread.symm.trans htakes, hmessages⟩, ?_⟩
  rw [show h.stateDescription = h.handshakeSent.stateDescription from rfl, ← hdescription]
  cases hd : h'.stateDescription with
  | none =>
    rw [hd] at hend
    cases hend
    rfl
  | some d =>
    rw [hd] at hend
    exact hend

/-- The state of a session is never torn. A connection starts without a state, and adopts at the end of
the handshake the one that was described last. From then on, over any queries, every command that is sent
carries the state that was adopted last in front of it, or else the one of the start; and nothing but these
commands is written. The next query sends at most two of them to be run, one in each attempt, and makes a
second attempt only if the server found the state of the first one out of date. The commands of the second
attempt carry the state that the first one left, until a later one is adopted. A state is adopted with its
type and with the empty object of the codec that is built for it, and one that cannot be adopted leaves the
state as it was. -/
theorem session_of_startUp {config : Config} {registry : CodecRegistry} {version : ProtocolVersion}
    {user password nonce : String} {socket : Socket} {log : List LogEntry} {c₀ : Connection}
    (hstart : startUp config (.start version user password nonce) (idle config registry socket log) =
      .ok () c₀) (qs : List Query) (q : Query) :
    (∃ c ms, c.session = {} ∧ Receives (idle config registry socket log) c ms ∧
      match (ms.filterMap ServerMessage.state?).getLast? with
      | none => c₀ = c
      | some d => applyState d c = .ok () c₀) ∧
    (∃ past first second c₁,
      Carries c₀ past (qs.foldl after c₀) ∧
      Carries (qs.foldl after c₀) first c₁ ∧
      Carries c₁ second ((qs.foldl after c₀).after q) ∧
      first.countP Event.isExecute ≤ 1 ∧ second.countP Event.isExecute ≤ 1 ∧
      (second = [] ∨ ∃ e, executeOnce q (qs.foldl after c₀) = .error e c₁ ∧ isStale e = true)) ∧
    (∀ d c c', applyState d c = .ok () c' → c'.session.typeId = d.typeId ∧
      ∃ codec registry, CodecRegistry.build c.version d.typeId d.descriptors c.registry = .ok codec registry ∧
        codec.emptyState = .ok c'.session.data) ∧
    ∀ d c e c', applyState d c = .error e c' → c'.session = c.session := by
  refine ⟨?_, ?_, fun _ _ _ => session_of_applyState, fun _ _ _ _ => session_of_applyState_error⟩
  · obtain ⟨c, ms, hsession, hreceives, hadopts⟩ := session_of_start hstart
    rw [show (Handshake.start version user password nonce).stateDescription = none from rfl,
      Option.or_none] at hadopts
    exact ⟨c, ms, hsession, hreceives, hadopts⟩
  · obtain ⟨past, hpast⟩ := course_foldl_after c₀ qs
    obtain ⟨first, second, c₁, hfirst, hsecond, hcounts⟩ := courses_after q (qs.foldl after c₀)
    exact ⟨past, first, second, c₁, carries_of_course hpast, carries_of_course hfirst,
      carries_of_course hsecond, hcounts⟩

/-- A description of a state that is an object without elements. -/
def describedState (n : UInt8) : Bytes :=
  let id := List.replicate 15 0 ++ [n]
  [0x73, 0, 0, 0, 43] ++ id ++ [0, 0, 0, 19, 8] ++ id ++ [0, 0]

/-- The description of a query without arguments and without rows. -/
def describedNothing : Bytes :=
  [0x54, 0, 0, 0, 55, 0, 0, 0, 0, 0, 0, 0, 0, 0, 0, 0x6D] ++ List.replicate 40 0

/-- A server that describes a state when it finds the one of a query out of date, and another state when the
query is compiled again. -/
def staleTwice : Socket :=
  { reads := [
      .data [0x52, 0, 0, 0, 8, 0, 0, 0, 0, 0x5A, 0, 0, 0, 7, 0, 0, 0x49],
      .data (describedState 0xA1 ++
        [0x45, 0, 0, 0, 15, 0x78, 3, 2, 2, 0, 0, 0, 0, 0, 0, 0, 0x5A, 0, 0, 0, 7, 0, 0, 0x49]),
      .data (describedState 0xA2 ++ describedNothing ++ [0x5A, 0, 0, 0, 7, 0, 0, 0x49]),
      .data [0x5A, 0, 0, 0, 7, 0, 0, 0x49]] }

/-- A query for one number. -/
def selectOne : Query := { text := "select 1" }

/-- On a connection to this server the two attempts of a query run their courses, and all their commands carry
the state that was adopted last. -/
theorem session_of_startUp_staleTwice :
    ∃ c₀, startUp {} (.start .v1 "edgedb" "" "") (idle {} .empty staleTwice []) = .ok () c₀ ∧
      ∃ first second c₁, Carries c₀ first c₁ ∧ Carries c₁ second (c₀.after selectOne) := by
  have hruns : (match startUp {} (.start .v1 "edgedb" "" "") (idle {} .empty staleTwice []) with
      | .ok .. => true
      | .error .. => false) = true := by decide +kernel
  cases hstart : startUp {} (.start .v1 "edgedb" "" "") (idle {} .empty staleTwice []) with
  | error e c =>
    rw [hstart] at hruns
    cases hruns
  | ok _ c₀ =>
    obtain ⟨-, ⟨-, first, second, c₁, -, hfirst, hsecond, -⟩, -⟩ :=
      session_of_startUp hstart [] selectOne
    exact ⟨c₀, rfl, first, second, c₁, hfirst, hsecond⟩

/-- The state that is received in the first attempt does not go with every command of the second one. Here
the first attempt adopts a state and finds it out of date; the second attempt compiles the query with this
state, adopts another one on the way, and runs the query with that. -/
theorem later_state_in_second_attempt :
    ∃ c₀ c₁ e r, startUp {} (.start .v1 "edgedb" "" "") (idle {} .empty staleTwice []) = .ok () c₀ ∧
      executeOnce selectOne c₀ = .error e c₁ ∧ isStale e = true ∧
      c₀.session = {} ∧ c₁.session = ⟨⟨0, 0xA1⟩, [0, 0, 0, 0]⟩ ∧
      (ClientMessage.execute r .nil .nil []).session? = some ⟨⟨0, 0xA2⟩, [0, 0, 0, 0]⟩ ∧
      (c₀.after selectOne).stream.socket.sent = c₁.stream.socket.sent ++
        [.parse (c₁.request selectOne), .sync, .execute r .nil .nil [], .sync].flatMap
          ClientMessage.toBytes := by
  have hruns : (match startUp {} (.start .v1 "edgedb" "" "") (idle {} .empty staleTwice []) with
      | .ok _ c₀ =>
        match executeOnce selectOne c₀ with
        | .error e c₁ =>
          isStale e && decide (c₀.session = {} ∧ c₁.session = ⟨⟨0, 0xA1⟩, [0, 0, 0, 0]⟩ ∧
            (c₀.after selectOne).stream.socket.sent = c₁.stream.socket.sent ++
              [.parse (c₁.request selectOne), .sync,
                .execute ((c₀.after selectOne).request selectOne) .nil .nil [], .sync].flatMap
                ClientMessage.toBytes ∧
            (c₀.after selectOne).session = ⟨⟨0, 0xA2⟩, [0, 0, 0, 0]⟩)
        | .ok .. => false
      | .error .. => false) = true := by decide +kernel
  cases hstart : startUp {} (.start .v1 "edgedb" "" "") (idle {} .empty staleTwice []) with
  | error e c =>
    rw [hstart] at hruns
    cases hruns
  | ok _ c₀ =>
    rw [hstart] at hruns
    dsimp only at hruns
    cases honce : executeOnce selectOne c₀ with
    | ok r c₁ =>
      rw [honce] at hruns
      cases hruns
    | error e c₁ =>
      rw [honce] at hruns
      obtain ⟨hstale, hsessions⟩ := Bool.and_eq_true_iff.mp hruns
      obtain ⟨hnone, hfirst, hsent, hsecond⟩ := of_decide_eq_true hsessions
      refine ⟨c₀, c₁, e, (c₀.after selectOne).request selectOne, rfl, honce, hstale, hnone, hfirst, ?_, hsent⟩
      exact congrArg some hsecond

end Connection

end GelClient
