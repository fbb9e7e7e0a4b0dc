import GelClient.Proofs.Connection.Delivery

/-!
# Between the attempts of a flush

A flush offers the buffer to the socket, again and again, until nothing is left of it or an attempt comes to nothing;
at the end the socket is flushed itself. A buffer may lie in several chunks, and a socket may take several of them at
once, or only the first. `Writing.attempt` is one attempt. It keeps the bytes that were accepted together with those
that are left, so every state that a flush passes through does, however the flush ends. Together with the messages that
are put behind the buffer this accounts for every byte: `Stream.frames_of_calls?` says that what a socket accepted and
what is buffered are the messages that were sent, in order, at each moment of each run.
-/

namespace GelClient

/-- The result of a flush in which an attempt comes to this; none if the flush goes on. -/
def WriteOutcome.stop? : WriteOutcome → Option (Poll (Except IoError Unit))
  | .accepted count => if count = 0 then some (.ready (.error .writeZero)) else none
  | .pending => some .pending
  | .failed e => some (.ready (.error e))

/-- A flush goes on where something was accepted. -/
theorem WriteOutcome.stop?_eq_none {outcome : WriteOutcome} (h : outcome.stop? = none) :
    ∃ count, count ≠ 0 ∧ outcome = .accepted count := by
  cases outcome with
  | accepted count => exact ⟨count, fun hcount => by simp [stop?, hcount] at h, rfl⟩
  | pending => cases h
  | failed e => cases h

/-- A flush ends where nothing was accepted, where nothing happened, and where the socket failed. -/
theorem WriteOutcome.stop?_eq_some {outcome : WriteOutcome} {r : Poll (Except IoError Unit)}
    (h : outcome.stop? = some r) :
    outcome = .accepted 0 ∧ r = .ready (.error .writeZero) ∨ outcome = .pending ∧ r = .pending ∨
      ∃ e, outcome = .failed e ∧ r = .ready (.error e) := by
  cases outcome with
  | accepted count =>
    obtain ⟨rfl, hr⟩ := Option.ite_none_right_eq_some.mp h
    exact .inl ⟨rfl, (Option.some.inj hr).symm⟩
  | pending => exact .inr (.inl ⟨rfl, (Option.some.inj h).symm⟩)
  | failed e => exact .inr (.inr ⟨e, rfl, (Option.some.inj h).symm⟩)

namespace Socket

variable {buffer : Bytes} {writes : List WriteOutcome}

/-- What is accepted is taken off the front of a buffer. -/
theorem writeAll_of_accepted {count : Nat} (hbuffer : buffer ≠ []) (hcount : count ≠ 0) :
    writeAll false buffer (.accepted count :: writes) =
      (writeAll false (buffer.drop count) writes).behind (buffer.take count) := by
  obtain ⟨n, rfl⟩ := Nat.exists_eq_succ_of_ne_zero hcount
  rw [writeAll.eq_def]
  dsimp only
  rw [if_neg (mt List.isEmpty_iff.mp hbuffer)]
  rfl

/-- An attempt that comes to nothing leaves a buffer as it was. -/
theorem writeAll_of_stop? {outcome : WriteOutcome} {r : Poll (Except IoError Unit)} (hbuffer : buffer ≠ [])
    (h : outcome.stop? = some r) : writeAll false buffer (outcome :: writes) = ⟨r, [], buffer, writes⟩ := by
  rw [writeAll.eq_def]
  dsimp only
  rw [if_neg (mt List.isEmpty_iff.mp hbuffer)]
  obtain ⟨rfl, rfl⟩ | ⟨rfl, rfl⟩ | ⟨e, rfl, rfl⟩ := WriteOutcome.stop?_eq_some h <;> rfl

end Socket

/-- A buffer on its way to a socket. -/
structure Writing where
  /-- The bytes that the socket accepted so far. -/
  accepted : Bytes
  /-- What is left of the buffer, in the chunks in which it lies. -/
  chunks : List Bytes
  /-- What the next attempts come to. -/
  writes : List WriteOutcome
  deriving DecidableEq, Repr

namespace Writing

/-- The bytes that are left. -/
def rest (w : Writing) : Bytes := w.chunks.flatten

/-- How many chunks are offered at once to a socket that takes several. -/
def maxChunks : Nat := 64

/-- What a socket is offered in one attempt. -/
def offered (vectored : Bool) (w : Writing) : Bytes :=
  (w.chunks.take (if vectored then maxChunks else 1)).flatten

/-- Chunks without their first bytes. A chunk that is used up is dropped. -/
def advance : List Bytes → Nat → List Bytes
  | [], _ => []
  | c :: cs, n => if n < c.length then c.drop n :: cs else advance cs (n - c.length)

/-- What the next attempt comes to. Behind its schedule a socket takes all that it is offered. -/
def outcome (vectored : Bool) (w : Writing) : WriteOutcome :=
  w.writes.headD (.accepted (w.offered vectored).length)

/-- One attempt, and the result of the flush if it ends here. -/
def attempt (vectored : Bool) (w : Writing) : Writing × Option (Poll (Except IoError Unit)) :=
  let later := { w with writes := w.writes.tail }
  match w.outcome vectored with
  | .accepted count =>
    let front := (w.offered vectored).take count
    if front.isEmpty then (later, some (.ready (.error .writeZero)))
    else ({ later with accepted := w.accepted ++ front, chunks := advance w.chunks front.length }, none)
  | .pending => (later, some .pending)
  | .failed e => (later, some (.ready (.error e)))

/-- Advancing drops the bytes it is told to. -/
private theorem flatten_advance (chunks : List Bytes) (n : Nat) :
    (advance chunks n).flatten = chunks.flatten.drop n := by
  induction chunks generalizing n with
  | nil => simp [advance]
  | cons c cs ih =>
    rw [advance, List.flatten_cons, List.drop_append]
    split
    next hn => rw [List.flatten_cons, Nat.sub_eq_zero_of_le (Nat.le_of_lt hn), List.drop_zero]
    next hn => rw [ih, List.drop_eq_nil_of_le (Nat.le_of_not_lt hn), List.nil_append]

/-- What is offered is the front of what is left. -/
theorem offered_prefix_rest (vectored : Bool) (w : Writing) : w.offered vectored <+: w.rest := by
  refine ⟨(w.chunks.drop (if vectored then maxChunks else 1)).flatten, ?_⟩
  rw [offered, rest, ← List.flatten_append, List.take_append_drop]

/-- What an attempt does: it moves some bytes from the front of the buffer to the socket, or it moves none and ends the
flush without success. -/
theorem attempt_cases (vectored : Bool) (w : Writing) :
    (∃ front w', w.attempt vectored = (w', none) ∧ front ≠ [] ∧ w'.accepted = w.accepted ++ front ∧
      w.rest = front ++ w'.rest) ∨
    ∃ r w', w.attempt vectored = (w', some r) ∧ r ≠ .ready (.ok ()) ∧ w'.accepted = w.accepted ∧ w'.rest = w.rest := by
  unfold attempt
  cases w.outcome vectored with
  | accepted count =>
    dsimp only
    split
    · exact .inr ⟨_, _, rfl, nofun, rfl, rfl⟩
    next hfront =>
      refine .inl ⟨_, _, rfl, fun h => hfront (List.isEmpty_iff.mpr h), rfl, ?_⟩
      rw [rest, rest, flatten_advance]
      exact (List.prefix_iff_eq_append.mp ((List.take_prefix _ _).trans (w.offered_prefix_rest vectored))).symm
  | pending => exact .inr ⟨_, _, rfl, nofun, rfl, rfl⟩
  | failed e => exact .inr ⟨_, _, rfl, nofun, rfl, rfl⟩

/-- An attempt after which the flush goes on leaves less to write. -/
theorem length_rest_of_attempt {vectored : Bool} {w w' : Writing} (h : w.attempt vectored = (w', none)) :
    w'.rest.length < w.rest.length := by
  obtain ⟨front, v, hv, hfront, -, hrest⟩ | ⟨r, v, hv, -⟩ := w.attempt_cases vectored
  · obtain ⟨rfl, -⟩ := Prod.mk.inj (hv.symm.trans h)
    have hpos := List.length_pos_iff.mpr hfront
    rw [hrest, List.length_append]
    omega
  · cases hv.symm.trans h

/-- An attempt loses nothing and repeats nothing. -/
theorem append_of_attempt {vectored : Bool} {w w' : Writing} {r : Option (Poll (Except IoError Unit))}
    (h : w.attempt vectored = (w', r)) : w'.accepted ++ w'.rest = w.accepted ++ w.rest := by
  obtain ⟨front, v, hv, -, haccepted, hrest⟩ | ⟨_, v, hv, -, haccepted, hrest⟩ := w.attempt_cases vectored
  · obtain ⟨rfl, -⟩ := Prod.mk.inj (hv.symm.trans h)
    rw [haccepted, hrest, List.append_assoc]
  · obtain ⟨rfl, -⟩ := Prod.mk.inj (hv.symm.trans h)
    rw [haccepted, hrest]

/-- An attempt that ends the flush does not end it with success. -/
theorem ne_ok_of_attempt {vectored : Bool} {w w' : Writing} {r : Poll (Except IoError Unit)}
    (h : w.attempt vectored = (w', some r)) : r ≠ .ready (.ok ()) := by
  obtain ⟨front, v, hv, -⟩ | ⟨r', v, hv, hr, -⟩ := w.attempt_cases vectored
  · cases hv.symm.trans h
  · cases hv.symm.trans h
    exact hr

/-- How the writing of a buffer went. -/
structure Course where
  /-- The states before, between and after the attempts. -/
  states : List Writing
  last : Writing
  /-- The result of the attempt that ended the writing, if it ended before everything was written. -/
  stopped : Option (Poll (Except IoError Unit))

/-- Makes attempts until nothing is left or one of them comes to nothing. -/
def run (vectored : Bool) (w : Writing) : Course :=
  if w.rest.isEmpty then ⟨[w], w, none⟩
  else
    match _h : w.attempt vectored with
    | (w', some r) => ⟨[w, w'], w', some r⟩
    | (w', none) =>
      let course := run vectored w'
      { course with states := w :: course.states }
termination_by w.rest.length
decreasing_by exact length_rest_of_attempt _h

section

variable {vectored : Bool} {w w' : Writing}

/-- Nothing is attempted when nothing is left. -/
theorem run_of_rest_eq_nil (h : w.rest = []) : w.run vectored = ⟨[w], w, none⟩ := by
  rw [run, if_pos (List.isEmpty_iff.mpr h)]

/-- An attempt that ends the flush is its last one. -/
theorem run_of_attempt_eq_some {r : Poll (Except IoError Unit)} (hrest : w.rest ≠ [])
    (h : w.attempt vectored = (w', some r)) : w.run vectored = ⟨[w, w'], w', some r⟩ := by
  rw [run, if_neg (mt List.isEmpty_iff.mp hrest)]
  split
  next u q hu =>
    cases hu.symm.trans h
    rfl
  next u hu => cases hu.symm.trans h

/-- After every other attempt the flush goes on. -/
theorem run_of_attempt_eq_none (hrest : w.rest ≠ []) (h : w.attempt vectored = (w', none)) :
    w.run vectored = { w'.run vectored with states := w :: (w'.run vectored).states } := by
  rw [run, if_neg (mt List.isEmpty_iff.mp hrest)]
  split
  next u q hu => cases hu.symm.trans h
  next u hu =>
    cases hu.symm.trans h
    rfl

end

/-- A course that accounts for all bytes: it keeps them in every state, and is not stopped by a success. -/
structure Course.Accounts (c : Course) (w : Writing) : Prop where
  append_eq : ∀ u ∈ c.states, u.accepted ++ u.rest = w.accepted ++ w.rest
  stopped_ne : c.stopped ≠ some (.ready (.ok ()))

/-- Every course accounts for all bytes, since every attempt does. -/
theorem accounts_run (vectored : Bool) (w : Writing) : (w.run vectored).Accounts w := by
  induction w using run.induct vectored with
  | case1 w hempty =>
    rw [run_of_rest_eq_nil (List.isEmpty_iff.mp hempty)]
    exact ⟨by simp, nofun⟩
  | case2 w hempty w' r h =>
    rw [run_of_attempt_eq_some (mt List.isEmpty_iff.mpr hempty) h]
    exact ⟨by simp [append_of_attempt h], fun hr => ne_ok_of_attempt h (Option.some.inj hr)⟩
  | case3 w hempty w' h ih =>
    obtain ⟨happend, hstopped⟩ := ih
    rw [append_of_attempt h] at happend
    rw [run_of_attempt_eq_none (mt List.isEmpty_iff.mpr hempty) h]
    exact ⟨List.forall_mem_cons.mpr ⟨rfl, happend⟩, hstopped⟩

/-- The chunks of a buffer that lies in one piece. -/
def chunksOf (buffer : Bytes) : List Bytes :=
  if buffer.isEmpty then [] else [buffer]

/-- The chunk of a buffer in one piece is the buffer. -/
private theorem flatten_chunksOf (buffer : Bytes) : (chunksOf buffer).flatten = buffer := by
  unfold chunksOf
  split
  next hempty => exact (List.isEmpty_iff.mp hempty).symm
  next => exact List.flatten_singleton

/-- A buffer in one piece stays in one piece. -/
private theorem advance_chunksOf (buffer : Bytes) (n : Nat) :
    advance (chunksOf buffer) n = chunksOf (buffer.drop n) := by
  unfold chunksOf
  split
  next hempty =>
    rw [List.isEmpty_iff.mp hempty, List.drop_nil]
    rfl
  next hempty =>
    rw [advance]
    split
    next hn => rw [if_neg (by simpa using hn)]
    next hn => rw [if_pos (by simpa using hn), advance]

/-- A buffer in one piece on its way to a socket. -/
def ofBuffer (accepted buffer : Bytes) (writes : List WriteOutcome) : Writing :=
  { accepted, chunks := chunksOf buffer, writes }

section

variable (vectored : Bool) (accepted buffer : Bytes) (writes : List WriteOutcome)

/-- All of the buffer is left. -/
theorem rest_ofBuffer : (ofBuffer accepted buffer writes).rest = buffer := flatten_chunksOf buffer

/-- A buffer in one piece is offered as a whole, however many chunks a socket takes. -/
theorem offered_ofBuffer : (ofBuffer accepted buffer writes).offered vectored = buffer := by
  have hone : (chunksOf buffer).length ≤ 1 := by
    unfold chunksOf
    split <;> simp
  rw [offered, ofBuffer, List.take_of_length_le (Nat.le_trans hone (by cases vectored <;> decide)), flatten_chunksOf]

/-- An empty buffer needs no attempt. -/
theorem run_ofBuffer_nil :
    (ofBuffer accepted [] writes).run vectored = ⟨[ofBuffer accepted [] writes], ofBuffer accepted [] writes, none⟩ :=
  run_of_rest_eq_nil (rest_ofBuffer accepted [] writes)

/-- A socket takes what it accepts off the front of a buffer in one piece, and the flush goes on. -/
theorem run_ofBuffer_of_accepted {count : Nat} (hbuffer : buffer ≠ []) (hcount : count ≠ 0)
    (hwrites : writes.headD (.accepted buffer.length) = .accepted count) :
    let course := (ofBuffer (accepted ++ buffer.take count) (buffer.drop count) writes.tail).run vectored
    (ofBuffer accepted buffer writes).run vectored =
      { course with states := ofBuffer accepted buffer writes :: course.states } := by
  have hdrop : buffer.drop (buffer.take count).length = buffer.drop count := by simp
  have hfront : ¬(buffer.take count).isEmpty := by simp [hbuffer, hcount]
  refine run_of_attempt_eq_none (by rwa [rest_ofBuffer]) ?_
  rw [attempt, outcome, offered_ofBuffer]
  simp only [ofBuffer, hwrites, if_neg hfront, advance_chunksOf, hdrop]

/-- An attempt that comes to nothing leaves a buffer in one piece as it was. -/
theorem run_ofBuffer_of_stop? {outcome : WriteOutcome} {r : Poll (Except IoError Unit)} (hbuffer : buffer ≠ [])
    (h : outcome.stop? = some r) :
    (ofBuffer accepted buffer (outcome :: writes)).run vectored =
      ⟨[ofBuffer accepted buffer (outcome :: writes), ofBuffer accepted buffer writes],
        ofBuffer accepted buffer writes, some r⟩ := by
  refine run_of_attempt_eq_some (by rwa [rest_ofBuffer]) ?_
  obtain ⟨rfl, rfl⟩ | ⟨rfl, rfl⟩ | ⟨e, rfl, rfl⟩ := WriteOutcome.stop?_eq_some h <;> rfl

end

/-- How the writing of a buffer in one piece, attempt by attempt, compares with the writing at one go. -/
structure Course.IsWrittenAs (course : Course) (accepted : Bytes) (written : Socket.Written) : Prop where
  result_eq : course.stopped.getD (.ready (.ok ())) = written.result
  last_eq : course.last = ofBuffer (accepted ++ written.accepted) written.rest written.writes

/-- The writing of an empty buffer comes to the same as the writing at one go: to nothing. -/
theorem isWrittenAs_nil (vectored : Bool) (accepted : Bytes) (writes : List WriteOutcome) :
    ((ofBuffer accepted [] writes).run vectored).IsWrittenAs accepted (Socket.writeAll false [] writes) := by
  rw [run_ofBuffer_nil, Socket.writeAll_nil]
  exact ⟨rfl, by rw [List.append_nil]⟩

/-- The writing of a buffer in one piece, attempt by attempt, comes to the same as the writing at one go. -/
theorem run_isWrittenAs (vectored : Bool) (accepted buffer : Bytes) (writes : List WriteOutcome) :
    ((ofBuffer accepted buffer writes).run vectored).IsWrittenAs accepted (Socket.writeAll false buffer writes) := by
  -- On the schedule, since the writing at one go recurses on it; at its end one more attempt takes the whole buffer.
  induction writes generalizing accepted buffer with
  | nil =>
    by_cases hbuffer : buffer = []
    · rw [hbuffer]
      exact isWrittenAs_nil vectored accepted []
    · rw [run_ofBuffer_of_accepted _ _ _ _ hbuffer (mt List.length_eq_zero_iff.mp hbuffer) rfl, List.take_length,
        List.drop_length, run_ofBuffer_nil]
      exact ⟨rfl, rfl⟩
  | cons outcome writes ih =>
    by_cases hbuffer : buffer = []
    · rw [hbuffer]
      exact isWrittenAs_nil vectored accepted (outcome :: writes)
    · cases hstop : outcome.stop? with
      | some r =>
        rw [run_ofBuffer_of_stop? _ _ _ _ hbuffer hstop, Socket.writeAll_of_stop? hbuffer hstop]
        exact ⟨rfl, by rw [List.append_nil]⟩
      | none =>
        obtain ⟨count, hcount, rfl⟩ := WriteOutcome.stop?_eq_none hstop
        obtain ⟨hresult, hlast⟩ := ih (accepted ++ buffer.take count) (buffer.drop count)
        rw [List.append_assoc] at hlast
        rw [run_ofBuffer_of_accepted _ _ _ _ hbuffer hcount rfl, Socket.writeAll_of_accepted hbuffer hcount]
        exact ⟨hresult, hlast⟩

end Writing

namespace Stream

/-- The buffer of a stream on its way to the socket. -/
def writing (s : Stream) : Writing := .ofBuffer s.socket.sent s.output s.socket.writes

/-- The stream when its buffer has come this far. -/
def withWriting (s : Stream) (w : Writing) : Stream :=
  { s with
    socket := { s.socket with writes := w.writes, sent := w.accepted }
    output := w.rest }

/-- A flush, to a socket that takes several chunks at once or one. When everything is written the socket is flushed
itself. -/
def flushThrough (vectored : Bool) (s : Stream) : Poll (Except IoError Unit) × Stream :=
  let course := s.writing.run vectored
  match course.stopped with
  | some r => (r, s.withWriting course.last)
  | none => (s.withWriting course.last).settle false

/-- The states of a stream before, between and after the attempts of a flush, and at its end. -/
def flushStates (vectored : Bool) (s : Stream) : List Stream :=
  (s.writing.run vectored).states.map s.withWriting ++ [(s.flushThrough vectored).2]

/-- However the socket takes its chunks, a flush comes to the same as one at one go. -/
theorem flushThrough_eq (vectored : Bool) (s : Stream) : s.flushThrough vectored = s.pollFlush := by
  obtain ⟨hresult, hlast⟩ := Writing.run_isWrittenAs vectored s.socket.sent s.output s.socket.writes
  have haccounts := Writing.accounts_run vectored s.writing
  have hwritten : s.withWriting (s.writing.run vectored).last = (s.writeOut false).2 := by
    rw [writing, hlast, withWriting, Writing.rest_ofBuffer]
    rfl
  change (s.writing.run vectored).stopped.getD _ = (s.writeOut false).1 at hresult
  rw [flushThrough, hwritten, pollFlush, flushWith]
  cases hstopped : (s.writing.run vectored).stopped with
  | none =>
    rw [hstopped] at hresult
    rw [show s.writeOut false = (.ready (.ok ()), (s.writeOut false).2) from Prod.ext hresult.symm rfl]
  | some r =>
    rw [hstopped] at hresult
    rw [show s.writeOut false = (r, (s.writeOut false).2) from Prod.ext hresult.symm rfl]
    cases r with
    | pending => rfl
    | ready r =>
      cases r with
      | error e => rfl
      | ok _ => exact absurd hstopped haccounts.stopped_ne

/-- A flush moves bytes from the buffer to the socket and adds none, in each of its attempts. -/
theorem outgoing_of_mem_flushStates {vectored : Bool} {s t : Stream} (h : t ∈ s.flushStates vectored) :
    t.outgoing = s.outgoing := by
  obtain h | h := List.mem_append.mp h
  · obtain ⟨w, hw, rfl⟩ := List.mem_map.mp h
    have happend := (Writing.accounts_run vectored s.writing).append_eq w hw
    rwa [writing, Writing.rest_ofBuffer] at happend
  · rw [List.mem_singleton.mp h, flushThrough_eq]
    exact s.flushWith_append false

/-- A flush ends in one of its states. -/
theorem flushThrough_mem_flushStates (vectored : Bool) (s : Stream) :
    (s.flushThrough vectored).2 ∈ s.flushStates vectored :=
  List.mem_append_right _ (List.mem_singleton_self _)

/-- What is done to write with a stream. -/
inductive WriteCall where
  | send (m : ClientMessage)
  | flush (vectored : Bool)

/-- The bytes that a call puts behind the buffer. -/
def WriteCall.bytes : WriteCall → Bytes
  | .send m => m.toBytes
  | .flush _ => []

/-- The stream after a call; none if it does not return, because the message is not announced with its size. -/
def call? (s : Stream) : WriteCall → Option Stream
  | .send m => s.send? m
  | .flush vectored => some (s.flushThrough vectored).2

/-- The stream after some calls. -/
def calls? (s : Stream) (calls : List WriteCall) : Option Stream := calls.foldlM call? s

/-- The call of the same name, without the ways of the socket. -/
def WriteCall.toCall : WriteCall → Call
  | .send m => .send m
  | .flush _ => .flush

/-- A call that returns does what the call of the same name does. -/
theorem afterCall_of_call? {s t : Stream} {call : WriteCall} (h : s.call? call = some t) :
    s.afterCall call.toCall = t := by
  cases call with
  | send m =>
    obtain ⟨output, houtput, rfl⟩ := Option.map_eq_some_iff.mp h
    rw [WriteCall.toCall, afterCall, ClientMessage.write?_eq_some houtput]
  | flush vectored =>
    obtain rfl := Option.some.inj h
    rw [flushThrough_eq]
    rfl

/-- Calls that return do what the calls of the same names do. -/
theorem foldl_afterCall_of_calls? {s t : Stream} {calls : List WriteCall} (h : s.calls? calls = some t) :
    (calls.map WriteCall.toCall).foldl afterCall s = t := by
  unfold calls? at h
  induction calls generalizing s with
  | nil => exact Option.some.inj h
  | cons call calls ih =>
    obtain ⟨u, hu, h⟩ := Option.bind_eq_some_iff.mp h
    rw [List.map_cons, List.foldl_cons, afterCall_of_call? hu, ih h]

/-- A call adds its bytes behind all others. -/
theorem outgoing_of_call? {s t : Stream} {call : WriteCall} (h : s.call? call = some t) :
    t.outgoing = s.outgoing ++ call.bytes := by
  cases call with
  | send m =>
    obtain ⟨output, houtput, rfl⟩ := Option.map_eq_some_iff.mp h
    obtain rfl := ClientMessage.write?_eq_some houtput
    exact (List.append_assoc ..).symm
  | flush vectored =>
    obtain rfl := Option.some.inj h
    rw [outgoing_of_mem_flushStates (s.flushThrough_mem_flushStates vectored), WriteCall.bytes, List.append_nil]

/-- Calls add their bytes in order. -/
theorem outgoing_of_calls? {s t : Stream} {calls : List WriteCall} (h : s.calls? calls = some t) :
    t.outgoing = s.outgoing ++ calls.flatMap WriteCall.bytes := by
  unfold calls? at h
  induction calls generalizing s with
  | nil =>
    obtain rfl := Option.some.inj h
    exact (List.append_nil _).symm
  | cons call calls ih =>
    obtain ⟨u, hu, h⟩ := Option.bind_eq_some_iff.mp h
    rw [ih h, outgoing_of_call? hu, List.flatMap_cons, List.append_assoc]

/-- Whatever is sent and flushed on a new stream, and whatever the socket makes of each attempt: what the socket
accepted is the front of the messages that were sent, in order, and the rest of them is what is buffered. This holds
after every call, and in every state of a flush that follows, in whatever it ends. If it succeeds, nothing is buffered
any more. -/
theorem frames_of_calls? {socket : Socket} {calls : List WriteCall} {s : Stream} (hsocket : socket.sent = [])
    (h : calls? { socket } calls = some s) (vectored : Bool) :
    let frames := calls.flatMap WriteCall.bytes
    let flushed := s.flushThrough vectored
    (calls.map WriteCall.toCall).foldl afterCall { socket } = s ∧ s.socket.sent ++ s.output = frames ∧
      (∀ t ∈ s.flushStates vectored, t.socket.sent ++ t.output = frames) ∧
      flushed.2 ∈ s.flushStates vectored ∧
      (flushed.1 = .ready (.ok ()) → flushed.2.output = []) ∧
      flushed = s.pollFlush := by
  have hframes : s.outgoing = calls.flatMap WriteCall.bytes := by
    rw [outgoing_of_calls? h, outgoing, hsocket]
    rfl
  refine ⟨foldl_afterCall_of_calls? h, hframes, fun t ht => ?_, s.flushThrough_mem_flushStates vectored, fun hok => ?_,
    s.flushThrough_eq vectored⟩
  · exact (outgoing_of_mem_flushStates ht).trans hframes
  · have hflush : s.flushWith false = (.ready (.ok ()), (s.flushThrough vectored).2) := by
      rw [flushThrough_eq] at hok ⊢
      exact Prod.ext hok rfl
    exact (flushWith_eq_ok hflush).2.1

/-- A socket that accepts three bytes, then nothing yet, then fails, and then accepts six bytes. It holds back what it
accepted when it is flushed for the first time. -/
def faltering : Socket :=
  { reads := [], writes := [.accepted 3, .pending, .failed .refused, .accepted 6], flushes := [.pending] }

/-- Two messages are sent, and after each of them the buffer is flushed. -/
def twoMessages : List WriteCall :=
  [.send .sync, .flush true, .send .flush, .flush false]

/-- Behind a flush that was suspended and one that failed, seven of ten bytes are buffered. In every state of the next
flush all ten are there. It writes all of them and is suspended, since the socket is not flushed yet; the one behind it
succeeds. -/
theorem frames_of_calls?_faltering :
    faltering.sent = [] ∧ ∃ s, calls? { socket := faltering } twoMessages = some s ∧ s.output.length = 7 ∧
      (∀ t ∈ s.flushStates true, t.socket.sent ++ t.output = [0x53, 0, 0, 0, 4, 0x48, 0, 0, 0, 4]) ∧
      (s.flushThrough true).1 = .pending ∧
      ∃ s', calls? { socket := faltering } (twoMessages ++ [.flush true]) = some s' ∧
        (s'.flushThrough true).1 = .ready (.ok ()) ∧ (s'.flushThrough true).2.output = [] := by
  let written : Stream := {
    socket := { reads := [], writes := [.accepted 6], flushes := [.pending], sent := [0x53, 0, 0] }
    output := [0, 4, 0x48, 0, 0, 0, 4] }
  have h : calls? { socket := faltering } twoMessages = some written := by
    simp only [calls?, twoMessages, List.foldlM_cons, List.foldlM_nil, call?, flushThrough_eq]
    rfl
  have hnext : calls? { socket := faltering } (twoMessages ++ [.flush true]) = some written.pollFlush.2 := by
    rw [calls?, List.foldlM_append, show twoMessages.foldlM call? { socket := faltering } = some written from h]
    simp only [List.foldlM_cons, List.foldlM_nil, call?, flushThrough_eq]
    rfl
  obtain ⟨-, -, hstates, -⟩ := frames_of_calls? rfl h true
  obtain ⟨-, -, -, -, hsuccess, -⟩ := frames_of_calls? rfl hnext true
  have hsettled : (written.pollFlush.2.flushThrough true).1 = .ready (.ok ()) := by
    rw [flushThrough_eq]
    rfl
  exact ⟨rfl, _, h, rfl, hstates, by rw [flushThrough_eq]; rfl, _, hnext, hsettled, hsuccess hsettled⟩

end Stream

end GelClient
