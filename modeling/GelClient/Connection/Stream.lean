import GelClient.Connection.Socket
import GelClient.Log
import GelClient.Protocol.ClientMessage
import GelClient.Protocol.Frame

/-!
# Message streams

A socket as a stream of messages in both directions. Messages to the server are buffered until
they are flushed, and before anything is received the buffer is flushed. Messages of unknown type
are skipped, and log messages of the server go into the log; all others are delivered.
-/

namespace GelClient

/-- A stream of messages over a socket. -/
structure Stream where
  socket : Socket
  decoder : FrameDecoder := .empty
  /-- The bytes that are not written yet. -/
  output : Bytes := []
  /-- What the log was told, in order. -/
  log : List LogEntry := []

namespace Stream

/-- The stream with another entry in the log. -/
def note (s : Stream) (e : LogEntry) : Stream :=
  { s with log := s.log ++ [e] }

/-- Buffers a message; none if it has not the size that it is announced with. -/
def send? (s : Stream) (m : ClientMessage) : Option Stream :=
  (m.write? s.output).map fun output => { s with output }

/-- Writes the buffer to the socket, patiently or until nothing happens. -/
def writeOut (patient : Bool) (s : Stream) : Poll (Except IoError Unit) × Stream :=
  let w := Socket.writeAll patient s.output s.socket.writes
  (w.result, { s with
    socket := { s.socket with writes := w.writes, sent := s.socket.sent ++ w.accepted }
    output := w.rest })

/-- Flushes the socket itself, patiently or until nothing happens. -/
def settle (patient : Bool) (s : Stream) : Poll (Except IoError Unit) × Stream :=
  let (r, flushes) := Socket.settle patient s.socket.flushes
  (r, { s with socket := { s.socket with flushes } })

/-- Writes the buffer to the socket and then flushes the socket, patiently or until nothing
happens. -/
def flushWith (patient : Bool) (s : Stream) : Poll (Except IoError Unit) × Stream :=
  match s.writeOut patient with
  | (.ready (.ok ()), s) => s.settle patient
  | (r, s) => (r, s)

/-- Writes the buffer to the socket and flushes it, as far as that is possible now. -/
def pollFlush (s : Stream) : Poll (Except IoError Unit) × Stream :=
  s.flushWith false

/-- What a frame means to the stream. -/
inductive Arrival where
  | message (r : Except ProtocolError ServerMessage)
  | note (e : LogEntry)

/-- What a frame means: messages of unknown type and messages for the log are only noted. -/
def arrival (f : Frame) : Arrival :=
  match MessageKind.ofByte? f.kind with
  | none => .note (.skipped f.kind f.body.length)
  | some _ =>
    match ServerMessage.ofFrame f with
    | .ok (.logMessage m) => .note (.server m.severity m.code m.text)
    | r => .message r

/-- The next message out of the bytes that have arrived; none if more are needed. The bound
counts the frames that may be skipped. -/
def takeMessage : (bound : Nat) → Stream → Option (Except ProtocolError ServerMessage) × Stream
  | 0, s => (none, s)
  | bound + 1, s =>
    let (frame, decoder) := s.decoder.decode
    let s := { s with decoder }
    match frame with
    | .error e => (some (.error e), s)
    | .ok none => (none, s)
    | .ok (some f) =>
      match arrival f with
      | .message r => (some r, s)
      | .note e => takeMessage bound (s.note e)

/-- The next message out of the bytes that have arrived. Every frame but the first takes at
least the bytes of its header. -/
def buffered (s : Stream) : Option (Except ProtocolError ServerMessage) × Stream :=
  s.takeMessage (s.decoder.buffer.length + 2)

/-- The stream with the rest of its schedule of reads. -/
def withReads (s : Stream) (reads : List ReadOutcome) : Stream :=
  { s with socket := { s.socket with reads } }

/-- The stream after more bytes arrived. -/
def feed (s : Stream) (bytes : Bytes) : Stream :=
  { s with decoder := s.decoder.feed bytes }

/-- The next message, reading as long as there is none, patiently or until nothing happens. -/
def readMessage (patient : Bool) :
    List ReadOutcome → Stream → Poll (Except Cause ServerMessage) × Stream
  | reads, s =>
    match s.buffered with
    | (some r, s) => (.ready (r.mapError .protocol), s.withReads reads)
    | (none, s) =>
      match reads with
      | [] =>
        let s := s.withReads []
        match s.socket.ending with
        | .closed => (.ready (.error (.io .endOfStream)), s)
        | .silent => if patient then (.ready (.error (.io .silence)), s) else (.pending, s)
      | .data [] :: reads => (.ready (.error (.io .endOfStream)), s.withReads reads)
      | .data bytes :: reads => readMessage patient reads (s.feed bytes)
      | .pending :: reads =>
        if patient then readMessage patient reads s else (.pending, s.withReads reads)
      | .failed e :: reads => (.ready (.error (.io e)), s.withReads reads)

/-- What is done in front of reading: a flush, unless nothing is buffered. -/
def flushOutput (patient : Bool) (s : Stream) : Poll (Except IoError Unit) × Stream :=
  if s.output.isEmpty then (.ready (.ok ()), s) else s.flushWith patient

/-- The next message once the buffer is written. -/
def receiveWith (patient : Bool) (s : Stream) : Poll (Except Cause ServerMessage) × Stream :=
  match s.flushOutput patient with
  | (.ready (.ok ()), s) => readMessage patient s.socket.reads s
  | (.ready (.error e), s) => (.ready (.error (.io e)), s)
  | (.pending, s) => (.pending, s)

/-- The next message, as far as that is possible now. -/
def pollReceive (s : Stream) : Poll (Except Cause ServerMessage) × Stream :=
  s.receiveWith false

/-- An action on a stream that can fail. -/
abbrev Action := EStateM Cause Stream

/-- Waits for a result; one that never comes is silence. -/
def Action.await {α : Type} (poll : Stream → Poll (Except Cause α) × Stream) : Action α := fun s =>
  match poll s with
  | (.ready (.ok a), s) => .ok a s
  | (.ready (.error e), s) => .error e s
  | (.pending, s) => .error (.io .silence) s

/-- Writes the buffer to the socket. -/
def flush : Action Unit :=
  Action.await fun s =>
    match s.flushWith true with
    | (.ready r, s) => (.ready (r.mapError .io), s)
    | (.pending, s) => (.pending, s)

/-- Receives a message. -/
def receive : Action ServerMessage :=
  Action.await (receiveWith true)

/-- A bound for the messages that can still be received: the bytes that have not been delivered,
and a header that was taken already. -/
def backlog (s : Stream) : Nat :=
  let unread := s.socket.reads.map fun
    | .data bytes => bytes.length
    | _ => 0
  unread.sum + s.decoder.buffer.length + 1

/-- What is not accepted by the socket stays in the buffer. -/
theorem writeOut_append (patient : Bool) (s : Stream) :
    (s.writeOut patient).2.socket.sent ++ (s.writeOut patient).2.output
      = s.socket.sent ++ s.output := by
  simp [writeOut, List.append_assoc, Socket.writeAll_append]

/-- A flush leaves what writing the buffer leaves, but for the schedule of its flushes. -/
theorem exists_flushes_of_flushWith (patient : Bool) (s : Stream) :
    ∃ flushes, (s.flushWith patient).2 =
      { (s.writeOut patient).2 with
        socket := { (s.writeOut patient).2.socket with flushes } } := by
  unfold flushWith
  split
  next t h => exact ⟨_, by rw [h]; rfl⟩
  next r t _ h => exact ⟨_, by rw [h]⟩

/-- A flush keeps what was accepted together with what is left. -/
theorem flushWith_append (patient : Bool) (s : Stream) :
    (s.flushWith patient).2.socket.sent ++ (s.flushWith patient).2.output
      = s.socket.sent ++ s.output := by
  obtain ⟨flushes, h⟩ := s.exists_flushes_of_flushWith patient
  rw [h]
  exact s.writeOut_append patient

end Stream

end GelClient
