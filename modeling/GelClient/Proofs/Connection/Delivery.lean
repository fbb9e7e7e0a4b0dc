import GelClient.Proofs.Connection.Stream
import GelClient.Proofs.Protocol.Reassembly

/-!
# What a stream delivers

The bytes of the server, cut into frames and refused headers, say by themselves what a stream has to
deliver: `Frame.deliveries` leaves out messages of unknown type and reports for the log, and keeps all
else in order. What a stream still owes is what its unread bytes say. `Stream.Reading` lists what one
attempt to read can come to: it pays the first thing owed, or it stops with nothing paid and nothing
lost. From it follows what any number of calls come to, whatever was sent and flushed in between.
-/

namespace GelClient

namespace Frame

/-- What is delivered of an item of the bytes of the server: nothing of a message of unknown type, and
nothing of a report for the log that can be read. -/
def delivery? : Item → Option (Except ProtocolError ServerMessage)
  | .error e => some (.error e)
  | .ok f =>
    match MessageKind.ofByte? f.kind, ServerMessage.decode f.kind f.body with
    | none, _ => none
    | some .logMessage, .ok _ => none
    | some _, r => some r

/-- What is delivered of the bytes of the server. -/
def deliveries (stream : Bytes) : List (Except ProtocolError ServerMessage) :=
  (parse stream).1.filterMap delivery?

/-- A frame is delivered if it is not only noted. -/
theorem delivery?_ok (f : Frame) : delivery? (.ok f) = f.message? := by
  rw [delivery?, message?, Stream.arrival, ServerMessage.ofFrame]
  cases hkind : MessageKind.ofByte? f.kind with
  | none => rfl
  | some k =>
    cases hm : ServerMessage.decode f.kind f.body with
    | error e => cases k <;> rfl
    | ok m =>
      have hk : m.kind = k := by
        have hbyte : m.kind.toByte = f.kind := ServerMessage.toByte_kind_of_ofFrame hm
        rw [← hbyte, MessageKind.ofByte?_toByte] at hkind
        exact Option.some.inj hkind
      subst hk
      cases m <;> rfl

/-- The first item of a stream is delivered in front of what is behind it. -/
theorem deliveries_of_first?_some {stream rest : Bytes} {item : Item}
    (h : first? stream = some (item, rest)) :
    deliveries stream = (delivery? item).toList ++ deliveries rest := by
  rw [deliveries, parse_of_first?_some h, List.filterMap_cons]
  cases delivery? item <;> rfl

/-- Nothing is delivered of a stream without a first item. -/
theorem deliveries_of_first?_none {stream : Bytes} (h : first? stream = none) :
    deliveries stream = [] := by
  rw [deliveries, parse_of_first?_none h]
  rfl

/-- A report for the log is not delivered, unless it cannot be read. -/
example : deliveries [0x4C, 0, 0, 0, 4, 0x7E, 0, 0, 0, 5, 1, 0x5A, 0, 0, 0, 7, 0, 0, 0x49] =
    [.error (.malformed (.underflow 1 0)), .ok (.readyForCommand ⟨[], .notInTransaction⟩)] := by
  cbv

end Frame

/-- The result, if there is one. -/
def Poll.result? {α : Type} : Poll α → Option α
  | .ready a => some a
  | .pending => none

/-- Whether an attempt to read does its part of cutting a stream of bytes into pieces: it brings some
bytes, or nothing yet. -/
def ReadOutcome.IsPiece : ReadOutcome → Prop
  | .data bytes => bytes ≠ []
  | .pending => True
  | .failed _ => False

namespace Stream

open GelClient.Frame (deliveries delivery? first?)
open FrameDecoder (delivered)

/-- What a stream still has to deliver. -/
def due (s : Stream) : List (Except ProtocolError ServerMessage) :=
  deliveries s.unread

/-- What has arrived and what comes behind it deliver the same before and after the next message is
taken, but for this message; and if none is taken, then none has arrived. -/
theorem deliveries_of_takeMessage {bound : Nat} {s s' : Stream}
    {r : Option (Except ProtocolError ServerMessage)} (hfits : s.decoder.Fits)
    (hbound : s.decoder.pending < bound) (h : takeMessage bound s = (r, s')) :
    s'.socket = s.socket ∧ s'.output = s.output ∧ s'.decoder.Fits ∧
      (∀ more, deliveries (s.decoder.held ++ more) =
        r.toList ++ deliveries (s'.decoder.held ++ more)) ∧
      (r = none → first? s'.decoder.held = none) := by
  induction bound generalizing s with
  | zero => omega
  | succ bound ih =>
    have hfirst := FrameDecoder.first?_held hfits
    have hrest := hfits.decode
    unfold takeMessage at h
    cases hd : s.decoder.decode with
    | mk frame decoder =>
      rw [hd] at hfirst hrest
      simp only [hd] at h
      cases frame with
      | error e =>
        obtain ⟨rfl, rfl⟩ := Prod.mk.inj h
        refine ⟨rfl, rfl, hrest, fun more => ?_, by simp⟩
        exact Frame.deliveries_of_first?_some (Frame.first?_append hfirst more)
      | ok frame =>
        cases frame with
        | none =>
          obtain ⟨rfl, rfl⟩ := Prod.mk.inj h
          have hheld : decoder.held = s.decoder.held := by
            have := FrameDecoder.held_decode (d := s.decoder) (by rw [hd]; rfl)
            rwa [hd] at this
          refine ⟨rfl, rfl, hrest, fun more => ?_, fun _ => ?_⟩
          · exact congrArg (fun held => deliveries (held ++ more)) hheld.symm
          · exact (congrArg first? hheld).trans hfirst
        | some f =>
          dsimp only at h
          have hitem (more : Bytes) := Frame.deliveries_of_first?_some (Frame.first?_append hfirst more)
          split at h
          next hf =>
            obtain ⟨rfl, rfl⟩ := Prod.mk.inj h
            refine ⟨rfl, rfl, hrest, fun more => ?_, by simp⟩
            rw [hitem more, Frame.delivery?_ok, Frame.message?, hf]
          next e hf =>
            have hpending : decoder.pending < bound := by
              have := FrameDecoder.pending_decode hd
              omega
            obtain ⟨hsocket, houtput, hfits', hsame, hnone⟩ := ih hrest hpending h
            refine ⟨hsocket, houtput, hfits', fun more => ?_, hnone⟩
            rw [hitem more, Frame.delivery?_ok, Frame.message?, hf]
            exact hsame more

/-- What reading leaves behind, once some attempts to read were used: the attempts that follow, and
everything that was written or is to be written. -/
structure Leaves (s : Stream) (used : List ReadOutcome) (s' : Stream) : Prop where
  socket_eq : s.socket = { s'.socket with reads := used ++ s'.socket.reads }
  output_eq : s'.output = s.output
  fits : s'.decoder.Fits

/-- What reading comes to. Either it delivers the first thing that is due, or it stops, and then the
same things are due as before: nothing happens yet, on the way or for ever; the bytes are at their end,
behind the last read or with an empty one; or the socket fails. -/
inductive Reading (s : Stream) (used : List ReadOutcome) (s' : Stream) :
    Poll (Except Cause ServerMessage) → Prop
  | delivered (r : Except ProtocolError ServerMessage) : s.due = r :: s'.due →
      Reading s used s' (.ready (r.mapError .protocol))
  | suspended : .pending ∈ used → s.due = s'.due → Reading s used s' .pending
  | silent (p : Poll (Except Cause ServerMessage)) : s.socket.ending = .silent → s.due = s'.due →
      p = .pending ∨ p = .ready (.error (.io .silence)) → Reading s used s' p
  | ended : s.due = [] → s'.due = [] → s'.socket.reads = [] →
      Reading s used s' (.ready (.error (.io .endOfStream)))
  | cut : .data [] ∈ used → s.due = s'.due →
      Reading s used s' (.ready (.error (.io .endOfStream)))
  | failed (e : IoError) : .failed e ∈ used → s.due = s'.due →
      Reading s used s' (.ready (.error (.io e)))

/-- Reading that goes on from a later state, where the same is due, is reading from the first one. -/
theorem Reading.of_later {s s₁ s' : Stream} {used : List ReadOutcome}
    {p : Poll (Except Cause ServerMessage)} (skipped : List ReadOutcome) (hdue : s.due = s₁.due)
    (hending : s₁.socket.ending = s.socket.ending) (h : Reading s₁ used s' p) : Reading s (skipped ++ used) s' p := by
  cases h with
  | delivered r hr => exact .delivered r (hdue.trans hr)
  | suspended hmem hsame => exact .suspended (List.mem_append_right _ hmem) (hdue.trans hsame)
  | silent p hsilent hsame hp => exact .silent p (hending.symm.trans hsilent) (hdue.trans hsame) hp
  | ended hnone hnone' hreads => exact .ended (hdue.trans hnone) hnone' hreads
  | cut hmem hsame => exact .cut (List.mem_append_right _ hmem) (hdue.trans hsame)
  | failed e hmem hsame => exact .failed e (List.mem_append_right _ hmem) (hdue.trans hsame)

/-- Looking at what has arrived uses no attempt to read. It delivers the first thing that is due, or
there is nothing yet and the same things are due. -/
theorem reading_of_buffered {s s₁ : Stream} {r : Option (Except ProtocolError ServerMessage)}
    (hfits : s.decoder.Fits) (h : s.buffered = (r, s₁)) (reads : List ReadOutcome) :
    Leaves (s.withReads reads) [] (s₁.withReads reads) ∧
      (s.withReads reads).due = r.toList ++ (s₁.withReads reads).due ∧
      (r = none → first? s₁.decoder.held = none) := by
  have hbound : s.decoder.pending < s.decoder.buffer.length + 2 := by
    rw [FrameDecoder.pending]
    split <;> omega
  obtain ⟨hsocket, houtput, hfits', hsame, hnone⟩ := deliveries_of_takeMessage hfits hbound h
  refine ⟨⟨?_, houtput, hfits'⟩, hsame _, hnone⟩
  rw [List.nil_append, withReads, withReads, hsocket]

/-- Behind the last read of a stream that holds no message nothing is due. -/
theorem due_of_first?_none {s : Stream} (h : first? s.decoder.held = none) :
    (s.withReads []).due = [] := by
  refine Frame.deliveries_of_first?_none ?_
  change first? (s.decoder.held ++ []) = none
  rw [List.append_nil, h]

/-- What is left behind a later state, one attempt further on, is left behind the first state. -/
theorem Leaves.of_later {s s₁ t s' : Stream} {outcome : ReadOutcome} {reads used : List ReadOutcome}
    (h₁ : Leaves (s.withReads (outcome :: reads)) [] (s₁.withReads (outcome :: reads)))
    (hsocket : t.socket = s₁.socket) (houtput : t.output = s₁.output)
    (h : Leaves (t.withReads reads) used s') :
    Leaves (s.withReads (outcome :: reads)) (outcome :: used) s' := by
  refine ⟨?_, h.output_eq.trans (houtput.trans h₁.output_eq), h.fits⟩
  have hlater : { s₁.socket with reads } = { s'.socket with reads := used ++ s'.socket.reads } := by
    rw [← hsocket]
    exact h.socket_eq
  rw [h₁.socket_eq]
  exact congrArg (fun k : Socket => { k with reads := outcome :: k.reads }) hlater

/-- With no attempt left reading comes to one of these things. -/
theorem reading_of_readMessage_nil {patient : Bool} {s s' : Stream}
    {p : Poll (Except Cause ServerMessage)} (hfits : s.decoder.Fits)
    (h : readMessage patient [] s = (p, s')) :
    ∃ used, Leaves (s.withReads []) used s' ∧ Reading (s.withReads []) used s' p := by
  unfold readMessage at h
  split at h
  next r s₁ hb =>
    obtain ⟨rfl, rfl⟩ := Prod.mk.inj h
    obtain ⟨hleaves, hdue, -⟩ := reading_of_buffered hfits hb []
    exact ⟨[], hleaves, .delivered r hdue⟩
  next s₁ hb =>
    obtain ⟨hleaves, hdue, hnone⟩ := reading_of_buffered hfits hb []
    have hsilent (hending : s₁.socket.ending = .silent) : (s.withReads []).socket.ending = .silent := by
      rw [hleaves.socket_eq]
      exact hending
    dsimp only at h
    split at h
    next hending =>
      obtain ⟨rfl, rfl⟩ := Prod.mk.inj h
      have hend := due_of_first?_none (hnone rfl)
      exact ⟨[], hleaves, .ended (hdue.trans hend) hend rfl⟩
    next hending =>
      split at h
      · obtain ⟨rfl, rfl⟩ := Prod.mk.inj h
        exact ⟨[], hleaves, .silent _ (hsilent hending) hdue (.inr rfl)⟩
      · obtain ⟨rfl, rfl⟩ := Prod.mk.inj h
        exact ⟨[], hleaves, .silent _ (hsilent hending) hdue (.inl rfl)⟩

/-- Reading comes to one of these things. -/
theorem reading_of_readMessage {patient : Bool} {reads : List ReadOutcome} {s s' : Stream}
    {p : Poll (Except Cause ServerMessage)} (hfits : s.decoder.Fits)
    (h : readMessage patient reads s = (p, s')) :
    ∃ used, Leaves (s.withReads reads) used s' ∧ Reading (s.withReads reads) used s' p := by
  induction reads generalizing s with
  | nil => exact reading_of_readMessage_nil hfits h
  | cons outcome reads ih =>
    unfold readMessage at h
    split at h
    next r s₁ hb =>
      obtain ⟨rfl, rfl⟩ := Prod.mk.inj h
      obtain ⟨hleaves, hdue, -⟩ := reading_of_buffered hfits hb (outcome :: reads)
      exact ⟨[], hleaves, .delivered r hdue⟩
    next s₁ hb =>
      obtain ⟨hleaves, hdue, -⟩ := reading_of_buffered hfits hb (outcome :: reads)
      have hfits₁ : s₁.decoder.Fits := hleaves.fits
      have hending : s₁.socket.ending = s.socket.ending := by
        exact (congrArg Socket.ending hleaves.socket_eq).symm
      -- Reading stops behind this attempt, and the stream stays as it is.
      have hstop (hs : s₁.withReads reads = s')
          (hp : ∀ s', (s.withReads (outcome :: reads)).due = s'.due →
            Reading (s.withReads (outcome :: reads)) [outcome] s' p)
          (hsame : (s₁.withReads (outcome :: reads)).unread = (s₁.withReads reads).unread) :
          ∃ used, Leaves (s.withReads (outcome :: reads)) used s' ∧
            Reading (s.withReads (outcome :: reads)) used s' p := by
        subst hs
        refine ⟨[outcome], hleaves.of_later (t := s₁) rfl rfl ⟨rfl, rfl, hfits₁⟩, hp _ ?_⟩
        exact hdue.trans (congrArg deliveries hsame)
      -- Reading goes on behind this attempt, with what it brought.
      have hgo {t : Stream} (hsocket : t.socket = s₁.socket) (houtput : t.output = s₁.output)
          (hfits' : t.decoder.Fits)
          (hsame : (s₁.withReads (outcome :: reads)).unread = (t.withReads reads).unread)
          (h : readMessage patient reads t = (p, s')) :
          ∃ used, Leaves (s.withReads (outcome :: reads)) used s' ∧
            Reading (s.withReads (outcome :: reads)) used s' p := by
        obtain ⟨used, hleaves', hreading⟩ := ih hfits' h
        refine ⟨outcome :: used, hleaves.of_later hsocket houtput hleaves', ?_⟩
        apply hreading.of_later [outcome]
        · exact hdue.trans (congrArg deliveries hsame)
        · exact (congrArg Socket.ending hsocket).trans hending
      cases outcome with
      | data bytes =>
        cases bytes with
        | nil =>
          obtain ⟨rfl, hs⟩ := Prod.mk.inj h
          exact hstop hs (fun s' => .cut (List.mem_singleton_self _)) rfl
        | cons b bytes =>
          exact hgo (t := s₁.feed (b :: bytes)) rfl rfl (hfits₁.feed _) (takes_feed s₁ (b :: bytes) reads).unread_eq h
      | pending =>
        dsimp only at h
        split at h
        · exact hgo rfl rfl hfits₁ rfl h
        · obtain ⟨rfl, hs⟩ := Prod.mk.inj h
          exact hstop hs (fun s' => .suspended (List.mem_singleton_self _)) rfl
      | failed e =>
        obtain ⟨rfl, hs⟩ := Prod.mk.inj h
        exact hstop hs (fun s' => .failed e (List.mem_singleton_self _)) rfl

/-- A flush leaves alone what is read. -/
theorem flushWith_keeps (patient : Bool) (s : Stream) :
    (s.flushWith patient).2.decoder = s.decoder ∧
      (s.flushWith patient).2.socket.reads = s.socket.reads ∧
      (s.flushWith patient).2.socket.ending = s.socket.ending := by
  obtain ⟨flushes, h⟩ := s.exists_flushes_of_flushWith patient
  rw [h]
  exact ⟨rfl, rfl, rfl⟩

/-- What is done in front of reading leaves alone what is read. -/
theorem flushOutput_keeps (patient : Bool) (s : Stream) :
    (s.flushOutput patient).2.decoder = s.decoder ∧
      (s.flushOutput patient).2.socket.reads = s.socket.reads ∧
      (s.flushOutput patient).2.socket.ending = s.socket.ending := by
  unfold flushOutput
  split
  · exact ⟨rfl, rfl, rfl⟩
  · exact s.flushWith_keeps patient

/-- What is done with a stream. -/
inductive Call where
  | send (m : ClientMessage)
  | flush
  | receive

/-- The stream after a call. A message is put behind the buffer. -/
def afterCall (s : Stream) : Call → Stream
  | .send m => { s with output := s.output ++ m.toBytes }
  | .flush => s.pollFlush.2
  | .receive => s.pollReceive.2

/-- What a call comes to that receives and gets to read, because all that was buffered is written. -/
def heardIn (s : Stream) : Call → Option (Poll (Except Cause ServerMessage))
  | .receive =>
    match (s.flushOutput false).1 with
    | .ready (.ok ()) => some s.pollReceive.1
    | _ => none
  | _ => none

/-- What the calls of a run come to that get to read. -/
def heard (s : Stream) : List Call → List (Poll (Except Cause ServerMessage))
  | [] => []
  | call :: calls => (s.heardIn call).toList ++ (s.afterCall call).heard calls

/-- How often the socket will still have nothing to read yet. -/
def pauses (s : Stream) : Nat :=
  s.socket.reads.count .pending

/-- A stream of bytes that arrives in pieces and then ends. -/
structure Flows (s : Stream) : Prop where
  fits : s.decoder.Fits
  pieces : ∀ outcome ∈ s.socket.reads, outcome.IsPiece
  ending_eq : s.socket.ending = .closed

/-- Reading from a stream that flows delivers the first thing that is due, or has to pause, or is at the
end of the bytes with nothing due; and the stream flows on. -/
theorem Flows.of_readMessage {s s' : Stream} {p : Poll (Except Cause ServerMessage)} (h : s.Flows)
    (hread : readMessage false s.socket.reads s = (p, s')) :
    s'.Flows ∧ s'.pauses ≤ s.pauses ∧
      ((∃ r, p = .ready (r.mapError .protocol) ∧ s.due = r :: s'.due) ∨
        (p = .pending ∧ s.due = s'.due ∧ s'.pauses < s.pauses) ∨
        (p = .ready (.error (.io .endOfStream)) ∧ s.due = [] ∧ s'.due = [])) := by
  obtain ⟨used, hleaves, hreading⟩ := reading_of_readMessage h.fits hread
  have hreads : s.socket.reads = used ++ s'.socket.reads := congrArg Socket.reads hleaves.socket_eq
  have hending : s'.socket.ending = s.socket.ending :=
    (congrArg Socket.ending hleaves.socket_eq).symm
  have hpieces := h.pieces
  rw [hreads, List.forall_mem_append] at hpieces
  have hpauses : s.pauses = used.count .pending + s'.pauses := by
    rw [pauses, hreads, List.count_append, pauses]
  refine ⟨⟨hleaves.fits, hpieces.2, hending.trans h.ending_eq⟩, by omega, ?_⟩
  cases hreading with
  | delivered r hdue => exact .inl ⟨r, rfl, hdue⟩
  | suspended hmem hdue =>
    have hpos := List.count_pos_iff.mpr hmem
    exact .inr (.inl ⟨rfl, hdue, by omega⟩)
  | silent p hsilent _ _ =>
    have hclosed := h.ending_eq
    rw [show s.socket.ending = .silent from hsilent] at hclosed
    cases hclosed
  | ended hdue hdue' _ => exact .inr (.inr ⟨rfl, hdue, hdue'⟩)
  | cut hmem _ => exact absurd rfl (hpieces.1 _ hmem)
  | failed e hmem _ => exact (hpieces.1 _ hmem).elim

/-- Writing the buffer leaves alone what is read. -/
theorem Flows.flushOutput {s : Stream} (h : s.Flows) : (s.flushOutput false).2.Flows := by
  obtain ⟨hdecoder, hreads, hending⟩ := s.flushOutput_keeps false
  exact ⟨hdecoder ▸ h.fits, hreads ▸ h.pieces, hending.trans h.ending_eq⟩

/-- A call that does not get to read leaves alone what is read. -/
theorem afterCall_of_heardIn_eq_none {s : Stream} {call : Call} (h : s.heardIn call = none) :
    (s.afterCall call).decoder = s.decoder ∧
      (s.afterCall call).socket.reads = s.socket.reads ∧
      (s.afterCall call).socket.ending = s.socket.ending := by
  cases call with
  | send m => exact ⟨rfl, rfl, rfl⟩
  | flush => exact s.flushWith_keeps false
  | receive =>
    have hkeeps := s.flushOutput_keeps false
    rw [heardIn] at h
    rw [afterCall, pollReceive, receiveWith]
    split
    next hflush =>
      rw [hflush] at h
      cases h
    next hflush =>
      rw [hflush] at hkeeps
      exact hkeeps
    next hflush =>
      rw [hflush] at hkeeps
      exact hkeeps

/-- A call that gets to read has written the buffer, and then it reads. -/
theorem of_heardIn_eq_some {s : Stream} {call : Call} {p : Poll (Except Cause ServerMessage)}
    (h : s.heardIn call = some p) :
    readMessage false (s.flushOutput false).2.socket.reads (s.flushOutput false).2 = (p, s.afterCall call) := by
  cases call with
  | send m => cases h
  | flush => cases h
  | receive =>
    rw [heardIn] at h
    split at h
    next hflush =>
      obtain rfl := Option.some.inj h
      rw [afterCall, pollReceive, receiveWith,
        show s.flushOutput false = (.ready (.ok ()), (s.flushOutput false).2) from Prod.ext hflush rfl]
    next => cases h

/-- A front of a list is a front of it with one more item behind. -/
private theorem prefix_replicate_succ {α : Type} {results due : List α} {n : Nat} {a : α}
    (h : results <+: due ++ List.replicate n a) : results <+: due ++ List.replicate (n + 1) a := by
  rw [List.replicate_succ', ← List.append_assoc]
  exact h.trans (List.prefix_append _ _)

/-- What is heard in a run is what is due, in order, and behind it the end of the bytes over and over;
and it is as much as there were turns to read, but for those at which the socket paused. -/
theorem heard_of_flows {s : Stream} (h : s.Flows) (calls : List Call) :
    let results := (s.heard calls).filterMap Poll.result?
    results <+: s.due.map (·.mapError .protocol) ++
        List.replicate results.length (.error (.io .endOfStream)) ∧
      (s.heard calls).length ≤ results.length + s.pauses := by
  induction calls generalizing s with
  | nil => exact ⟨List.nil_prefix, Nat.zero_le _⟩
  | cons call calls ih =>
    rw [heard]
    cases hcall : s.heardIn call with
    | none =>
      obtain ⟨hdecoder, hreads, hending⟩ := afterCall_of_heardIn_eq_none hcall
      have hflows : (s.afterCall call).Flows :=
        ⟨by rw [hdecoder]; exact h.fits, by rw [hreads]; exact h.pieces, hending.trans h.ending_eq⟩
      have hrest := ih hflows
      rw [due, unread, pauses, hdecoder, hreads] at hrest
      exact hrest
    | some p =>
      obtain ⟨hflows, hpauses, hcases⟩ := h.flushOutput.of_readMessage (of_heardIn_eq_some hcall)
      obtain ⟨hrest, hlength⟩ := ih hflows
      obtain ⟨hdecoder, hreads, -⟩ := s.flushOutput_keeps false
      have hsame : (s.flushOutput false).2.due = s.due := by rw [due, unread, hdecoder, hreads]; rfl
      have hcount : (s.flushOutput false).2.pauses = s.pauses := by rw [pauses, hreads]; rfl
      rw [hcount] at hpauses
      rw [hsame, hcount] at hcases
      obtain ⟨r, rfl, hdue⟩ | ⟨rfl, hdue, hpause⟩ | ⟨rfl, hdue, hdue'⟩ := hcases
      · dsimp only [Option.toList_some, List.singleton_append, List.filterMap_cons, Poll.result?]
        rw [hdue, List.map_cons, List.cons_append, List.cons_prefix_cons, List.length_cons,
          List.length_cons]
        exact ⟨⟨rfl, prefix_replicate_succ hrest⟩, by omega⟩
      · dsimp only [Option.toList_some, List.singleton_append, List.filterMap_cons, Poll.result?]
        rw [hdue, List.length_cons]
        exact ⟨hrest, by omega⟩
      · rw [hdue', List.map_nil, List.nil_append] at hrest
        dsimp only [Option.toList_some, List.singleton_append, List.filterMap_cons, Poll.result?]
        rw [hdue, List.map_nil, List.nil_append, List.length_cons, List.length_cons,
          List.replicate_succ, List.cons_prefix_cons]
        exact ⟨⟨rfl, hrest⟩, by omega⟩

/-- A call that has something to write does so before it reads. Writing leaves alone what is read; only
if all of it was written the call goes on to read, and otherwise it has no message. -/
theorem pollReceive_of_flushOutput (s : Stream) :
    let flushed := s.flushOutput false
    flushed.2.decoder = s.decoder ∧ flushed.2.socket.reads = s.socket.reads ∧
      ((flushed.2.output = [] ∧ flushed.2.socket.sent = s.socket.sent ++ s.output ∧
          s.pollReceive = flushed.2.pollReceive) ∨
        (s.pollReceive.2 = flushed.2 ∧ ∀ m, s.pollReceive.1 ≠ .ready (.ok m))) := by
  obtain ⟨hdecoder, hreads, -⟩ := s.flushOutput_keeps false
  refine ⟨hdecoder, hreads, ?_⟩
  rw [pollReceive, receiveWith]
  cases hflush : s.flushOutput false with
  | mk p t =>
    cases p with
    | pending => exact .inr ⟨rfl, fun _ h => by cases h⟩
    | ready r =>
      cases r with
      | error e => exact .inr ⟨rfl, fun _ h => by cases h⟩
      | ok _ =>
        obtain ⟨hsent, houtput, -⟩ := flushOutput_eq_ok hflush
        refine .inl ⟨houtput, hsent, ?_⟩
        rw [pollReceive, receiveWith, flushOutput_of_output_eq_nil houtput]

/-- Where nothing is buffered, every call that receives gets to read. -/
theorem length_heard_receive {s : Stream} (h : s.decoder.Fits) (houtput : s.output = []) (n : Nat) :
    (s.heard (List.replicate n .receive)).length = n := by
  induction n generalizing s with
  | zero => rfl
  | succ n ih =>
    have hflush : s.flushOutput false = (.ready (.ok ()), s) := flushOutput_of_output_eq_nil houtput
    have hcall : s.heardIn .receive = some s.pollReceive.1 := by rw [heardIn, hflush]
    have hread := of_heardIn_eq_some hcall
    rw [hflush] at hread
    obtain ⟨used, hleaves, -⟩ := reading_of_readMessage h hread
    rw [List.replicate_succ, heard, hcall, List.length_append, ih hleaves.fits
      (hleaves.output_eq.trans houtput)]
    exact Nat.add_comm 1 n

/-- Every relevant message is delivered once. The bytes of the server arrive in any pieces, with any
pauses, and end. Whatever is sent and flushed in between, the receive calls that get to read come to the
deliveries of these bytes, in order and each once, and then to the end of the bytes over and over; they
fall behind by one call for each pause of the socket, and where nothing is buffered every call gets to
read. A call with something to write leaves the bytes of the server alone until all of it was written. -/
theorem heard_of_pieces {s : Stream} (hdecoder : s.decoder = .empty)
    (hpieces : ∀ outcome ∈ s.socket.reads, outcome.IsPiece) (hending : s.socket.ending = .closed) :
    (∀ calls : List Call,
      let results := (s.heard calls).filterMap Poll.result?
      results <+: (deliveries (s.socket.reads.flatMap ReadOutcome.bytes)).map (·.mapError .protocol) ++
          List.replicate results.length (.error (.io .endOfStream)) ∧
        (s.heard calls).length ≤ results.length + s.socket.reads.count .pending) ∧
    (s.output = [] → ∀ n, (s.heard (List.replicate n .receive)).length = n) ∧
    ∀ t : Stream,
      let flushed := t.flushOutput false
      flushed.2.decoder = t.decoder ∧ flushed.2.socket.reads = t.socket.reads ∧
        ((flushed.2.output = [] ∧ flushed.2.socket.sent = t.socket.sent ++ t.output ∧
            t.pollReceive = flushed.2.pollReceive) ∨
          (t.pollReceive.2 = flushed.2 ∧ ∀ m, t.pollReceive.1 ≠ .ready (.ok m))) := by
  have hfits : s.decoder.Fits := by
    rw [hdecoder]
    exact FrameDecoder.fits_empty
  have hflows : s.Flows := ⟨hfits, hpieces, hending⟩
  have hunread : s.unread = s.socket.reads.flatMap ReadOutcome.bytes := by
    rw [unread, hdecoder]
    rfl
  refine ⟨fun calls => ?_, length_heard_receive hfits, pollReceive_of_flushOutput⟩
  have hheard := heard_of_flows hflows calls
  rw [due, hunread] at hheard
  exact hheard

/-- A stream on which an unreadable report, a message of unknown type and the end of a cycle arrive, with
a pause inside a header. -/
def threeFrames : Stream :=
  { socket := {
      reads := [
        .data [0x4C, 0, 0, 0, 4, 0x7E, 0], .pending, .data [0, 0, 5, 1, 0x5A],
        .data [0, 0, 0, 7, 0, 0, 0x49]]
      writes := [.accepted 2, .pending] } }

/-- The calls of a client that sends while it reads. -/
def interleaved : List Call :=
  [.receive, .send .sync, .receive, .receive, .receive, .receive]

/-- Of the three frames two are delivered, and then the bytes are at their end. The second call cannot
write yet, and the third one comes to the pause. -/
theorem heard_of_pieces_threeFrames :
    (∀ outcome ∈ threeFrames.socket.reads, outcome.IsPiece) ∧
      (threeFrames.heard interleaved).filterMap Poll.result? =
        [.error (.protocol (.malformed (.underflow 1 0))),
          .ok (.readyForCommand ⟨[], .notInTransaction⟩), .error (.io .endOfStream)] := by
  have hpieces : ∀ outcome ∈ threeFrames.socket.reads, outcome.IsPiece := by
    intro outcome houtcome
    simp only [threeFrames, List.mem_cons, List.not_mem_nil, or_false] at houtcome
    obtain rfl | rfl | rfl | rfl := houtcome <;> simp [ReadOutcome.IsPiece]
  refine ⟨hpieces, ?_⟩
  obtain ⟨hheard, -⟩ := heard_of_pieces (s := threeFrames) rfl hpieces rfl
  obtain ⟨hfront, -⟩ := hheard interleaved
  have hlength : ((threeFrames.heard interleaved).filterMap Poll.result?).length = 3 := by decide +kernel
  have hdeliveries : deliveries (threeFrames.socket.reads.flatMap ReadOutcome.bytes) =
      [.error (.malformed (.underflow 1 0)), .ok (.readyForCommand ⟨[], .notInTransaction⟩)] := by cbv
  rw [hlength, hdeliveries] at hfront
  rw [List.prefix_iff_eq_take.mp hfront, hlength]
  rfl

end Stream

end GelClient
