import GelClient.Proofs.Connection.Cycle

/-!
# What a cycle brings

The messages of a cycle are received one by one, and each is taken by the connection as the earlier
ones left it. `Hears` says what a connection receives up to the end of a cycle, or up to a failure of
the transport or of the protocol that cuts the cycle short. Something is heard whatever the server
sends, it is what the frames of the cycle hold, and what is made of a cycle is a fold over it: the bound
on the messages is never reached.
-/

namespace GelClient

namespace Stream

/-- The bound on the messages counts the bytes that are to come and those that have arrived. -/
theorem backlog_eq (s : Stream) : s.backlog =
    (s.socket.reads.flatMap ReadOutcome.bytes).length + s.decoder.buffer.length + 1 := by
  rw [backlog, List.length_flatMap]
  congr 3
  apply List.map_congr_left
  intro outcome _
  cases outcome <;> rfl

/-- The bytes that belong to no frame yet are counted by the bound, but for a header. -/
theorem length_unread_le (s : Stream) : s.unread.length ≤ s.backlog + 4 := by
  have hheld : s.decoder.held.length ≤ s.decoder.buffer.length + 5 := by
    unfold FrameDecoder.held
    split
    · omega
    · simp only [List.length_append, List.length_cons, BigEndian.length_encode]
      omega
  rw [unread, List.length_append, backlog_eq]
  omega

/-- A message that is received leaves fewer bytes to read. -/
theorem length_unread_of_receive {s s' : Stream} {m : ServerMessage} (hs : s.output = [])
    (h : receive s = .ok m s') : s'.unread.length + 5 ≤ s.unread.length := by
  obtain ⟨frames, htakes, hmessages⟩ := takes_of_receive hs h
  rw [htakes.unread_eq, List.length_append]
  cases frames with
  | nil => cases hmessages
  | cons f frames =>
    simp only [List.flatMap_cons, Frame.toBytes, List.length_append, List.length_cons,
      BigEndian.length_encode]
    omega

end Stream

namespace Connection

open Actions

/-- What a connection hears in a cycle: the messages before its end, and then its end or a failure to
receive. -/
inductive Hears (q : Query) :
    Connection → List Received → Except Cause ReadyForCommand → Connection → Prop
  | ready {c c' : Connection} {ready : ReadyForCommand} : receive c = .ok (.readyForCommand ready) c' →
      Hears q c [] (.ok ready) { c' with transactionState := ready.transactionState }
  | lost {c c' : Connection} {e : Cause} : receive c = .error e c' → Hears q c [] (.error e) c'
  | more {c c₁ c' : Connection} {m : ServerMessage} {xs : List Received}
      {ending : Except Cause ReadyForCommand} : receive c = .ok m c₁ → m.kind ≠ .readyForCommand →
      Hears q (Received.after q ⟨c₁, m⟩) xs ending c' → Hears q c (⟨c₁, m⟩ :: xs) ending c'

/-- A message of the kind that ends a cycle ends it. -/
theorem exists_of_kind_ready {m : ServerMessage} (h : m.kind = .readyForCommand) :
    ∃ ready, m = .readyForCommand ready := by
  cases m with
  | readyForCommand ready => exact ⟨ready, rfl⟩
  | _ => cases h

/-- With nothing to write a connection hears something up to the end of a cycle or up to a failure. -/
theorem exists_hears (q : Query) {c : Connection} (ho : c.stream.output = []) :
    ∃ xs ending c', Hears q c xs ending c' := by
  induction hlength : c.stream.unread.length using Nat.strongRecOn generalizing c with
  | ind n ih =>
    subst hlength
    cases hm : receive c with
    | error e c₁ => exact ⟨[], .error e, c₁, .lost hm⟩
    | ok m c₁ =>
      by_cases hkind : m.kind = .readyForCommand
      · obtain ⟨ready, rfl⟩ := exists_of_kind_ready hkind
        exact ⟨[], .ok ready, _, .ready hm⟩
      · obtain ⟨s, hs, rfl⟩ := onStream_eq_ok hm
        have hstream := (Received.after_stream q ⟨{ c with stream := s }, m⟩).1
        have hless := Stream.length_unread_of_receive ho hs
        obtain ⟨xs, ending, c', hears⟩ := ih _ (by rw [hstream]; dsimp only; omega)
          (by rw [hstream]; exact Stream.output_of_receive hs) rfl
        exact ⟨_, ending, c', .more hm hkind hears⟩

/-- Every message that is heard takes up some bytes. -/
theorem Hears.length_le {q : Query} {c c' : Connection} {xs : List Received}
    {ending : Except Cause ReadyForCommand} (h : Hears q c xs ending c') (ho : c.stream.output = []) :
    5 * xs.length ≤ c.stream.unread.length := by
  induction h with
  | ready | lost => exact Nat.zero_le _
  | more hm hkind hears ih =>
    obtain ⟨s, hs, rfl⟩ := onStream_eq_ok hm
    have hless := Stream.length_unread_of_receive ho hs
    have hrest := ih (by rw [(Received.after_stream q _).1]; exact Stream.output_of_receive hs)
    rw [(Received.after_stream q _).1] at hrest
    rw [List.length_cons]
    dsimp only at hrest
    omega

/-- What is heard up to the end of a cycle is what its frames hold, the end included. -/
theorem Hears.takes {q : Query} {c c' : Connection} {xs : List Received} {ready : ReadyForCommand}
    (h : Hears q c xs (.ok ready) c') (ho : c.stream.output = []) :
    ∃ frames, c.stream.Takes c'.stream frames ∧
      frames.filterMap Frame.message? =
        (xs.map Received.message ++ [ServerMessage.readyForCommand ready]).map .ok := by
  generalize hending : (Except.ok ready : Except Cause ReadyForCommand) = ending at h
  induction h with
  | ready hm =>
    cases hending
    obtain ⟨s, hs, rfl⟩ := onStream_eq_ok hm
    exact Stream.takes_of_receive ho hs
  | lost hm => cases hending
  | more hm hkind hears ih =>
    obtain ⟨s, hs, rfl⟩ := onStream_eq_ok hm
    obtain ⟨first, hfirst, hmessage⟩ := Stream.takes_of_receive ho hs
    obtain ⟨rest, hrest, hmessages⟩ :=
      ih (by rw [(Received.after_stream q _).1]; exact Stream.output_of_receive hs) hending
    rw [(Received.after_stream q _).1] at hrest
    refine ⟨first ++ rest, hfirst.trans hrest, ?_⟩
    rw [List.filterMap_append, hmessage, hmessages]
    rfl

/-- What a cycle comes to: the reply, or the failure to receive. -/
def Reply.ended (r : Reply) (ending : Except Cause ReadyForCommand) (c : Connection) :
    EStateM.Result Cause Connection Reply :=
  match ending with
  | .ok _ => .ok r c
  | .error e => .error e c

/-- Within the bound a cycle takes everything that is heard, in order. -/
theorem readCycle_of_hears (command : Command) {q : Query} {c c' : Connection} {xs : List Received}
    {ending : Except Cause ReadyForCommand} (h : Hears q c xs ending c') {bound : Nat}
    (hbound : xs.length < bound) (r : Reply) :
    readCycle command q bound r c = (xs.foldl (Reply.next command q) r).ended ending c' := by
  induction h generalizing bound r with
  | ready hm =>
    obtain ⟨bound, rfl⟩ := Nat.exists_eq_add_one_of_ne_zero (Nat.ne_of_gt hbound)
    rw [readCycle, bind_of_ok hm]
    rfl
  | lost hm =>
    obtain ⟨bound, rfl⟩ := Nat.exists_eq_add_one_of_ne_zero (Nat.ne_of_gt hbound)
    rw [readCycle, bind_of_error hm]
    rfl
  | @more c c₁ _ m xs ending hm hkind hears ih =>
    obtain ⟨bound, rfl⟩ : ∃ n, bound = n + 1 := ⟨bound - 1, by rw [List.length_cons] at hbound; omega⟩
    have habsorb := absorb_apply command q r ⟨c₁, m⟩
    have hstep : readCycle command q (bound + 1) r c =
        readCycle command q bound (r.next command q ⟨c₁, m⟩) (Received.after q ⟨c₁, m⟩) := by
      rw [readCycle, bind_of_ok hm]
      cases m with
      | readyForCommand ready => exact absurd rfl hkind
      | _ => exact bind_of_ok habsorb
    rw [hstep, ih (Nat.lt_of_succ_lt_succ hbound), List.foldl_cons]

/-- A command that was sent is answered by everything that is heard. -/
theorem runCycle_of_hears (command : Command) {q : Query} {message : ClientMessage}
    {c c₁ c' : Connection} {xs : List Received} {ending : Except Cause ReadyForCommand}
    (hsend : sendAll [message, .sync] c = .ok () c₁) (h : Hears q c₁ xs ending c') (r : Reply) :
    runCycle command q message r c = (xs.foldl (Reply.next command q) r).ended ending c' := by
  have hlength := h.length_le (sendAll_eq_ok hsend).2.1
  have hunread := c₁.stream.length_unread_le
  rw [runCycle, bind_of_ok hsend, get_bind_apply]
  exact readCycle_of_hears command h (by omega) r

end Connection

end GelClient
