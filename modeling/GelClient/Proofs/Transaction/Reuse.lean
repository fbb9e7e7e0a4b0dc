import GelClient.Proofs.Connection.Cycle
import GelClient.Proofs.Transaction.Attempts
import Mathlib.Algebra.Group.Nat.Defs

/-!
# What a run does with a client that must be replaced

Some failures say that the connection must be replaced before anything is run again. All of them are worth
another attempt, and that alone decides whether a run goes on; so such a failure is followed by another start
on the same client as long as attempts are left, and a run never fails with it, only with giving up after it.
A connection is no help in this: once it was lost, every start on it fails at once and sends nothing, until
the run is given up with that.
-/

namespace GelClient

open Actions

/-- What asks for another connection is worth another attempt. -/
theorem Cause.isRetryable_of_reconnectRequired {e : Cause} (h : e.reconnectRequired = true) :
    e.isRetryable = true := by
  cases e with
  | database e => exact ErrorCode.isRetryable_of_reconnectRequired h
  | connection e => cases e <;> first | rfl | cases h
  | _ => cases h

namespace Transactable

variable {σ α : Type}

namespace Attempt

/-- A run that may not end with a failure as it is ends otherwise. -/
theorem verdict_ne_error {number : Nat} (a : Attempt α) {e : Cause} (he : e.isRetryable = true) :
    a.verdict number ≠ .error e := by
  intro h
  cases ha : a.result with
  | ok x =>
    rw [verdict, ha] at h
    cases h
  | error e' =>
    cases he' : e'.isRetryable with
    | false =>
      rw [verdict_of_final ha he', Except.error.injEq] at h
      rw [h, he] at he'
      cases he'
    | true =>
      rw [verdict_of_retryable ha he', Except.error.injEq] at h
      rw [← h, Cause.isRetryable_exhausted] at he
      cases he

/-- The calls of attempts are those of the first ones and then those of the others. -/
theorem callsFrom_append (settings : TransactionSettings) (number : Nat) (front back : List (Attempt α)) :
    callsFrom settings number (front ++ back) =
      callsFrom settings number front ++ callsFrom settings (number + front.length) back := by
  induction front generalizing number with
  | nil => rfl
  | cons a front ih =>
    rw [List.cons_append, callsFrom, callsFrom, ih, List.append_assoc, List.length_cons,
      Nat.add_right_comm, Nat.add_assoc]

/-- Every attempt starts with a start. -/
theorem exists_start (settings : TransactionSettings) (number : Nat) {attempts : List (Attempt α)}
    (h : attempts ≠ []) :
    ∃ started rest, callsFrom settings number attempts = .start settings started :: rest := by
  cases attempts with
  | nil => exact absurd rfl h
  | cons a attempts => cases a <;> exact ⟨_, _, rfl⟩

end Attempt

/-- A run makes an attempt. -/
theorem Follows.ne_nil {more number : Nat} {attempts : List (Attempt α)} {result : Except Cause α}
    (h : Follows more number attempts result) : attempts ≠ [] := by
  cases h <;> exact List.cons_ne_nil _ _

/-- A run makes at most one attempt more than it may try again. -/
theorem Follows.length_le {more number : Nat} {attempts : List (Attempt α)} {result : Except Cause α}
    (h : Follows more number attempts result) : attempts.length ≤ more + 1 := by
  obtain ⟨earlier, last, rfl, hlength, -⟩ := h.exists_last
  rw [List.length_append]
  exact Nat.succ_le_succ hlength

/-- A run does not fail with what is worth another attempt. -/
theorem Follows.result_ne {more number : Nat} {attempts : List (Attempt α)} {result : Except Cause α}
    (h : Follows more number attempts result) {e : Cause} (he : e.isRetryable = true) :
    result ≠ .error e := by
  induction h with
  | last _ => exact Attempt.verdict_ne_error _ he
  | retried _ _ ih => exact ih

/-- A failure that is worth another attempt is followed by one, or the run is given up. -/
theorem Follows.followed_or_exhausted {more number : Nat} {attempts front back : List (Attempt α)}
    {result : Except Cause α} {a : Attempt α} {e : Cause} (h : Follows more number attempts result)
    (hsplit : attempts = front ++ a :: back) (ha : a.result = .error e) (he : e.isRetryable = true) :
    (front.length < more ∧ back ≠ []) ∨
      (front.length = more ∧ back = [] ∧ result = .error (.exhausted (number + more) e)) := by
  induction h generalizing front with
  | @last more number a' ha' =>
    cases front with
    | nil =>
      cases hsplit
      obtain rfl := ha' ⟨e, ha, he⟩
      exact .inr ⟨rfl, rfl, Attempt.verdict_of_retryable ha he⟩
    | cons _ front => simp at hsplit
  | @retried more number a' attempts result ha' rest ih =>
    cases front with
    | nil =>
      cases hsplit
      exact .inl ⟨Nat.zero_lt_succ more, rest.ne_nil⟩
    | cons _ front =>
      obtain ⟨-, hrest⟩ := List.cons.inj hsplit
      obtain ⟨hlt, hback⟩ | ⟨hlength, hback, hresult⟩ := ih hrest
      · exact .inl ⟨Nat.succ_lt_succ hlt, hback⟩
      · refine .inr ⟨congrArg Nat.succ hlength, hback, ?_⟩
        rw [hresult, Nat.add_assoc, Nat.add_comm 1]

section Run

variable (client : Transactable σ) (settings : TransactionSettings)
  (body : Nat → EStateM Cause σ α)

/-- An attempt that fails with a cause for which the client must be replaced is followed by another start on
the same client, right behind its calls, or it was the last one that was allowed and the run is given up. No run
fails with such a cause itself. Attempts are counted in 32 bits, and the greatest number of retries is left out
because the attempt behind the last of them could not be counted. -/
theorem restarts_of_run (hbound : settings.retryAttempts < 2 ^ 32 - 1) (s : σ) :
    ∃ (attempts : List (Attempt α)) (result : Except Cause α) (t : σ),
      client.run settings body s = ended result t ∧
      (recorded client).run settings (recordedBody body) ⟨s, []⟩ =
        ended result ⟨t, Attempt.callsFrom settings 1 attempts⟩ ∧
      attempts.length < 2 ^ 32 ∧
      (∀ e, e.reconnectRequired = true → result ≠ .error e) ∧
      ∀ front a back e, attempts = front ++ a :: back → a.result = .error e →
        e.reconnectRequired = true →
        (front.length < settings.retryAttempts ∧ ∃ started rest, Attempt.callsFrom settings 1 attempts =
          Attempt.callsFrom settings 1 (front ++ [a]) ++ .start settings started :: rest) ∨
        (front.length = settings.retryAttempts ∧ back = [] ∧
          result = .error (.exhausted (settings.retryAttempts + 1) e)) := by
  obtain ⟨attempts, result, t, hfollows, hplain, hrecorded⟩ :=
    runFrom_recorded client settings body settings.retryAttempts 1 ⟨s, []⟩
  refine ⟨attempts, result, t, hplain, hrecorded, ?_, fun e he => ?_, ?_⟩
  · have hlength := hfollows.length_le
    omega
  · exact hfollows.result_ne (Cause.isRetryable_of_reconnectRequired he)
  · intro front a back e hsplit ha he
    have hretryable := Cause.isRetryable_of_reconnectRequired he
    obtain ⟨hlt, hback⟩ | ⟨hlength, hback, hresult⟩ := hfollows.followed_or_exhausted hsplit ha hretryable
    · obtain ⟨started, rest, hstart⟩ :=
        Attempt.exists_start settings (1 + (front ++ [a]).length) hback
      refine .inl ⟨hlt, started, rest, ?_⟩
      rw [hsplit, List.append_cons, Attempt.callsFrom_append, hstart]
    · exact .inr ⟨hlength, hback, by rw [hresult, Nat.add_comm]⟩

end Run

/-- What the server says when it ends a session that was idle for too long. -/
def idleTimeout : Cause :=
  .database { severity := .error, code := .idleSessionTimeout, message := "idle", attributes := [] }

/-- A client whose statements all succeed. -/
def willing : Transactable Unit where
  start _ := pure ()
  commit := pure ()
  rollback := pure ()
  note _ s := s

/-- A body whose first run finds the session ended. -/
def timedOutOnce : Nat → EStateM Cause Unit Nat
  | 1 => throw idleTimeout
  | number => pure number

/-- The calls of a run that is started again behind a session that has ended. -/
def timedOutCalls : List (Call Nat) :=
  [.start {} (.ok ()), .body 1 (.error idleTimeout), .rollback (.ok ()),
    .start {} (.ok ()), .body 2 (.ok 2), .commit (.ok ())]

/-- The run starts again behind the session that has ended, and succeeds. -/
private theorem recorded_run_timedOutOnce :
    (recorded willing).run {} (recordedBody timedOutOnce) ⟨(), []⟩ = .ok 2 ⟨(), timedOutCalls⟩ := by
  have hfirst : (recorded willing).attempt {} (recordedBody timedOutOnce) 1 ⟨(), []⟩ =
      .ok (.error idleTimeout) ⟨(), [.start {} (.ok ()), .body 1 (.error idleTimeout), .rollback (.ok ())]⟩ :=
    rfl
  rw [run, runFrom_succ hfirst rfl]
  exact runFrom_of_ok rfl

/-- A run starts another transaction on a client that must be replaced, and does not fail with what says so. -/
theorem restarted_after_idleTimeout :
    idleTimeout.reconnectRequired = true ∧
    (recorded willing).run {} (recordedBody timedOutOnce) ⟨(), []⟩ = .ok 2 ⟨(),
      [.start {} (.ok ()), .body 1 (.error idleTimeout), .rollback (.ok ()),
        .start {} (.ok ()), .body 2 (.ok 2), .commit (.ok ())]⟩ :=
  ⟨rfl, recorded_run_timedOutOnce⟩

/-- With the settings that are used if none are given, the attempt that finds the session ended is followed by
another start. -/
theorem restarts_of_run_timedOutOnce :
    ({} : TransactionSettings).retryAttempts < 2 ^ 32 - 1 ∧
    ∃ attempts : List (Attempt Nat), Attempt.callsFrom {} 1 attempts = timedOutCalls ∧
      ∀ front a back e, attempts = front ++ a :: back → a.result = .error e → e.reconnectRequired = true →
        front.length < 3 ∧ ∃ started rest,
          timedOutCalls = Attempt.callsFrom {} 1 (front ++ [a]) ++ .start {} started :: rest := by
  have hbound : ({} : TransactionSettings).retryAttempts < 2 ^ 32 - 1 := by decide
  obtain ⟨attempts, result, t, -, hrecorded, -, -, hrestarts⟩ :=
    restarts_of_run willing {} timedOutOnce hbound ()
  rw [recorded_run_timedOutOnce] at hrecorded
  cases result with
  | error e => cases hrecorded
  | ok x =>
    obtain ⟨rfl, ht⟩ := EStateM.Result.ok.inj hrecorded
    have hcalls : timedOutCalls = Attempt.callsFrom {} 1 attempts := congrArg Recorded.calls ht
    refine ⟨hbound, attempts, hcalls.symm, fun front a back e hsplit ha he => ?_⟩
    obtain ⟨hlt, hnext⟩ | ⟨-, -, hresult⟩ := hrestarts front a back e hsplit ha he
    · rw [hcalls]
      exact ⟨hlt, hnext⟩
    · cases hresult

end Transactable

namespace Connection

open Transactable

/-- Giving up with what asks for another connection leaves the connection unusable. -/
theorem not_isConnected_of_abandon {α : Type} {c c' : Connection} {e e' : Cause}
    (h : (abandon e : Action α) c = .error e' c') (he : e'.reconnectRequired = true) :
    c'.isConnected = false := by
  rw [abandon_apply] at h
  obtain ⟨rfl, rfl⟩ := EStateM.Result.error.inj h
  have hbreaks : e.breaksConnection = true := by
    cases e <;> first | exact he | cases he
  rw [if_pos hbreaks]

/-- A query that fails with what asks for another connection leaves the connection unusable, however often it
was run. -/
theorem not_isConnected_of_executeAgain {q : Query} {more : Nat} {c c' : Connection} {e : Cause}
    (h : executeAgain q more c = .error e c') (he : e.reconnectRequired = true) :
    c'.isConnected = false := by
  have houtcome (c : Connection) : ∃ result t, outcome (executeOnce q) c = .ok result t := by
    unfold outcome
    cases executeOnce q c <;> exact ⟨_, _, rfl⟩
  induction more generalizing c with
  | zero =>
    obtain ⟨result, t, hresult⟩ := houtcome c
    rw [executeAgain, bind_of_ok hresult] at h
    cases result with
    | ok r => cases h
    | error e' => exact not_isConnected_of_abandon h he
  | succ more ih =>
    obtain ⟨result, t, hresult⟩ := houtcome c
    rw [executeAgain, bind_of_ok hresult] at h
    cases result with
    | ok r => cases h
    | error e' =>
      dsimp only at h
      split at h
      · exact ih h
      · exact not_isConnected_of_abandon h he

/-- A query that fails with what asks for another connection leaves the connection unusable. -/
theorem not_isConnected_of_reconnectRequired {q : Query} {c c' : Connection} {e : Cause}
    (h : execute q c = .error e c') (he : e.reconnectRequired = true) : c'.isConnected = false := by
  cases hc : c.isConnected with
  | false =>
    rw [execute_of_not_isConnected q hc] at h
    cases h
    exact hc
  | true =>
    rw [execute, get_bind_apply, if_pos hc] at h
    exact not_isConnected_of_executeAgain h he

/-- A statement fails on a connection that is not used any more, and sends nothing. -/
theorem control_of_not_isConnected (statement : String) {c : Connection} (hc : c.isConnected = false) :
    control statement c = .error (.connection .closed) c :=
  bind_of_error (execute_of_not_isConnected _ hc)

/-- An attempt fails with its start. -/
theorem attempt_of_start_failed {α : Type} {settings : TransactionSettings} {c c' : Connection} {e : Cause}
    (h : Connection.start settings c = .error e c') (body : Nat → EStateM Cause Connection α) (number : Nat) :
    transactable.attempt settings body number c = .ok (.error e) c' := by
  have hstart : Transactable.outcome (transactable.start settings) c = .ok (.error e) c' := by
    have hclient : transactable.start settings c = .error e c' := h
    rw [Transactable.outcome, hclient]
  rw [Transactable.attempt, bind_of_ok hstart]
  rfl

/-- On a connection that is not used any more, all attempts that are left fail at their start and send nothing,
and the run is given up with that. -/
theorem runFrom_of_not_isConnected {α : Type} (settings : TransactionSettings)
    (body : Nat → EStateM Cause Connection α) (more number : Nat) {c : Connection}
    (hc : c.isConnected = false) : ∃ c', transactable.runFrom settings body more number c =
      .error (.exhausted (number + more) (.connection .closed)) c' ∧ c'.stream.socket = c.stream.socket := by
  have hattempt := attempt_of_start_failed (control_of_not_isConnected settings.statement hc) body number
  induction more generalizing number c with
  | zero => exact ⟨c, runFrom_zero hattempt rfl, rfl⟩
  | succ more ih =>
    let noted := transactable.note (.retrying number (.connection .closed)) c
    have hnoted : noted.isConnected = false := hc
    obtain ⟨c', hrun, hsocket⟩ := ih (number + 1) hnoted
      (attempt_of_start_failed (control_of_not_isConnected settings.statement hnoted) body (number + 1))
    rw [Nat.add_assoc, Nat.add_comm 1] at hrun
    exact ⟨c', (runFrom_succ hattempt rfl).trans hrun, hsocket⟩

/-- A run that loses its connection at a start, and may try again, is given up with the connection being closed,
and sends nothing after that start. -/
theorem runFrom_of_lost {α : Type} {settings : TransactionSettings} {c c' : Connection} {e : Cause}
    (h : Connection.start settings c = .error e c') (he : e.reconnectRequired = true)
    (body : Nat → EStateM Cause Connection α) (more number : Nat) :
    ∃ c'', transactable.runFrom settings body (more + 1) number c =
      .error (.exhausted (number + 1 + more) (.connection .closed)) c'' ∧
        c''.stream.socket = c'.stream.socket := by
  have hlost : c'.isConnected = false := by
    obtain hexecute | ⟨r, t, -, hpure⟩ := bind_eq_error.mp h
    · exact not_isConnected_of_reconnectRequired hexecute he
    · cases hpure
  have hattempt := attempt_of_start_failed h body number
  obtain ⟨c'', hrun, hsocket⟩ := runFrom_of_not_isConnected settings body more (number + 1)
    (c := transactable.note (.retrying number e) c') hlost
  exact ⟨c'', (runFrom_succ hattempt (Cause.isRetryable_of_reconnectRequired he)).trans hrun, hsocket⟩

end Connection

end GelClient
