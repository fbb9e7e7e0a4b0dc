import GelClient.Proofs.Actions
import GelClient.Transaction.Basic

/-!
# The attempts of a transaction

A run calls its client and its body in attempts. Each attempt starts a transaction, runs the body,
commits, and rolls back what did not come that far; and only a failure that is worth another attempt is
followed by one. `Transactable.recorded` is a client that does the same as another one and writes down
the calls that it gets, so the calls of a run are those that a recorded client has written down. What a
run comes to is decided by its last attempt and the number of attempts that are allowed, never by a
rollback.
-/

namespace GelClient.Transactable

open Actions

variable {σ α β : Type}

/-- A call that a run makes, with what came of it. -/
inductive Call (α : Type) where
  | start (settings : TransactionSettings) (result : Except Cause Unit)
  | body (number : Nat) (result : Except Cause α)
  | commit (result : Except Cause Unit)
  | rollback (result : Except Cause Unit)

/-- The state of a client and the calls made so far. -/
structure Recorded (σ α : Type) where
  state : σ
  calls : List (Call α) := []

/-- An action that is written down as a call. -/
def recording (call : Except Cause β → Call α) (action : EStateM Cause σ β) :
    EStateM Cause (Recorded σ α) β := fun r =>
  match action r.state with
  | .ok b s => .ok b ⟨s, r.calls ++ [call (.ok b)]⟩
  | .error e s => .error e ⟨s, r.calls ++ [call (.error e)]⟩

/-- A client that writes down its calls. -/
def recorded (client : Transactable σ) : Transactable (Recorded σ α) where
  start settings := recording (.start settings) (client.start settings)
  commit := recording .commit client.commit
  rollback := recording .rollback client.rollback
  note e r := { r with state := client.note e r.state }

/-- A body whose calls are written down. -/
def recordedBody (body : Nat → EStateM Cause σ α) (number : Nat) : EStateM Cause (Recorded σ α) α :=
  recording (.body number) (body number)

/-- A client whose rollback never fails: a failure goes into the log. -/
def forgiving (client : Transactable σ) : Transactable σ :=
  { client with rollback := client.abort }

/-- What becomes of a transaction that is run once. -/
inductive Attempt (α : Type) where
  | startFailed (e : Cause)
  | bodyFailed (e : Cause) (rollback : Except Cause Unit)
  | commitFailed (a : α) (e : Cause) (rollback : Except Cause Unit)
  | committed (a : α)

namespace Attempt

/-- The value of the body if it was committed, and else the failure of the start, of the body or of the
commit. -/
def result : Attempt α → Except Cause α
  | startFailed e => .error e
  | bodyFailed e _ => .error e
  | commitFailed _ e _ => .error e
  | committed a => .ok a

/-- The calls of the attempt of a number, in order. -/
def calls (settings : TransactionSettings) (number : Nat) : Attempt α → List (Call α)
  | startFailed e => [.start settings (.error e)]
  | bodyFailed e rollback =>
    [.start settings (.ok ()), .body number (.error e), .rollback rollback]
  | commitFailed a e rollback =>
    [.start settings (.ok ()), .body number (.ok a), .commit (.error e), .rollback rollback]
  | committed a => [.start settings (.ok ()), .body number (.ok a), .commit (.ok ())]

/-- The calls of attempts that are numbered from a number on. -/
def callsFrom (settings : TransactionSettings) : (number : Nat) → List (Attempt α) → List (Call α)
  | _, [] => []
  | number, a :: attempts => a.calls settings number ++ callsFrom settings (number + 1) attempts

/-- Only a committed attempt has a value. -/
theorem result_eq_ok {a : Attempt α} {x : α} : a.result = .ok x ↔ a = .committed x := by
  constructor
  · intro h
    cases a <;> cases h
    rfl
  · rintro rfl
    rfl

/-- Whether an attempt failed with a failure that is worth another attempt. -/
def IsRetried (a : Attempt α) : Prop :=
  ∃ e, a.result = .error e ∧ e.isRetryable = true

/-- What a run comes to that ends with the attempt of a number. -/
def verdict (number : Nat) (a : Attempt α) : Except Cause α :=
  match a.result with
  | .ok x => .ok x
  | .error e => if e.isRetryable then .error (.exhausted number e) else .error e

/-- A run that ends with a failure that is not worth another attempt fails with it. -/
theorem verdict_of_final {number : Nat} {a : Attempt α} {e : Cause} (ha : a.result = .error e)
    (he : e.isRetryable = false) : a.verdict number = .error e := by
  simp only [verdict, ha, he, Bool.false_eq_true, if_false]

/-- A run that ends with a failure that is worth another attempt is given up. -/
theorem verdict_of_retryable {number : Nat} {a : Attempt α} {e : Cause} (ha : a.result = .error e)
    (he : e.isRetryable = true) : a.verdict number = .error (.exhausted number e) := by
  simp only [verdict, ha, he, if_true]

/-- Only a run that ends with a committed attempt has a value. -/
theorem verdict_eq_ok {number : Nat} {a : Attempt α} {x : α} :
    a.verdict number = .ok x ↔ a = .committed x := by
  rw [← result_eq_ok]
  cases hresult : a.result with
  | ok x' => simp only [verdict, hresult]
  | error e =>
    cases he : e.isRetryable with
    | false => simp only [verdict_of_final hresult he, reduceCtorEq]
    | true => simp only [verdict_of_retryable hresult he, reduceCtorEq]

/-- A run fails with the failure of its last attempt exactly if that is not worth another one. -/
theorem verdict_eq_error {number : Nat} {a : Attempt α} {e : Cause} (ha : a.result = .error e) :
    a.verdict number = .error e ↔ e.isRetryable = false := by
  refine ⟨fun h => ?_, verdict_of_final ha⟩
  cases he : e.isRetryable with
  | false => rfl
  | true =>
    -- A failure that is worth another attempt is not the one of giving up.
    rw [verdict_of_retryable ha he] at h
    rw [← Except.error.inj h, Cause.isRetryable_exhausted] at he
    cases he

end Attempt

/-- How a run goes, and what it comes to, from the attempt of a number on and with a number of further
attempts. -/
inductive Follows : (more number : Nat) → List (Attempt α) → Except Cause α → Prop where
  | last {more number : Nat} {a : Attempt α} (ha : a.IsRetried → more = 0) :
      Follows more number [a] (a.verdict number)
  | retried {more number : Nat} {a : Attempt α} {attempts : List (Attempt α)}
      {result : Except Cause α} (ha : a.IsRetried) (rest : Follows more (number + 1) attempts result) :
      Follows (more + 1) number (a :: attempts) result

/-- All attempts of a run but the last one are worth another one, and the last one decides what the run
comes to. -/
theorem Follows.exists_last {more number : Nat} {attempts : List (Attempt α)} {result : Except Cause α}
    (h : Follows more number attempts result) :
    ∃ (earlier : List (Attempt α)) (last : Attempt α), attempts = earlier ++ [last] ∧
      earlier.length ≤ more ∧ (∀ a ∈ earlier, a.IsRetried) ∧
      result = last.verdict (number + earlier.length) ∧ (last.IsRetried → earlier.length = more) := by
  induction h with
  | @last more number a ha => exact ⟨[], a, rfl, Nat.zero_le _, nofun, rfl, fun h => (ha h).symm⟩
  | @retried more number a attempts result ha rest ih =>
    obtain ⟨earlier, last, rfl, hlength, hearlier, hresult, hmore⟩ := ih
    refine ⟨a :: earlier, last, rfl, Nat.succ_le_succ hlength, ?_, ?_, ?_⟩
    · exact List.forall_mem_cons.mpr ⟨ha, hearlier⟩
    · rw [hresult, List.length_cons, Nat.add_right_comm, Nat.add_assoc]
    · exact fun h => congrArg Nat.succ (hmore h)

/-- What an action comes to when it ends in a state. -/
def ended (result : Except Cause β) (s : σ) : EStateM.Result Cause σ β :=
  match result with
  | .ok b => .ok b s
  | .error e => .error e s

/-- Every action ends with some result in some state. -/
theorem exists_ended (action : EStateM Cause σ β) (s : σ) :
    ∃ result t, action s = ended result t := by
  cases h : action s with
  | ok b t => exact ⟨.ok b, t, rfl⟩
  | error e t => exact ⟨.error e, t, rfl⟩

/-- What an action comes to is its outcome. -/
theorem outcome_of_ended {action : EStateM Cause σ β} {s t : σ} {result : Except Cause β}
    (h : action s = ended result t) : outcome action s = .ok result t := by
  unfold outcome
  rw [h]
  cases result <;> rfl

/-- An action that is written down comes to the same. -/
theorem recording_of_ended {action : EStateM Cause σ β} {call : Except Cause β → Call α}
    {r : Recorded σ α} {t : σ} {result : Except Cause β} (h : action r.state = ended result t) :
    recording call action r = ended result ⟨t, r.calls ++ [call result]⟩ := by
  unfold recording
  rw [h]
  cases result <;> rfl

section Run

variable (client : Transactable σ) (settings : TransactionSettings)
  (body : Nat → EStateM Cause σ α)

/-- Rolling back succeeds, whatever comes of the rollback, and is one call. -/
theorem abort_recorded (r : Recorded σ α) :
    ∃ rollback t, client.abort r.state = .ok () t ∧
      (recorded client).abort r = .ok () ⟨t, r.calls ++ [.rollback rollback]⟩ := by
  obtain ⟨rollback, t, h⟩ := exists_ended client.rollback r.state
  have hplain := outcome_of_ended h
  have hrecorded : outcome (recorded client).rollback r = _ := outcome_of_ended (recording_of_ended h)
  cases rollback with
  | ok _ =>
    refine ⟨.ok (), t, ?_, ?_⟩
    · rw [abort, bind_of_ok hplain]
      rfl
    · rw [abort, bind_of_ok hrecorded]
      rfl
  | error e =>
    refine ⟨.error e, client.note (.rollbackFailed e) t, ?_, ?_⟩
    · rw [abort, bind_of_ok hplain]
      rfl
    · rw [abort, bind_of_ok hrecorded]
      rfl

/-- A transaction that is run once goes as one of the attempts, with its calls. -/
theorem attempt_recorded (number : Nat) (r : Recorded σ α) :
    ∃ (a : Attempt α) (t : σ), client.attempt settings body number r.state = .ok a.result t ∧
      (recorded client).attempt settings (recordedBody body) number r =
        .ok a.result ⟨t, r.calls ++ a.calls settings number⟩ := by
  obtain ⟨started, s₁, hstart⟩ := exists_ended (client.start settings) r.state
  have hstart' : outcome ((recorded client).start settings) r = _ :=
    outcome_of_ended (recording_of_ended hstart)
  simp only [attempt]
  rw [bind_of_ok (outcome_of_ended hstart), bind_of_ok hstart']
  cases started with
  | error e => exact ⟨.startFailed e, s₁, rfl, rfl⟩
  | ok _ =>
    let r₁ : Recorded σ α := ⟨s₁, r.calls ++ [.start settings (.ok ())]⟩
    obtain ⟨value, s₂, hbody⟩ := exists_ended (body number) r₁.state
    have hbody' : outcome (recordedBody body number) r₁ = _ :=
      outcome_of_ended (recording_of_ended hbody)
    dsimp only
    rw [bind_of_ok (outcome_of_ended hbody), bind_of_ok hbody']
    cases value with
    | error e =>
      obtain ⟨rollback, s₃, habort, habort'⟩ :=
        abort_recorded client ⟨s₂, r₁.calls ++ [.body number (.error e)]⟩
      refine ⟨.bodyFailed e rollback, s₃, ?_, ?_⟩
      · dsimp only
        rw [bind_of_ok habort]
        rfl
      · dsimp only
        rw [bind_of_ok habort']
        simp only [r₁, List.append_assoc]
        rfl
    | ok x =>
      let r₂ : Recorded σ α := ⟨s₂, r₁.calls ++ [.body number (.ok x)]⟩
      obtain ⟨committed, s₃, hcommit⟩ := exists_ended client.commit r₂.state
      have hcommit' : outcome (recorded client).commit r₂ = _ :=
        outcome_of_ended (recording_of_ended hcommit)
      dsimp only
      rw [bind_of_ok (outcome_of_ended hcommit), bind_of_ok hcommit']
      cases committed with
      | ok _ =>
        refine ⟨.committed x, s₃, rfl, ?_⟩
        simp only [r₁, r₂, List.append_assoc]
        rfl
      | error e =>
        obtain ⟨rollback, s₄, habort, habort'⟩ :=
          abort_recorded client ⟨s₃, r₂.calls ++ [.commit (.error e)]⟩
        refine ⟨.commitFailed x e rollback, s₄, ?_, ?_⟩
        · dsimp only
          rw [bind_of_ok habort]
          rfl
        · dsimp only
          rw [bind_of_ok habort']
          simp only [r₁, r₂, List.append_assoc]
          rfl

end Run

section Step

variable {client : Transactable σ} {settings : TransactionSettings} {body : Nat → EStateM Cause σ α}
  {more number : Nat} {s t : σ} {e : Cause}

/-- A run ends with the first attempt that is committed. -/
theorem runFrom_of_ok {x : α} (h : client.attempt settings body number s = .ok (.ok x) t) :
    client.runFrom settings body more number s = .ok x t := by
  cases more <;>
    · rw [runFrom, bind_of_ok h]
      rfl

/-- A run ends with the first failure that is not worth another attempt. -/
theorem runFrom_of_final (h : client.attempt settings body number s = .ok (.error e) t)
    (he : e.isRetryable = false) : client.runFrom settings body more number s = .error e t := by
  cases more <;>
    · rw [runFrom, bind_of_ok h]
      simp only [he, Bool.false_eq_true, if_false]
      rfl

/-- A run that may not try again is given up. -/
theorem runFrom_zero (h : client.attempt settings body number s = .ok (.error e) t)
    (he : e.isRetryable = true) :
    client.runFrom settings body 0 number s = .error (.exhausted number e) t := by
  rw [runFrom, bind_of_ok h]
  simp only [he, if_true]
  rfl

/-- A run that may try again goes on with the next attempt. -/
theorem runFrom_succ (h : client.attempt settings body number s = .ok (.error e) t)
    (he : e.isRetryable = true) :
    client.runFrom settings body (more + 1) number s =
      client.runFrom settings body more (number + 1) (client.note (.retrying number e) t) := by
  rw [runFrom, bind_of_ok h]
  simp only [he, if_true, modify_bind_apply]

end Step

section Run

variable (client : Transactable σ) (settings : TransactionSettings)
  (body : Nat → EStateM Cause σ α)

/-- A run goes as a sequence of attempts, with their calls. -/
theorem runFrom_recorded (more number : Nat) (r : Recorded σ α) :
    ∃ (attempts : List (Attempt α)) (result : Except Cause α) (t : σ),
      Follows more number attempts result ∧
      client.runFrom settings body more number r.state = ended result t ∧
      (recorded client).runFrom settings (recordedBody body) more number r =
        ended result ⟨t, r.calls ++ Attempt.callsFrom settings number attempts⟩ := by
  obtain ⟨a, t, hattempt, hattempt'⟩ := attempt_recorded client settings body number r
  have hone : Attempt.callsFrom settings number [a] = a.calls settings number := List.append_nil _
  cases hresult : a.result with
  | ok x =>
    rw [hresult] at hattempt hattempt'
    have hlast : a.IsRetried → more = 0 := by
      rintro ⟨e, he, -⟩
      rw [hresult] at he
      cases he
    refine ⟨[a], _, t, .last hlast, ?_, ?_⟩
    · rw [Attempt.verdict_eq_ok.mpr (Attempt.result_eq_ok.mp hresult)]
      exact runFrom_of_ok hattempt
    · rw [Attempt.verdict_eq_ok.mpr (Attempt.result_eq_ok.mp hresult), hone]
      exact runFrom_of_ok hattempt'
  | error e =>
    rw [hresult] at hattempt hattempt'
    cases he : e.isRetryable with
    | false =>
      have hlast : a.IsRetried → more = 0 := by
        rintro ⟨e', ha, he'⟩
        cases hresult.symm.trans ha
        rw [he] at he'
        cases he'
      refine ⟨[a], _, t, .last hlast, ?_, ?_⟩
      · rw [Attempt.verdict_of_final hresult he]
        exact runFrom_of_final hattempt he
      · rw [Attempt.verdict_of_final hresult he, hone]
        exact runFrom_of_final hattempt' he
    | true =>
      cases more with
      | zero =>
        refine ⟨[a], _, t, .last fun _ => rfl, ?_, ?_⟩
        · rw [Attempt.verdict_of_retryable hresult he]
          exact runFrom_zero hattempt he
        · rw [Attempt.verdict_of_retryable hresult he, hone]
          exact runFrom_zero hattempt' he
      | succ more =>
        obtain ⟨attempts, result, t', hfollows, hplain, hrecorded⟩ := runFrom_recorded more (number + 1)
          ⟨client.note (.retrying number e) t, r.calls ++ a.calls settings number⟩
        refine ⟨a :: attempts, result, t', .retried ⟨e, hresult, he⟩ hfollows, ?_, ?_⟩
        · rw [runFrom_succ hattempt he]
          exact hplain
        · rw [runFrom_succ hattempt' he, Attempt.callsFrom, ← List.append_assoc]
          exact hrecorded

/-- An attempt does not tell a rollback that fails from one that does not. -/
theorem attempt_forgiving (number : Nat) :
    (forgiving client).attempt settings body number = client.attempt settings body number := by
  have habort : (forgiving client).abort = client.abort := by
    funext s
    obtain ⟨-, t, h, -⟩ := abort_recorded (α := α) client ⟨s, []⟩
    have hforgiving : (forgiving client).rollback s = ended (.ok ()) t := h
    rw [abort, bind_of_ok (outcome_of_ended hforgiving), h]
    rfl
  unfold attempt
  rw [habort]
  rfl

/-- A run does not tell a rollback that fails from one that does not. -/
theorem runFrom_forgiving (more number : Nat) :
    (forgiving client).runFrom settings body more number = client.runFrom settings body more number := by
  induction more generalizing number with
  | zero => rw [runFrom, runFrom, attempt_forgiving]
  | succ more ih =>
    rw [runFrom, runFrom, attempt_forgiving]
    simp only [ih]
    rfl

/-- A run makes attempts with the numbers 1, 2 and so on, one more than its retries at most. All but the
last one fail with a failure that is worth another attempt; the calls that the client gets are those of
the attempts, so what failed behind a start is rolled back once and nothing else is. The run has a value
exactly if the last attempt was committed, which is then the value of its body. It fails with the
failure of the last attempt exactly if that is not worth another one, and is given up otherwise, which
takes all the attempts that are allowed. A rollback that fails makes no difference. -/
theorem calls_of_run (s : σ) :
    ∃ (earlier : List (Attempt α)) (last : Attempt α) (result : Except Cause α) (t : σ),
      client.run settings body s = ended result t ∧
      (recorded client).run settings (recordedBody body) ⟨s, []⟩ =
        ended result ⟨t, Attempt.callsFrom settings 1 (earlier ++ [last])⟩ ∧
      earlier.length ≤ settings.retryAttempts ∧
      (∀ a ∈ earlier, a.IsRetried) ∧
      (∀ x, result = .ok x ↔ last = .committed x) ∧
      (∀ e, last.result = .error e → (result = .error e ↔ e.isRetryable = false)) ∧
      (∀ e, last.result = .error e → e.isRetryable = true →
        earlier.length = settings.retryAttempts ∧
        result = .error (.exhausted (settings.retryAttempts + 1) e) ∧
        (Cause.exhausted (settings.retryAttempts + 1) e).isRetryable = false) ∧
      (forgiving client).run settings body s = ended result t := by
  obtain ⟨attempts, result, t, hfollows, hplain, hrecorded⟩ :=
    runFrom_recorded client settings body settings.retryAttempts 1 ⟨s, []⟩
  obtain ⟨earlier, last, rfl, hlength, hearlier, rfl, hmore⟩ := hfollows.exists_last
  refine ⟨earlier, last, _, t, hplain, hrecorded, hlength, hearlier, fun x => Attempt.verdict_eq_ok,
    fun e => Attempt.verdict_eq_error, ?_, ?_⟩
  · intro e hlast he
    have hlength : earlier.length = settings.retryAttempts := hmore ⟨e, hlast, he⟩
    rw [hlength, Nat.add_comm]
    exact ⟨rfl, Attempt.verdict_of_retryable hlast he, Cause.isRetryable_exhausted _ e⟩
  · rw [run, runFrom_forgiving]
    exact hplain

end Run

end GelClient.Transactable
