import GelClient.Connection.Basic
import GelClient.Transaction.Settings

/-!
# Transactions

A transaction runs a body between a start and a commit. When the body or the commit fails, it is
rolled back. When the failure is worth another attempt, the whole of it runs again, as often as
the settings allow, and is then given up. A failure to roll back goes into the log and changes
nothing else. Transactions run on any client that can start them, commit them and roll them back.
-/

namespace GelClient

/-- A client of state `σ` that can run the statements around a transaction. -/
structure Transactable (σ : Type) where
  start : TransactionSettings → EStateM Cause σ Unit
  commit : EStateM Cause σ Unit
  rollback : EStateM Cause σ Unit
  /-- Puts an entry into the log of the client. -/
  note : LogEntry → σ → σ

namespace Transactable

variable {σ α : Type}

/-- An action whose failure is its result. -/
def outcome (action : EStateM Cause σ α) : EStateM Cause σ (Except Cause α) := fun s =>
  match action s with
  | .ok a s => .ok (.ok a) s
  | .error e s => .ok (.error e) s

/-- Rolls a transaction back; a failure goes into the log. -/
def abort (client : Transactable σ) : EStateM Cause σ Unit := do
  match ← outcome client.rollback with
  | .ok () => return ()
  | .error e => modify (client.note (.rollbackFailed e))

/-- Runs a transaction once, as the attempt of the given number. -/
def attempt (client : Transactable σ) (settings : TransactionSettings)
    (body : Nat → EStateM Cause σ α) (number : Nat) : EStateM Cause σ (Except Cause α) := do
  match ← outcome (client.start settings) with
  | .error e => return .error e
  | .ok () =>
    match ← outcome (body number) with
    | .error e =>
      client.abort
      return .error e
    | .ok a =>
      match ← outcome client.commit with
      | .ok () => return .ok a
      | .error e =>
        client.abort
        return .error e

/-- Runs a transaction from the attempt of the given number on, with a number of further
attempts. -/
def runFrom (client : Transactable σ) (settings : TransactionSettings)
    (body : Nat → EStateM Cause σ α) : (more number : Nat) → EStateM Cause σ α
  | more, number => do
    match ← client.attempt settings body number with
    | .ok a => return a
    | .error e =>
      if e.isRetryable then
        match more with
        | 0 => throw (.exhausted number e)
        | more + 1 =>
          modify (client.note (.retrying number e))
          runFrom client settings body more (number + 1)
      else throw e

/-- Runs a transaction. The body is given the number of the attempt, counting from one. -/
def run (client : Transactable σ) (settings : TransactionSettings)
    (body : Nat → EStateM Cause σ α) : EStateM Cause σ α :=
  client.runFrom settings body settings.retryAttempts 1

end Transactable

namespace Connection

/-- Runs a statement that controls a transaction. -/
def control (statement : String) : Action Unit := do
  let _ ← execute {
    text := statement, capabilities := .transaction, cardinality := .noResult, format := .none }

/-- Starts a transaction. -/
def start (settings : TransactionSettings) : Action Unit := control settings.statement

/-- Commits a transaction. -/
def commit : Action Unit := control "commit"

/-- Rolls a transaction back. -/
def rollback : Action Unit := control "rollback"

/-- A connection as a client that runs transactions. -/
def transactable : Transactable Connection :=
  { start, commit, rollback, note := fun e c => { c with stream := c.stream.note e } }

end Connection

end GelClient
