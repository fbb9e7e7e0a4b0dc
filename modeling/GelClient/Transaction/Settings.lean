import GelClient.Connection.Config

/-!
# Transaction settings

How a transaction is started, and how often it is run again when it fails.
-/

namespace GelClient

/-- How much a transaction sees of others. -/
inductive IsolationLevel where
  | serializable
  | repeatableRead
  deriving DecidableEq, Repr, Inhabited

/-- The settings of a transaction. -/
structure TransactionSettings where
  isolation : IsolationLevel := .serializable
  readOnly : Bool := false
  deferrable : Bool := false
  /-- How often the transaction is run again after a failure. -/
  retryAttempts : Nat := 3
  deriving DecidableEq, Repr

namespace TransactionSettings

/-- The words for an isolation level. -/
def isolationText : IsolationLevel → String
  | .serializable => "serializable"
  | .repeatableRead => "repeatable read"

/-- The statement that starts the transaction. -/
def statement (s : TransactionSettings) : String :=
  "start transaction isolation " ++ isolationText s.isolation
    ++ (if s.readOnly then ", read only" else ", read write")
    ++ (if s.deferrable then ", deferrable" else ", not deferrable")

/-- The settings that go with those of a connection. -/
def ofConfig (c : Config) : TransactionSettings :=
  { retryAttempts := c.retryAttempts }

end TransactionSettings

end GelClient
