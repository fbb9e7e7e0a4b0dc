/-!
# Error codes

An error of the server carries a code of four bytes. Codes form a hierarchy: each byte, from
the most significant one on, narrows the category of the one before it. Some codes say that
the failed operation may succeed when it is run again, and some of those that this takes a new
connection.
-/

namespace GelClient

/-- The code of a server error. -/
structure ErrorCode where
  value : UInt32
  deriving DecidableEq, Repr, Inhabited

namespace ErrorCode

/-- The codes that have a name, in ascending order. -/
def known : List (ErrorCode × String) := [
  (⟨0x01000000⟩, "InternalServerError"),
  (⟨0x02000000⟩, "UnsupportedFeatureError"),
  (⟨0x03000000⟩, "ProtocolError"),
  (⟨0x03010000⟩, "BinaryProtocolError"),
  (⟨0x03010001⟩, "UnsupportedProtocolVersionError"),
  (⟨0x03010002⟩, "TypeSpecNotFoundError"),
  (⟨0x03010003⟩, "UnexpectedMessageError"),
  (⟨0x03020000⟩, "InputDataError"),
  (⟨0x03020100⟩, "ParameterTypeMismatchError"),
  (⟨0x03020200⟩, "StateMismatchError"),
  (⟨0x03030000⟩, "ResultCardinalityMismatchError"),
  (⟨0x03040000⟩, "CapabilityError"),
  (⟨0x03040100⟩, "UnsupportedCapabilityError"),
  (⟨0x03040200⟩, "DisabledCapabilityError"),
  (⟨0x04000000⟩, "QueryError"),
  (⟨0x04010000⟩, "InvalidSyntaxError"),
  (⟨0x04010100⟩, "EdgeQLSyntaxError"),
  (⟨0x04010200⟩, "SchemaSyntaxError"),
  (⟨0x04010300⟩, "GraphQLSyntaxError"),
  (⟨0x04020000⟩, "InvalidTypeError"),
  (⟨0x04020100⟩, "InvalidTargetError"),
  (⟨0x04020101⟩, "InvalidLinkTargetError"),
  (⟨0x04020102⟩, "InvalidPropertyTargetError"),
  (⟨0x04030000⟩, "InvalidReferenceError"),
  (⟨0x04030001⟩, "UnknownModuleError"),
  (⟨0x04030002⟩, "UnknownLinkError"),
  (⟨0x04030003⟩, "UnknownPropertyError"),
  (⟨0x04030004⟩, "UnknownUserError"),
  (⟨0x04030005⟩, "UnknownDatabaseError"),
  (⟨0x04030006⟩, "UnknownParameterError"),
  (⟨0x04040000⟩, "SchemaError"),
  (⟨0x04050000⟩, "SchemaDefinitionError"),
  (⟨0x04050100⟩, "InvalidDefinitionError"),
  (⟨0x04050200⟩, "DuplicateDefinitionError"),
  (⟨0x04060000⟩, "SessionTimeoutError"),
  (⟨0x04060100⟩, "IdleSessionTimeoutError"),
  (⟨0x04060200⟩, "QueryTimeoutError"),
  (⟨0x04060A00⟩, "TransactionTimeoutError"),
  (⟨0x04060A01⟩, "IdleTransactionTimeoutError"),
  (⟨0x05000000⟩, "ExecutionError"),
  (⟨0x05010000⟩, "InvalidValueError"),
  (⟨0x05010001⟩, "DivisionByZeroError"),
  (⟨0x05010002⟩, "NumericOutOfRangeError"),
  (⟨0x05010003⟩, "AccessPolicyError"),
  (⟨0x05020000⟩, "IntegrityError"),
  (⟨0x05020001⟩, "ConstraintViolationError"),
  (⟨0x05020002⟩, "CardinalityViolationError"),
  (⟨0x05020003⟩, "MissingRequiredError"),
  (⟨0x05030000⟩, "TransactionError"),
  (⟨0x05030100⟩, "TransactionConflictError"),
  (⟨0x05030101⟩, "TransactionSerializationError"),
  (⟨0x05030102⟩, "TransactionDeadlockError"),
  (⟨0x05040000⟩, "WatchError"),
  (⟨0x06000000⟩, "ConfigurationError"),
  (⟨0x07000000⟩, "AccessError"),
  (⟨0x07010000⟩, "AuthenticationError"),
  (⟨0x08000000⟩, "AvailabilityError"),
  (⟨0x08000001⟩, "BackendUnavailableError"),
  (⟨0x09000000⟩, "BackendError"),
  (⟨0x09000100⟩, "UnsupportedBackendFeatureError"),
  (⟨0xF0000000⟩, "LogMessage"),
  (⟨0xF0010000⟩, "WarningMessage")]

/-- The name of a code, none if it is not a known one. -/
def name? (code : ErrorCode) : Option String :=
  (known.find? (·.1 == code)).map (·.2)

/-- The session state that the client sent is not of the type that the server expects. -/
def stateMismatch : ErrorCode := ⟨0x03020200⟩

/-- The server closed an idle session. -/
def idleSessionTimeout : ErrorCode := ⟨0x04060100⟩

/-- The server cannot reach its storage. -/
def backendUnavailable : ErrorCode := ⟨0x08000001⟩

/-- A transaction lost against a concurrent one. -/
def transactionConflict : ErrorCode := ⟨0x05030100⟩

/-- Whether the operation may succeed when it is run again: for the three causes above and for
every kind of transaction conflict. -/
def isRetryable (code : ErrorCode) : Bool :=
  code == stateMismatch || code == idleSessionTimeout || code == backendUnavailable
    || code.value &&& 0xFFFFFF00 == transactionConflict.value

/-- Whether the connection must be replaced before the operation is run again. -/
def reconnectRequired (code : ErrorCode) : Bool :=
  code == idleSessionTimeout || code == backendUnavailable

/-- The code in eight hexadecimal digits, with `0x` in front. -/
def hexText (code : ErrorCode) : String :=
  let digits := Nat.toDigits 16 code.value.toNat
  "0x" ++ String.ofList (List.replicate (8 - digits.length) '0' ++ digits)

/-- The name of a code, or its digits if it has none. -/
def toText (code : ErrorCode) : String :=
  code.name?.getD code.hexText

/-- The name of a code together with its digits. -/
def describe (code : ErrorCode) : String :=
  "ErrorCode(" ++ code.toText ++ ", " ++ code.hexText ++ ")"

/-- A new connection is asked for only where running again may help. -/
theorem isRetryable_of_reconnectRequired {code : ErrorCode} (h : code.reconnectRequired = true) :
    code.isRetryable = true := by
  simp only [reconnectRequired, Bool.or_eq_true] at h
  simp only [isRetryable, Bool.or_eq_true]
  grind

end ErrorCode

end GelClient
