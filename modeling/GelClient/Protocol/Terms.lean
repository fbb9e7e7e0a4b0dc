import GelClient.Uuid

/-!
# Terms of the protocol

The version of the protocol, the enumerations that travel as one byte, and the two sets of
flags that travel as eight bytes. Each enumeration lists its members, gives every member its
byte and its name, and reads a byte back; the laws say that reading a member's byte gives that
member.
-/

namespace GelClient

/-- A version of the binary protocol. -/
structure ProtocolVersion where
  major : UInt16
  minor : UInt16
  deriving DecidableEq, Repr, Hashable

namespace ProtocolVersion

/-- Version 1.0, which a client asks for unless it is told otherwise. -/
def v1 : ProtocolVersion := ⟨1, 0⟩

/-- Version 2.0. -/
def v2 : ProtocolVersion := ⟨2, 0⟩

instance : Inhabited ProtocolVersion := ⟨v1⟩

/-- Major and minor number with a dot between them. -/
def toText (v : ProtocolVersion) : String :=
  toString v.major.toNat ++ "." ++ toString v.minor.toNat

instance : ToString ProtocolVersion := ⟨toText⟩

/-- The order by major and then by minor number. -/
def compare (a b : ProtocolVersion) : Ordering :=
  (Ord.compare a.major.toNat b.major.toNat).then (Ord.compare a.minor.toNat b.minor.toNat)

end ProtocolVersion

/-- The declared multiplicity of a result or of an object element. -/
inductive Cardinality where
  | noResult
  | atMostOne
  | one
  | many
  | atLeastOne
  deriving DecidableEq, Repr, Inhabited

namespace Cardinality

/-- Every multiplicity. -/
def all : List Cardinality := [.noResult, .atMostOne, .one, .many, .atLeastOne]

/-- The byte that stands for a multiplicity. -/
def toByte : Cardinality → UInt8
  | .noResult => 0x6E
  | .atMostOne => 0x6F
  | .one => 0x41
  | .many => 0x6D
  | .atLeastOne => 0x4D

/-- The multiplicity that a byte stands for. -/
def ofByte? (b : UInt8) : Option Cardinality := all.find? (·.toByte == b)

/-- The name of a multiplicity. -/
def name : Cardinality → String
  | .noResult => "NoResult"
  | .atMostOne => "AtMostOne"
  | .one => "One"
  | .many => "Many"
  | .atLeastOne => "AtLeastOne"

/-- Reading the byte of a multiplicity gives it back. -/
@[simp]
theorem ofByte?_toByte (c : Cardinality) : ofByte? c.toByte = some c := by
  cases c <;> rfl

end Cardinality

/-- The requested encoding of a result. -/
inductive IoFormat where
  | binary
  | json
  | jsonElements
  | none
  deriving DecidableEq, Repr, Inhabited

namespace IoFormat

/-- Every result encoding. -/
def all : List IoFormat := [.binary, .json, .jsonElements, .none]

/-- The byte that stands for a result encoding. -/
def toByte : IoFormat → UInt8
  | .binary => 0x62
  | .json => 0x6A
  | .jsonElements => 0x4A
  | .none => 0x6E

/-- The result encoding that a byte stands for. -/
def ofByte? (b : UInt8) : Option IoFormat := all.find? (·.toByte == b)

/-- The name of a result encoding. -/
def name : IoFormat → String
  | .binary => "Binary"
  | .json => "Json"
  | .jsonElements => "JsonElements"
  | .none => "None"

/-- Reading the byte of a result encoding gives it back. -/
@[simp]
theorem ofByte?_toByte (f : IoFormat) : ofByte? f.toByte = some f := by
  cases f <;> rfl

end IoFormat

/-- What the server says about the transaction when it is ready for a command. -/
inductive TransactionState where
  | notInTransaction
  | inTransaction
  | inFailedTransaction
  deriving DecidableEq, Repr, Inhabited

namespace TransactionState

/-- Every transaction state. -/
def all : List TransactionState := [.notInTransaction, .inTransaction, .inFailedTransaction]

/-- The byte that stands for a transaction state. -/
def toByte : TransactionState → UInt8
  | .notInTransaction => 0x49
  | .inTransaction => 0x54
  | .inFailedTransaction => 0x45

/-- The transaction state that a byte stands for. -/
def ofByte? (b : UInt8) : Option TransactionState := all.find? (·.toByte == b)

/-- The name of a transaction state. -/
def name : TransactionState → String
  | .notInTransaction => "NotInTransaction"
  | .inTransaction => "InTransaction"
  | .inFailedTransaction => "InFailedTransaction"

/-- Reading the byte of a transaction state gives it back. -/
@[simp]
theorem ofByte?_toByte (s : TransactionState) : ofByte? s.toByte = some s := by
  cases s <;> rfl

end TransactionState

/-- How grave an error of the server is. -/
inductive ErrorSeverity where
  | error
  | fatal
  | crash
  deriving DecidableEq, Repr, Inhabited

namespace ErrorSeverity

/-- Every error severity. -/
def all : List ErrorSeverity := [.error, .fatal, .crash]

/-- The byte that stands for an error severity. -/
def toByte : ErrorSeverity → UInt8
  | .error => 0x78
  | .fatal => 0xC8
  | .crash => 0xFF

/-- The error severity that a byte stands for. -/
def ofByte? (b : UInt8) : Option ErrorSeverity := all.find? (·.toByte == b)

/-- The name of an error severity. -/
def name : ErrorSeverity → String
  | .error => "Error"
  | .fatal => "Fatal"
  | .crash => "Panic"

/-- Reading the byte of an error severity gives it back. -/
@[simp]
theorem ofByte?_toByte (s : ErrorSeverity) : ofByte? s.toByte = some s := by
  cases s <;> rfl

end ErrorSeverity

/-- How grave a log message of the server is. -/
inductive LogSeverity where
  | debug
  | info
  | notice
  | warning
  deriving DecidableEq, Repr, Inhabited

namespace LogSeverity

/-- Every log severity. -/
def all : List LogSeverity := [.debug, .info, .notice, .warning]

/-- The byte that stands for a log severity. -/
def toByte : LogSeverity → UInt8
  | .debug => 0x14
  | .info => 0x28
  | .notice => 0x3C
  | .warning => 0x50

/-- The log severity that a byte stands for. -/
def ofByte? (b : UInt8) : Option LogSeverity := all.find? (·.toByte == b)

/-- The name of a log severity. -/
def name : LogSeverity → String
  | .debug => "Debug"
  | .info => "Info"
  | .notice => "Notice"
  | .warning => "Warning"

/-- Reading the byte of a log severity gives it back. -/
@[simp]
theorem ofByte?_toByte (s : LogSeverity) : ofByte? s.toByte = some s := by
  cases s <;> rfl

end LogSeverity

/-- A set of 64 flags. -/
structure Flags where
  bits : UInt64
  deriving DecidableEq, Repr, Inhabited

namespace Flags

/-- The flags in either set. -/
def union (a b : Flags) : Flags := ⟨a.bits ||| b.bits⟩

/-- Whether every flag of `b` is in `a`. -/
def contains (a b : Flags) : Bool := a.bits &&& b.bits == b.bits

/-- The bits of a set in lower case hexadecimal, with `0x` in front. -/
def hexText (a : Flags) : String :=
  "0x" ++ String.ofList (Nat.toDigits 16 a.bits.toNat)

end Flags

/-- The kinds of operation that a query may perform. -/
abbrev Capabilities := Flags

namespace Capabilities

/-- Nothing but reading. -/
def readOnly : Capabilities := ⟨0⟩

/-- Changing data. -/
def modifications : Capabilities := ⟨1⟩

/-- Changing the configuration of the session. -/
def sessionConfig : Capabilities := ⟨2⟩

/-- Starting and ending transactions. -/
def transaction : Capabilities := ⟨4⟩

/-- Changing the schema. -/
def ddl : Capabilities := ⟨8⟩

/-- Changing the configuration of the server. -/
def persistentConfig : Capabilities := ⟨16⟩

/-- Everything. -/
def all : Capabilities := ⟨0xFFFFFFFFFFFFFFFF⟩

/-- The kinds of operation by the names of the protocol. -/
def named : List (String × Capabilities) :=
  [("READ_ONLY", readOnly), ("MODIFICATIONS", modifications), ("SESSION_CONFIG", sessionConfig),
    ("TRANSACTION", transaction), ("DDL", ddl), ("PERSISTENT_CONFIG", persistentConfig),
    ("ALL", all)]

end Capabilities

/-- What the server is asked to add to the result of a query. -/
abbrev CompilationFlags := Flags

namespace CompilationFlags

/-- Nothing. -/
def none : CompilationFlags := ⟨0⟩

/-- The type identifier of each object. -/
def injectOutputTypeIds : CompilationFlags := ⟨1⟩

/-- The type name of each object. -/
def injectOutputTypeNames : CompilationFlags := ⟨2⟩

/-- The identifier of each object. -/
def injectOutputObjectIds : CompilationFlags := ⟨4⟩

/-- The options by the names of the protocol. -/
def named : List (String × CompilationFlags) :=
  [("NONE", none), ("INJECT_OUTPUT_TYPE_IDS", injectOutputTypeIds),
    ("INJECT_OUTPUT_TYPE_NAMES", injectOutputTypeNames),
    ("INJECT_OUTPUT_OBJECT_IDS", injectOutputObjectIds)]

end CompilationFlags

end GelClient
