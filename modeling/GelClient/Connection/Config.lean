import GelClient.Protocol.Terms

/-!
# Connection settings

Where a server is, who connects to it, and how often and how long to try. Every setting has a
default.
-/

namespace GelClient

/-- How the certificate of the server is verified. -/
inductive TlsMode where
  | strict
  | noHostVerification
  | insecure
  deriving DecidableEq, Repr, Inhabited

/-- The name of a mode. -/
def TlsMode.name : TlsMode → String
  | .strict => "Strict"
  | .noHostVerification => "NoHostVerification"
  | .insecure => "Insecure"

/-- A setting that cannot be read. -/
inductive ConfigError where
  | invalidScheme (scheme : String)
  | missingHost
  | invalidPort (text : String)
  | invalidTlsMode (text : String)
  deriving DecidableEq, Repr, Inhabited

/-- The short name of a kind of unreadable setting. -/
def ConfigError.label : ConfigError → String
  | .invalidScheme _ => "InvalidScheme"
  | .missingHost => "MissingHost"
  | .invalidPort _ => "InvalidPort"
  | .invalidTlsMode _ => "InvalidTlsMode"

/-- The text shown for an unreadable setting. -/
def ConfigError.message : ConfigError → String
  | .invalidScheme scheme =>
    "unsupported dsn scheme `" ++ scheme ++ "`, expected `gel` or `edgedb`"
  | .missingHost => "dsn has no host"
  | .invalidPort text => "invalid port `" ++ text ++ "`"
  | .invalidTlsMode text => "invalid tls security mode `" ++ text ++ "`"

/-- The mode that a text names. -/
def TlsMode.parse (text : String) : Except ConfigError TlsMode :=
  if text = "strict" ∨ text = "default" then .ok .strict
  else if text = "no_host_verification" then .ok .noHostVerification
  else if text = "insecure" then .ok .insecure
  else .error (.invalidTlsMode text)

/-- The settings of a connection. -/
structure Config where
  host : String := "localhost"
  port : UInt16 := 5656
  user : String := "edgedb"
  password : String := ""
  database : String := "edgedb"
  branch : Option String := none
  secretKey : Option String := none
  tlsMode : TlsMode := .strict
  /-- The certificates to trust instead of those of the system. -/
  tlsCa : Option String := none
  /-- How long connecting may take, in milliseconds. -/
  connectTimeout : Nat := 5000
  /-- How often the server is dialled. -/
  maxConnectionAttempts : Nat := 5
  protocolVersion : ProtocolVersion := .v1
  /-- The most objects that a query returns; zero is no limit. -/
  implicitLimit : Int64 := 0
  /-- How often a transaction is run again. -/
  retryAttempts : Nat := 3
  deriving DecidableEq, Repr

namespace Config

/-- The settings with a number of attempts to dial the server, of which there is at least one. -/
def withMaxConnectionAttempts (c : Config) (attempts : Nat) : Config :=
  { c with maxConnectionAttempts := max attempts 1 }

/-- The parameters that the client announces when a connection starts. -/
def parameters (c : Config) : List (String × String) :=
  [("user", c.user), ("database", c.database)]
    ++ (c.branch.map fun b => ("branch", b)).toList
    ++ (c.secretKey.map fun k => ("secret_key", k)).toList

end Config

end GelClient
