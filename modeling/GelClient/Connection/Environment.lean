import GelClient.Connection.Dsn

/-!
# Settings from the environment

A program may leave the settings of its connection to its environment. The variable of a setting
comes first, then the data source name in `GEL_DSN`, then the default.
-/

namespace GelClient

/-- The variables of a program. -/
abbrev Environment := String → Option String

/-- The settings that an environment gives. -/
def Config.ofEnvironment (env : Environment) : Except ConfigError Config := do
  let base ← match env "GEL_DSN" with
    | some dsn => Config.parse dsn
    | none => .ok {}
  let port ← match env "GEL_PORT" with
    | some text =>
      match Text.unsigned? 16 text with
      | some port => .ok (UInt16.ofNat port)
      | none => .error (.invalidPort text)
    | none => .ok base.port
  let tlsMode ← match env "GEL_CLIENT_TLS_SECURITY" with
    | some text => TlsMode.parse text
    | none => .ok base.tlsMode
  return { base with
    host := (env "GEL_HOST").getD base.host
    port
    user := (env "GEL_USER").getD base.user
    password := (env "GEL_PASSWORD").getD base.password
    database := (env "GEL_DATABASE").getD base.database
    branch := env "GEL_BRANCH" <|> base.branch
    secretKey := env "GEL_SECRET_KEY" <|> base.secretKey
    tlsMode
    tlsCa := env "GEL_TLS_CA" <|> base.tlsCa }

end GelClient
