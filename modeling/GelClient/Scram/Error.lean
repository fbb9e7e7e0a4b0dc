import GelClient.Text.Quoted

/-!
# SCRAM errors

What can go wrong in an exchange that proves knowledge of a password.
-/

namespace GelClient

/-- What is wrong with a message of the server. -/
inductive ScramFault where
  | firstNotUtf8
  | tooFewFields
  | missingNonce
  | missingSalt
  | missingIterations
  | saltNotBase64
  | badIterations
  | finalNotUtf8
  | missingVerifier
  | verifierNotBase64
  deriving DecidableEq, Repr, Inhabited

/-- The text shown for a fault of a message. -/
def ScramFault.message : ScramFault → String
  | .firstNotUtf8 => "server first message is not utf8"
  | .tooFewFields => "server first message needs at least 3 fields"
  | .missingNonce => "missing nonce"
  | .missingSalt => "missing salt"
  | .missingIterations => "missing iteration count"
  | .saltNotBase64 => "salt is not base64"
  | .badIterations => "invalid iteration count"
  | .finalNotUtf8 => "server final message is not utf8"
  | .missingVerifier => "missing verifier"
  | .verifierNotBase64 => "verifier is not base64"

/-- A failed exchange. -/
inductive ScramError where
  | malformed (fault : ScramFault)
  /-- The server does not know the password. -/
  | invalidSignature
  /-- None of the methods that the server offers is known. -/
  | unsupportedMethod (offered : List String)
  /-- The nonce of the server does not extend that of the client. -/
  | nonceMismatch
  deriving DecidableEq, Repr, Inhabited

/-- The short name of a kind of failed exchange. -/
def ScramError.label : ScramError → String
  | .malformed _ => "Malformed"
  | .invalidSignature => "InvalidSignature"
  | .unsupportedMethod _ => "UnsupportedMethod"
  | .nonceMismatch => "NonceMismatch"

/-- The text shown for a failed exchange. -/
def ScramError.message : ScramError → String
  | .malformed fault => "malformed SCRAM message: " ++ fault.message
  | .invalidSignature => "server signature does not match"
  | .unsupportedMethod offered => "no supported SASL method in " ++ Text.quotedList offered
  | .nonceMismatch => "server nonce does not extend the client nonce"

end GelClient
