import GelClient.Crypto.Hmac
import GelClient.Scram.Error
import GelClient.Scram.Message
import GelClient.Scram.Preparation
import GelClient.Text.Base64
import GelClient.Text.Number
import GelClient.Utf8

/-!
# SCRAM

The client's side of an exchange with SCRAM-SHA-256 (RFC 5802, RFC 7677). The client sends its
name and a nonce; the server answers with an extended nonce, a salt and a number of iterations;
the client proves that it knows the password; and the server proves that it knows it too. The
functions that the exchange is made of are a parameter, and `Primitives.standard` holds those of
the method.
-/

namespace GelClient.Scram

/-- The name of the only method. -/
def methodName : String := "SCRAM-SHA-256"

/-- The functions that an exchange is made of. -/
structure Primitives where
  hash : Bytes → Bytes
  /-- A keyed hash of a message. -/
  sign : (key message : Bytes) → Bytes
  deriveKey : (password salt : Bytes) → (iterations : Nat) → Bytes
  prepare? : String → Option String
  /-- Bytes as text in a message. -/
  encode : Bytes → String
  decode? : String → Option Bytes

/-- The functions of SCRAM-SHA-256. -/
def Primitives.standard : Primitives :=
  { hash := Sha256.hash, sign := Hmac.sha256, deriveKey := Pbkdf2.sha256, prepare? := Scram.prepare?
    encode := Base64.encode, decode? := Base64.decode? }

/-- A prepared text, or the text itself if it cannot be prepared. -/
def Primitives.normal (p : Primitives) (text : String) : String :=
  (p.prepare? text).getD text

/-- The client's side of an exchange. -/
structure Client where
  nonce : String
  /-- The first message without its header. -/
  firstBare : String
  deriving DecidableEq, Repr

/-- The last message of the client, and the signature that the server is to answer with. -/
structure Final where
  message : String
  serverSignature : Bytes
  deriving DecidableEq, Repr

/-- The method to use out of those that the server offers. -/
def selectMethod (offered : List String) : Except ScramError String :=
  if methodName ∈ offered then .ok methodName else .error (.unsupportedMethod offered)

namespace Client

/-- Starts an exchange for a user with a nonce. -/
def start (p : Primitives) (user nonce : String) : Client :=
  { nonce
    firstBare := "n=" ++ String.ofList (escapeName (p.normal user).toList) ++ ",r=" ++ nonce }

/-- The first message, with the header that asks for no channel binding. -/
def initialMessage (c : Client) : String :=
  "n,," ++ c.firstBare

/-- What the first message of the server says. -/
structure Challenge where
  text : String
  nonce : String
  salt : Bytes
  iterations : Nat
  deriving DecidableEq, Repr

/-- Reads the first message of the server. -/
def challenge (p : Primitives) (c : Client) (serverFirst : Bytes) : Except ScramError Challenge := do
  let text ← (Utf8.decode serverFirst).mapError fun _ => .malformed .firstNotUtf8
  let fields := attributes text.toList
  if fields.length < 3 then throw (.malformed .tooFewFields)
  let required (key : Char) (fault : ScramFault) : Except ScramError (List Char) :=
    match value? key fields with
    | some value => .ok value
    | none => .error (.malformed fault)
  let nonce ← required 'r' .missingNonce
  let salt ← required 's' .missingSalt
  let iterations ← required 'i' .missingIterations
  if !c.nonce.toList.isPrefixOf nonce || nonce == c.nonce.toList then throw .nonceMismatch
  let some salt := p.decode? (String.ofList salt) | throw (.malformed .saltNotBase64)
  match Text.unsigned? 32 (String.ofList iterations) with
  | some (iterations + 1) =>
    return { text, nonce := String.ofList nonce, salt, iterations := iterations + 1 }
  | _ => throw (.malformed .badIterations)

/-- The last message without its proof. -/
def withoutProof (challenge : Challenge) : String :=
  "c=biws,r=" ++ challenge.nonce

/-- The text that both sides sign: the messages before the proof. -/
def authMessage (c : Client) (challenge : Challenge) : String :=
  c.firstBare ++ "," ++ challenge.text ++ "," ++ withoutProof challenge

/-- The answer to a challenge. -/
def answer (p : Primitives) (c : Client) (challenge : Challenge) (password : String) : Final :=
  let message := Utf8.encode (c.authMessage challenge)
  let salted :=
    p.deriveKey (Utf8.encode (p.normal password)) challenge.salt challenge.iterations
  let clientKey := p.sign salted (Utf8.encode "Client Key")
  let proof := xorBytes clientKey (p.sign (p.hash clientKey) message)
  let serverKey := p.sign salted (Utf8.encode "Server Key")
  { message := withoutProof challenge ++ ",p=" ++ p.encode proof
    serverSignature := p.sign serverKey message }

/-- The last message of the client, given the first one of the server. -/
def finalMessage (p : Primitives) (c : Client) (serverFirst : Bytes) (password : String) :
    Except ScramError Final := do
  let challenge ← c.challenge p serverFirst
  return c.answer p challenge password

end Client

/-- Checks the last message of the server against the signature that is expected. -/
def verifyServerFinal (serverFinal expected : Bytes) (p : Primitives := .standard) :
    Except ScramError Unit := do
  let text ← (Utf8.decode serverFinal).mapError fun _ => .malformed .finalNotUtf8
  let fields := attributes text.toList
  if (value? 'e' fields).isSome then throw .invalidSignature
  let some verifier := value? 'v' fields | throw (.malformed .missingVerifier)
  let some signature := p.decode? (String.ofList verifier) | throw (.malformed .verifierNotBase64)
  if signature = expected then return () else throw .invalidSignature

end GelClient.Scram
