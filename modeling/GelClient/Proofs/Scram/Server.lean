import GelClient.Scram.Client
import GelClient.Text.Split

/-!
# A SCRAM server

The other side of an exchange (RFC 5802). A server keeps no password, only a hash and a key that were
made from one. It takes the messages of a client apart by the order in which their attributes stand,
and puts the text that both sides sign together from the texts it has received and sent.
-/

namespace GelClient.Scram

/-- The value of an attribute stands behind its letter and the equals sign. -/
theorem dropPiece?_attribute (key : Char) (value : List Char) :
    Text.dropPiece? [key, '='] (key :: '=' :: value) = some value :=
  Text.dropPiece?_append [key, '='] value

/-- What a server keeps of a user. -/
structure Account where
  name : String
  salt : Bytes
  iterations : Nat
  /-- The hash of the key of the client. -/
  storedKey : Bytes
  /-- The key that the server signs with. -/
  serverKey : Bytes
  deriving DecidableEq, Repr

/-- The account of a user with a password. -/
def Account.ofPassword (p : Primitives) (user password : String) (salt : Bytes) (iterations : Nat) :
    Account :=
  let salted := p.deriveKey (Utf8.encode (p.normal password)) salt iterations
  { name := p.normal user, salt, iterations
    storedKey := p.hash (p.sign salted (Utf8.encode "Client Key"))
    serverKey := p.sign salted (Utf8.encode "Server Key") }

/-- The first message of a server. -/
def Account.challenge (account : Account) (p : Primitives) (nonce : String) : String :=
  "r=" ++ nonce ++ ",s=" ++ p.encode account.salt ++ ",i=" ++ toString account.iterations

/-- What a server remembers of an exchange that it has answered once. -/
structure Session where
  /-- The first message of the client without its header. -/
  firstBare : String
  /-- The first message of the server. -/
  challenge : String
  /-- The nonce of the client with the part that the server has put behind it. -/
  nonce : String
  deriving DecidableEq, Repr

/-- Reads the first message of a client, which has to ask for no channel binding and to carry the name
of the account and a nonce, and answers it with a part of a nonce. -/
def Account.greet? (account : Account) (p : Primitives) (suffix : String) (clientFirst : Bytes) :
    Option Session := do
  let text ← (Utf8.decode clientFirst).toOption
  let bare ← Text.dropPiece? ['n', ',', ','] text.toList
  let (name, nonce) ← Text.splitFirst? ',' bare
  let name ← Text.dropPiece? ['n', '='] name
  let nonce ← Text.dropPiece? ['r', '='] nonce
  if String.ofList (unescapeName name) ≠ account.name ∨ ',' ∈ nonce then none
  let nonce := String.ofList nonce ++ suffix
  return { firstBare := String.ofList bare, challenge := account.challenge p nonce, nonce }

/-- What the last message of a client says. -/
structure Response where
  /-- The message without its proof. -/
  withoutProof : String
  binding : String
  nonce : String
  proof : Bytes
  deriving DecidableEq, Repr

/-- Reads the last message of a client: the channel binding, the nonce and behind the last comma the
proof. -/
def Response.ofBytes? (p : Primitives) (clientFinal : Bytes) : Option Response := do
  let text ← (Utf8.decode clientFinal).toOption
  let (withoutProof, proof) ← Text.splitLast? ',' text.toList
  let proof ← Text.dropPiece? ['p', '='] proof
  let proof ← p.decode? (String.ofList proof)
  let (binding, nonce) ← Text.splitFirst? ',' withoutProof
  let binding ← Text.dropPiece? ['c', '='] binding
  let nonce ← Text.dropPiece? ['r', '='] nonce
  return { withoutProof := String.ofList withoutProof, binding := String.ofList binding
           nonce := String.ofList nonce, proof }

/-- The text that both sides sign, from the messages before the proof. -/
def Session.authMessage (s : Session) (r : Response) : Bytes :=
  Utf8.encode (s.firstBare ++ "," ++ s.challenge ++ "," ++ r.withoutProof)

/-- The key of the client that a server finds in a proof once it takes the signature off. -/
def Account.clientKey (account : Account) (p : Primitives) (authMessage proof : Bytes) : Bytes :=
  xorBytes proof (p.sign account.storedKey authMessage)

/-- A response that a server accepts: it has the binding for no channel, the whole nonce, and a proof
that holds the key of the client. -/
structure Session.Accepts (s : Session) (p : Primitives) (account : Account) (r : Response) :
    Prop where
  binding_eq : r.binding = "biws"
  nonce_eq : r.nonce = s.nonce
  hash_clientKey : p.hash (account.clientKey p (s.authMessage r) r.proof) = account.storedKey

/-- The last message of a server: its own signature of the same text. -/
def Account.reply (account : Account) (p : Primitives) (authMessage : Bytes) : Bytes :=
  Utf8.encode ("v=" ++ p.encode (p.sign account.serverKey authMessage))

end GelClient.Scram
