import GelClient.Connection.Config
import GelClient.Connection.Socket
import GelClient.Utf8

/-!
# TLS

How a client sets up TLS before it dials a server, and what becomes of a socket that it has dialled.
Certificates, their verification and the sessions are those of a library, whose parts `TlsLibrary`
names. What is made of them is decided here: which certificates are trusted, what each mode accepts,
and which protocol is offered.
-/

namespace GelClient

/-- What is wrong with the certificates that a server presents. -/
inductive CertificateFault where
  /-- They are not for the name of the host. -/
  | otherName
  | other (text : String)
  deriving DecidableEq, Repr

/-- A judge of the certificates that a server presents under the name of its host. -/
abbrev CertificateVerifier := (presented : List Bytes) → (host : String) → Except CertificateFault Unit

/-- What a session is set up with. -/
structure TlsSettings where
  verify : CertificateVerifier
  /-- The protocols that are offered for use inside the session. -/
  protocols : List Bytes

/-- The parts of TLS that a library provides. -/
structure TlsLibrary where
  /-- Whether some version of TLS can be spoken. -/
  versions : Except String Unit
  /-- The certificates of a PEM text in order, each of them or what is wrong with it. -/
  certificates : String → List (Except String Bytes)
  /-- Whether a certificate can be trusted. -/
  trust : Bytes → Except String Unit
  /-- The certificates that are trusted unless others are given. -/
  roots : List Bytes
  /-- Whether certificates can be trusted together. -/
  trustAll : List Bytes → Except String Unit
  /-- The judge of chains of certificates and of their names who trusts some certificates. -/
  verify : (roots : List Bytes) → CertificateVerifier
  /-- Whether a text names a host. -/
  hostName : String → Except String Unit
  /-- The session over the socket that an attempt to dial the host gave. -/
  session : TlsSettings → (host : String) → (attempt : Nat) → Socket → Except IoError Socket

/-- The protocol of the messages. -/
def binaryProtocol : Bytes := Utf8.encode "edgedb-binary"

/-- The judge who accepts certificates for any name. -/
def CertificateVerifier.anyName (verify : CertificateVerifier) : CertificateVerifier :=
  fun presented host =>
    match verify presented host with
    | .error .otherName => .ok ()
    | verdict => verdict

/-- The judge who accepts all certificates. -/
def CertificateVerifier.trusting : CertificateVerifier := fun _ _ => .ok ()

namespace TlsLibrary

/-- The certificates to trust: those of a PEM text, of which there must be at least one, or else
those of the library. -/
def rootStore (library : TlsLibrary) : Option String → Except String (List Bytes)
  | none => return library.roots
  | some pem => do
    let roots ← (library.certificates pem).mapM fun read => do
      let certificate ← read
      library.trust certificate
      return certificate
    if roots.isEmpty then throw "no certificate found in tls ca"
    return roots

/-- The judge for a mode. A judge who trusts everybody needs no certificates. -/
def verifier (library : TlsLibrary) (ca : Option String) :
    TlsMode → Except String CertificateVerifier
  | .strict => do
    let roots ← library.rootStore ca
    return library.verify roots
  | .noHostVerification => do
    let roots ← library.rootStore ca
    library.trustAll roots
    return (library.verify roots).anyName
  | .insecure => return .trusting

/-- What sessions are set up with for some settings of a connection. -/
def settings (library : TlsLibrary) (mode : TlsMode) (ca : Option String) :
    Except String TlsSettings := do
  library.versions
  let verify ← library.verifier ca mode
  return { verify, protocols := [binaryProtocol] }

/-- Certificates are accepted for any name exactly if nothing is wrong with them but the name. -/
private theorem anyName_eq_ok {verify : CertificateVerifier} {presented : List Bytes} {host : String} :
    verify.anyName presented host = .ok () ↔
      verify presented host = .ok () ∨ verify presented host = .error .otherName := by
  unfold CertificateVerifier.anyName
  split
  next h => simp [h]
  next hno => exact ⟨.inl, (Or.resolve_right · hno)⟩

/-- What a judge accepts: everything if no certificates are verified, or else what is right by the
certificates that are trusted. Where the name is not verified, another name is right as well. -/
theorem verifier_accepts {library : TlsLibrary} {mode : TlsMode} {ca : Option String}
    {verify : CertificateVerifier} (hverify : library.verifier ca mode = .ok verify)
    (presented : List Bytes) (host : String) :
    verify presented host = .ok () ↔ mode = .insecure ∨ ∃ roots,
      library.rootStore ca = .ok roots ∧ (library.verify roots presented host = .ok () ∨
        mode = .noHostVerification ∧ library.verify roots presented host = .error .otherName) := by
  cases mode with
  | insecure =>
    cases hverify
    exact ⟨fun _ => .inl rfl, fun _ => rfl⟩
  | strict =>
    rw [verifier] at hverify
    cases hroots : library.rootStore ca with
    | error text =>
      rw [hroots] at hverify
      cases hverify
    | ok roots =>
      rw [hroots] at hverify
      cases hverify
      simp
  | noHostVerification =>
    rw [verifier] at hverify
    cases hroots : library.rootStore ca with
    | error text =>
      rw [hroots] at hverify
      cases hverify
    | ok roots =>
      rw [hroots] at hverify
      change library.trustAll roots >>= _ = _ at hverify
      cases hall : library.trustAll roots with
      | error text =>
        rw [hall] at hverify
        cases hverify
      | ok _ =>
        rw [hall] at hverify
        cases hverify
        simp [anyName_eq_ok]

end TlsLibrary

/-- TLS that is set up for a client. -/
structure TlsClient where
  library : TlsLibrary
  settings : TlsSettings

/-- The session over the socket that an attempt to dial a host gave. -/
def TlsClient.upgrade (tls : TlsClient) (host : String) (attempt : Nat) (socket : Socket) :
    Except IoError Socket :=
  match tls.library.hostName host with
  | .ok () => tls.library.session tls.settings host attempt socket
  | .error text => .error (.other text)

end GelClient
