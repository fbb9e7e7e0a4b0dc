import GelClient.Proofs.Scram.Server
import GelClient.Proofs.Text.Base64
import GelClient.Proofs.Text.Number
import GelClient.Proofs.Utf8
import Mathlib.Algebra.Group.Nat.Defs

/-!
# Exchanges between both sides

A client that knows the password completes the exchange with a server that keeps an account made from
it. Each message is read on the other side as what it was written from, so both sides sign the same
text, and each finds the signature that it expects. Nothing is assumed of the hash or of the derivation
of keys, of the keyed hash only that all its results have one length, and of the text of bytes only that it
is read back and has no comma.
-/

namespace GelClient.Scram

/-- What an exchange relies on: signatures have one length, and the text of bytes can stand in a message. -/
structure Primitives.Lawful (p : Primitives) : Prop where
  length_sign (key message : Bytes) : (p.sign key message).length = 32
  decode?_encode (bytes : Bytes) : p.decode? (p.encode bytes) = some bytes
  comma_notMem_encode (bytes : Bytes) : ',' ∉ (p.encode bytes).toList

/-- The functions of the method are as an exchange needs them. -/
theorem Primitives.lawful_standard : Primitives.standard.Lawful where
  length_sign := Hmac.length_sha256
  decode?_encode := Base64.decode?_encode
  comma_notMem_encode := Base64.comma_notMem_encode

variable {p : Primitives}

/-- A server reads the first message of a client as the name of its account and the nonce. -/
theorem Account.greet?_initialMessage (p : Primitives) (user nonce suffix : String) (account : Account)
    (hname : account.name = p.normal user) (hnonce : ',' ∉ nonce.toList) :
    account.greet? p suffix (Utf8.encode (Client.start p user nonce).initialMessage) =
      some { firstBare := (Client.start p user nonce).firstBare
             challenge := account.challenge p (nonce ++ suffix)
             nonce := nonce ++ suffix } := by
  have hescaped : ',' ∉ 'n' :: '=' :: escapeName (p.normal user).toList := by
    simp [comma_notMem_escapeName]
  have hbare : (Client.start p user nonce).firstBare.toList =
      ('n' :: '=' :: escapeName (p.normal user).toList) ++ ',' :: 'r' :: '=' :: nonce.toList := by
    simp [Client.start]
  have hmessage : (Client.start p user nonce).initialMessage.toList =
      ['n', ',', ','] ++ (Client.start p user nonce).firstBare.toList := by
    simp [Client.initialMessage]
  unfold greet?
  simp only [Utf8.decode_encode, Except.toOption, hmessage, Text.dropPiece?_append, hbare,
    Text.splitFirst?_append hescaped, dropPiece?_attribute, Option.bind_eq_bind, Option.bind_some]
  simp [unescapeName_escapeName, hname, hnonce, ← hbare]

/-- The attributes of the first message of a server. -/
theorem attributes_challenge (hp : p.Lawful) (account : Account) {nonce : String}
    (hnonce : ',' ∉ nonce.toList) :
    attributes (account.challenge p nonce).toList =
      [('r', nonce.toList), ('s', (p.encode account.salt).toList),
        ('i', (toString account.iterations).toList)] := by
  have hr : ',' ∉ 'r' :: '=' :: nonce.toList := by simp [hnonce]
  have hs : ',' ∉ 's' :: '=' :: (p.encode account.salt).toList := by
    simp [hp.comma_notMem_encode]
  have hi : ',' ∉ 'i' :: '=' :: (toString account.iterations).toList := by
    simp [Text.notMem_toDigits (c := ',') rfl account.iterations]
  have htext : (account.challenge p nonce).toList =
      ('r' :: '=' :: nonce.toList) ++ ',' :: (('s' :: '=' :: (p.encode account.salt).toList) ++
        ',' :: 'i' :: '=' :: (toString account.iterations).toList) := by
    simp [Account.challenge]
  rw [htext, attributes_append hr, attributes_append hs, attributes_of_notMem hi]
  simp [attribute?]

/-- A client takes a challenge from the attributes of a message whose nonce extends its own. -/
theorem Client.challenge_of_attributes {c : Client} {text : String} {nonce salt count : List Char}
    {bytes : Bytes} {iterations : Nat}
    (hfields : attributes text.toList = [('r', nonce), ('s', salt), ('i', count)])
    (hextends : c.nonce.toList <+: nonce) (hne : nonce ≠ c.nonce.toList)
    (hsalt : p.decode? (String.ofList salt) = some bytes)
    (hcount : Text.unsigned? 32 (String.ofList count) = some (iterations + 1)) :
    c.challenge p (Utf8.encode text) =
      .ok { text, nonce := String.ofList nonce, salt := bytes, iterations := iterations + 1 } := by
  have hlength : ¬ (attributes text.toList).length < 3 := by
    rw [hfields]
    simp
  have hr : value? 'r' (attributes text.toList) = some nonce := by
    rw [hfields]
    rfl
  have hs : value? 's' (attributes text.toList) = some salt := by
    rw [hfields]
    rfl
  have hi : value? 'i' (attributes text.toList) = some count := by
    rw [hfields]
    rfl
  have hstart : c.nonce.toList.isPrefixOf nonce = true := List.isPrefixOf_iff_prefix.mpr hextends
  unfold challenge
  rw [Utf8.decode_encode]
  dsimp only [Except.mapError, bind, Except.bind]
  rw [if_neg hlength]
  dsimp only [pure, Except.pure]
  rw [hr, hs, hi]
  simp [hstart, hne, hsalt, hcount]

/-- A client reads the first message of a server that extends its nonce. -/
theorem Client.challenge_eq_ok (hp : p.Lawful) {c : Client} {account : Account} {nonce : String}
    (hnonce : ',' ∉ nonce.toList) (hextends : c.nonce.toList <+: nonce.toList) (hne : nonce ≠ c.nonce)
    (hpos : 0 < account.iterations) (hlt : account.iterations < 2 ^ 32) :
    c.challenge p (Utf8.encode (account.challenge p nonce)) =
      .ok { text := account.challenge p nonce, nonce, salt := account.salt
            iterations := account.iterations } := by
  have hlonger : nonce.toList ≠ c.nonce.toList := fun h => hne (String.toList_inj.mp h)
  obtain ⟨count, hcount⟩ := Nat.exists_eq_succ_of_ne_zero (Nat.ne_of_gt hpos)
  have hnumber : Text.unsigned? 32 (String.ofList (toString account.iterations).toList) =
      some (count + 1) := by
    rw [String.ofList_toList, Text.unsigned?_toString hlt, hcount]
  have hsalt : p.decode? (String.ofList (p.encode account.salt).toList) = some account.salt := by
    rw [String.ofList_toList, hp.decode?_encode]
  rw [challenge_of_attributes (attributes_challenge hp account hnonce) hextends hlonger hsalt hnumber,
    String.ofList_toList, hcount]

/-- A server takes the last message of a client apart as the client has put it together. -/
theorem Response.ofBytes?_withProof (hp : p.Lawful) (challenge : Client.Challenge) (proof : Bytes) :
    Response.ofBytes? p
        (Utf8.encode (Client.withoutProof challenge ++ ",p=" ++ p.encode proof)) =
      some { withoutProof := Client.withoutProof challenge, binding := "biws"
             nonce := challenge.nonce, proof } := by
  have hbinding : ',' ∉ ['c', '=', 'b', 'i', 'w', 's'] := by decide
  have hproof : ',' ∉ 'p' :: '=' :: (p.encode proof).toList := by
    simp [hp.comma_notMem_encode]
  have hfront : (Client.withoutProof challenge).toList =
      ['c', '=', 'b', 'i', 'w', 's'] ++ ',' :: 'r' :: '=' :: challenge.nonce.toList := by
    simp [Client.withoutProof]
  have htext : (Client.withoutProof challenge ++ ",p=" ++ p.encode proof).toList =
      (Client.withoutProof challenge).toList ++ ',' :: 'p' :: '=' :: (p.encode proof).toList := by
    simp
  unfold ofBytes?
  simp only [Utf8.decode_encode, Except.toOption, htext, Text.splitLast?_append hproof,
    dropPiece?_attribute, String.ofList_toList, hp.decode?_encode, hfront, Text.splitFirst?_append hbinding,
    Option.bind_eq_bind, Option.bind_some]
  simp [← hfront]

/-- A client accepts the signature that it expects. -/
theorem verifyServerFinal_signature (hp : p.Lawful) (signature : Bytes) :
    verifyServerFinal (Utf8.encode ("v=" ++ p.encode signature)) signature p = .ok () := by
  have hcomma : ',' ∉ 'v' :: '=' :: (p.encode signature).toList := by
    simp [hp.comma_notMem_encode]
  have htext : ("v=" ++ p.encode signature).toList = 'v' :: '=' :: (p.encode signature).toList := by
    simp
  have hfields : attributes ("v=" ++ p.encode signature).toList =
      [('v', (p.encode signature).toList)] := by
    rw [htext, attributes_of_notMem hcomma]
    rfl
  have he : value? 'e' (attributes ("v=" ++ p.encode signature).toList) = none := by
    rw [hfields]
    rfl
  have hv : value? 'v' (attributes ("v=" ++ p.encode signature).toList) =
      some (p.encode signature).toList := by
    rw [hfields]
    rfl
  unfold verifyServerFinal
  rw [Utf8.decode_encode]
  dsimp only [Except.mapError, bind, Except.bind]
  rw [he, hv]
  simp [hp.decode?_encode, pure, Except.pure]

/-- The answer to a challenge is accepted by a server that has sent it for an account with the same
password, and the client accepts the reply. -/
theorem Client.answer_accepted (hp : p.Lawful) (user password : String) (c : Client)
    (challenge : Challenge) :
    let account := Account.ofPassword p user password challenge.salt challenge.iterations
    let session : Session :=
      { firstBare := c.firstBare, challenge := challenge.text, nonce := challenge.nonce }
    ∃ response,
      Response.ofBytes? p (Utf8.encode (c.answer p challenge password).message) = some response ∧
      session.Accepts p account response ∧
      verifyServerFinal (account.reply p (session.authMessage response))
        (c.answer p challenge password).serverSignature p = .ok () := by
  intro account session
  let salted := p.deriveKey (Utf8.encode (p.normal password)) challenge.salt challenge.iterations
  let key := p.sign salted (Utf8.encode "Client Key")
  let signature := p.sign (p.hash key) (Utf8.encode (c.authMessage challenge))
  let response : Response :=
    { withoutProof := withoutProof challenge, binding := "biws", nonce := challenge.nonce
      proof := xorBytes key signature }
  -- the texts that both sides put together are the same
  have hauth : session.authMessage response = Utf8.encode (c.authMessage challenge) := rfl
  have hlength : key.length = signature.length := by rw [hp.length_sign, hp.length_sign]
  have hkey : account.clientKey p (session.authMessage response) response.proof = key := by
    rw [hauth]
    exact xorBytes_xorBytes hlength
  refine ⟨response, Response.ofBytes?_withProof hp challenge (xorBytes key signature), ?_, ?_⟩
  · exact { binding_eq := rfl, nonce_eq := rfl, hash_clientKey := congrArg p.hash hkey }
  · rw [hauth]
    exact verifyServerFinal_signature hp (c.answer p challenge password).serverSignature

/-- **A client with the password of an account completes the exchange.** The server reads its first
message, the client answers the challenge, the server finds the whole nonce and the key of the client in
the answer, over the text that it has put together itself, and the client accepts the reply. -/
theorem exchange_succeeds (p : Primitives) (hp : p.Lawful) (user password nonce suffix : String)
    (salt : Bytes) (iterations : Nat) (hnonce : ',' ∉ nonce.toList)
    (hsuffix : ',' ∉ suffix.toList) (hne : suffix ≠ "") (hpos : 0 < iterations)
    (hlt : iterations < 2 ^ 32) :
    let account := Account.ofPassword p user password salt iterations
    let client := Client.start p user nonce
    ∃ session, account.greet? p suffix (Utf8.encode client.initialMessage) = some session ∧
      session.nonce = nonce ++ suffix ∧
      session.challenge =
        "r=" ++ (nonce ++ suffix) ++ ",s=" ++ p.encode salt ++ ",i=" ++ toString iterations ∧
      ∃ final,
        client.finalMessage p (Utf8.encode session.challenge) password = .ok final ∧
        ∃ response, Response.ofBytes? p (Utf8.encode final.message) = some response ∧
          session.Accepts p account response ∧
          verifyServerFinal (account.reply p (session.authMessage response))
            final.serverSignature p = .ok () := by
  intro account client
  let challenge : Client.Challenge :=
    { text := account.challenge p (nonce ++ suffix), nonce := nonce ++ suffix, salt, iterations }
  have hgreet := account.greet?_initialMessage p user nonce suffix rfl hnonce
  have hcomma : ',' ∉ (nonce ++ suffix).toList := by simp [hnonce, hsuffix]
  have hextends : client.nonce.toList <+: (nonce ++ suffix).toList := by
    rw [String.toList_append]
    exact List.prefix_append nonce.toList suffix.toList
  have hlonger : nonce ++ suffix ≠ client.nonce := by
    intro h
    have hlists : nonce.toList ++ suffix.toList = nonce.toList := by
      rw [← String.toList_append]
      exact congrArg String.toList h
    exact hne (String.toList_eq_nil_iff.mp (List.append_right_eq_self.mp hlists))
  have hchallenge : client.challenge p (Utf8.encode challenge.text) = .ok challenge :=
    Client.challenge_eq_ok hp hcomma hextends hlonger hpos hlt
  have hfinal : client.finalMessage p (Utf8.encode challenge.text) password =
      .ok (client.answer p challenge password) := by
    unfold Client.finalMessage
    rw [hchallenge]
    rfl
  exact ⟨_, hgreet, rfl, rfl, _, hfinal, client.answer_accepted hp user password challenge⟩

/-- The salt of the exchange in RFC 7677. -/
def pencilSalt : Bytes :=
  [0x5B, 0x6D, 0x99, 0x68, 0x9D, 0x12, 0x35, 0x8E, 0xEC, 0xA0, 0x4B, 0x14, 0x12, 0x36, 0xFA, 0x81]

/-- The exchange in RFC 7677 succeeds. -/
theorem exchange_succeeds_pencil :
    let p := Primitives.standard
    let account := Account.ofPassword p "user" "pencil" pencilSalt 4096
    let client := Client.start p "user" "rOprNGfwEbeRWgbNEkqO"
    ∃ session,
      account.greet? p "%hvYDpWUa2RaTCAfuxFIlj)hNlF$k0" (Utf8.encode client.initialMessage) =
        some session ∧
      session.challenge = "r=rOprNGfwEbeRWgbNEkqO%hvYDpWUa2RaTCAfuxFIlj)hNlF$k0," ++
        "s=W22ZaJ0SNY7soEsUEjb6gQ==,i=4096" ∧
      ∃ final, client.finalMessage p (Utf8.encode session.challenge) "pencil" = .ok final ∧
        ∃ response, Response.ofBytes? p (Utf8.encode final.message) = some response ∧
          session.Accepts p account response ∧
          verifyServerFinal (account.reply p (session.authMessage response))
            final.serverSignature p = .ok () := by
  intro p account client
  obtain ⟨session, hgreet, -, hchallenge, hfinal⟩ :=
    exchange_succeeds p Primitives.lawful_standard "user" "pencil" "rOprNGfwEbeRWgbNEkqO"
      "%hvYDpWUa2RaTCAfuxFIlj)hNlF$k0" pencilSalt 4096 (by decide) (by decide) (by decide)
      (by decide) (by decide)
  exact ⟨session, hgreet, hchallenge.trans rfl, hfinal⟩

end GelClient.Scram
