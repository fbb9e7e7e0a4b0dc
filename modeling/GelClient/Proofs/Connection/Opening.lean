import GelClient.Proofs.Connection.Handshake

/-!
# The language of a handshake

The sequences of messages that a handshake answers without an error, apart from reports for the log:
versions, a login, facts about the session, and the message that ends the handshake. The login is
either granted at once or after the four messages of an exchange, which have to fit the exchange that
the client started. Which part of the language was seen so far is an invariant of every run.
-/

namespace GelClient.Handshake

/-- The server announces a version that the client can speak. -/
def Announces (version : ProtocolVersion) (m : ServerMessage) : Prop :=
  ∃ a, m = .serverHandshake a ∧ a.version.major = version.major ∧ version.minor ≤ a.version.minor

/-- A message states a fact about the session. -/
def IsFact (m : ServerMessage) : Prop :=
  (∃ k, m = .serverKeyData k) ∨ (∃ p, m = .parameterStatus p) ∨ ∃ d, m = .stateDataDescription d

/-- How far a login is. -/
inductive LoginStage where
  | outside
  /-- The server asked for a password. -/
  | asked
  /-- The client answered the challenge and waits for this signature. -/
  | challenged (signature : Bytes)
  /-- The server proved that it knows the password. -/
  | proved
  | granted

/-- The messages of a login up to some stage. -/
inductive Login (h : Handshake) : LoginStage → List ServerMessage → Prop
  | outside : Login h .outside []
  | granted : Login h .granted [.authentication .ok]
  | asked {methods : List String} : Scram.methodName ∈ methods →
      Login h .asked [.authentication (.sasl methods)]
  | challenged {methods : List String} {data : Bytes} {last : Scram.Final} :
      Scram.methodName ∈ methods →
      h.opener.finalMessage h.primitives data h.password = .ok last →
      Login h (.challenged last.serverSignature)
        [.authentication (.sasl methods), .authentication (.saslContinue data)]
  | proved {methods : List String} {data proof : Bytes} {last : Scram.Final} :
      Scram.methodName ∈ methods →
      h.opener.finalMessage h.primitives data h.password = .ok last →
      Scram.verifyServerFinal proof last.serverSignature h.primitives = .ok () →
      Login h .proved
        [.authentication (.sasl methods), .authentication (.saslContinue data),
          .authentication (.saslFinal proof)]
  | verified {methods : List String} {data proof : Bytes} {last : Scram.Final} :
      Scram.methodName ∈ methods →
      h.opener.finalMessage h.primitives data h.password = .ok last →
      Scram.verifyServerFinal proof last.serverSignature h.primitives = .ok () →
      Login h .granted
        [.authentication (.sasl methods), .authentication (.saslContinue data),
          .authentication (.saslFinal proof), .authentication .ok]

/-- The beginning of a sequence of versions, a login, facts and the end of the handshake. -/
def IsOpening (h : Handshake) (ms : List ServerMessage) : Prop :=
  ∃ versions login facts ending stage,
    ms = versions ++ (login ++ (facts ++ ending)) ∧ (∀ m ∈ versions, Announces h.version m) ∧
      Login h stage login ∧ (∀ m ∈ facts, IsFact m) ∧
      (ending = [] ∨ ∃ r, ending = [.readyForCommand r]) ∧ (facts ++ ending ≠ [] → stage = .granted)

/-- What has to be done after a message that is not for the log. -/
def stepOf (h : Handshake) : ServerMessage → HandshakeStep
  | .authentication (.sasl _) => .send (.initial Scram.methodName h.opener.initialMessage)
  | .authentication (.saslContinue data) =>
    match h.opener.finalMessage h.primitives data h.password with
    | .ok last => .send (.answer last.message)
    | .error _ => .wait
  | .readyForCommand _ => .ready
  | _ => .wait

/-- The messages that are not reports for the log. -/
def plain (ms : List ServerMessage) : List ServerMessage :=
  ms.filter fun m => !m.isLog

/-- Every message of a sequence is answered without an error. -/
def AllOk (h : Handshake) (ms : List ServerMessage) : Prop :=
  ∀ a ∈ h.answers ms, ∃ step, a = .ok step

section Runs

variable {h h' : Handshake} {m : ServerMessage} {ms ns : List ServerMessage} {step : HandshakeStep}

/-- A run over a sequence goes on behind its first message. -/
theorem after_cons : h.after (m :: ms) = (h.next m).after ms := rfl

/-- A run over a sequence goes on behind the run over its beginning. -/
theorem after_append : h.after (ms ++ ns) = (h.after ms).after ns :=
  List.foldl_append

/-- The answers to a sequence are those to its beginning and then those to the rest. -/
theorem answers_append : h.answers (ms ++ ns) = h.answers ms ++ (h.after ms).answers ns := by
  induction ms generalizing h with
  | nil => rfl
  | cons m ms ih =>
    simp only [List.cons_append, answers, ih]
    rfl

/-- Nothing is answered with an error in an empty sequence. -/
private theorem allOk_nil : AllOk h [] := by
  simp [AllOk, answers]

/-- A sequence is answered without errors if its beginning is and then the rest. -/
private theorem allOk_append : AllOk h (ms ++ ns) ↔ AllOk h ms ∧ AllOk (h.after ms) ns := by
  simp only [AllOk, answers_append, List.mem_append, or_imp, forall_and]

/-- A sequence is answered without errors if its first message is and then the rest. -/
private theorem allOk_cons : AllOk h (m :: ms) ↔ (∃ step, h.answer m = .ok step) ∧ AllOk (h.next m) ms := by
  simp only [AllOk, answers, List.forall_mem_cons]

/-- A sequence is answered without errors if its beginning is and then its last message. -/
private theorem allOk_concat : AllOk h (ms ++ [m]) ↔ AllOk h ms ∧ ∃ step, (h.after ms).answer m = .ok step := by
  rw [allOk_append, allOk_cons]
  simp [AllOk, answers]

/-- A sequence is answered without errors and leads to a handshake. -/
def Runs (h : Handshake) (ms : List ServerMessage) (h' : Handshake) : Prop :=
  AllOk h ms ∧ h.after ms = h'

/-- An empty sequence leads nowhere else. -/
theorem Runs.nil : Runs h [] h := ⟨allOk_nil, rfl⟩

/-- A message that is accepted may be put in front. -/
theorem Runs.cons {h'' : Handshake} (ha : Accepts h m step h') (hr : Runs h' ms h'') :
    Runs h (m :: ms) h'' := by
  obtain ⟨hok, hafter⟩ := hr
  rw [Runs, allOk_cons, after_cons, ha.next_eq]
  exact ⟨⟨⟨step, answer_eq_ok.mpr (by rwa [ha.next_eq])⟩, hok⟩, hafter⟩

/-- Two sequences that are answered without errors may be put together. -/
theorem Runs.append {h'' : Handshake} (hr : Runs h ms h') (hs : Runs h' ns h'') :
    Runs h (ms ++ ns) h'' := by
  obtain ⟨hok, rfl⟩ := hr
  rw [Runs, allOk_append, after_append]
  exact ⟨⟨hok, hs.1⟩, hs.2⟩

/-- The messages that are not for the log, behind one more message. -/
private theorem plain_cons : plain (m :: ms) = if m.isLog then plain ms else m :: plain ms := by
  cases hm : m.isLog <;> simp [plain, hm]

/-- The messages that are not for the log, in two parts. -/
private theorem plain_append : plain (ms ++ ns) = plain ms ++ plain ns :=
  List.filter_append ms ns

/-- Reports for the log are answered without an error. -/
theorem allOk_plain : AllOk h (plain ms) ↔ AllOk h ms := by
  induction ms generalizing h with
  | nil => exact Iff.rfl
  | cons m ms ih =>
    rw [plain_cons, allOk_cons]
    split
    next hm =>
      rw [ih, next_of_isLog hm]
      exact (and_iff_right ⟨.wait, answer_of_isLog hm⟩).symm
    next hm => rw [allOk_cons, ih]

/-- A disconnected handshake stays disconnected. -/
theorem state_after_of_disconnected (hs : h.state = .disconnected) :
    (h.after ms).state = .disconnected := by
  induction ms generalizing h with
  | nil => exact hs
  | cons m ms ih =>
    refine ih ?_
    cases ha : h.answer m with
    | error cause => exact state_next_of_error ha
    | ok step =>
      rwa [next_of_isLog ((answer_eq_ok.mp ha).isLog_of_disconnected hs)]

/-- After an error the handshake is disconnected, whatever follows. -/
theorem state_after_of_not_allOk (he : ¬ AllOk h ms) : (h.after ms).state = .disconnected := by
  induction ms generalizing h with
  | nil => exact absurd allOk_nil he
  | cons m ms ih =>
    rw [allOk_cons] at he
    rw [after_cons]
    cases ha : h.answer m with
    | error cause => exact state_after_of_disconnected (state_next_of_error ha)
    | ok step => exact ih fun hms => he ⟨⟨step, ha⟩, hms⟩

end Runs

/-- Two handshakes of the same user with the same terms. -/
structure SameTerms (h₀ h : Handshake) : Prop where
  primitives_eq : h.primitives = h₀.primitives
  version_eq : h.version = h₀.version
  user_eq : h.user = h₀.user
  password_eq : h.password = h₀.password
  nonce_eq : h.nonce = h₀.nonce

/-- No message changes the terms. -/
theorem SameTerms.accepts {h₀ h h' : Handshake} {m : ServerMessage} {step : HandshakeStep}
    (ht : SameTerms h₀ h) (ha : Accepts h m step h') : SameTerms h₀ h' := by
  obtain ⟨hp, hv, hu, hw, hn⟩ := ht
  cases ha with
  | parameter m hs =>
    unfold takeParameter
    split <;> exact ⟨hp, hv, hu, hw, hn⟩
  | _ => exact ⟨hp, hv, hu, hw, hn⟩

/-- The state and the data of the exchange that go with a stage of a login. -/
def LoginStage.Holds (h₀ h : Handshake) : LoginStage → Prop
  | outside => h.state = .handshakeSent ∧ h.exchange = h₀.exchange
  | asked => h.state = .authenticating .initial ∧ h.exchange = some h₀.opener
  | challenged signature => h.state = .authenticating .answered ∧ h.serverSignature = some signature
  | proved => h.state = .authenticating .verified
  | granted => h.state = .authenticated

/-- What a run of accepted messages has come to: the part of the language that was seen, and a
handshake that goes with it. -/
inductive Reached (h₀ h : Handshake) : List ServerMessage → Prop
  | login {versions login : List ServerMessage} {stage : LoginStage} :
      (∀ m ∈ versions, Announces h₀.version m) → Login h₀ stage login → stage.Holds h₀ h →
      Reached h₀ h (versions ++ login)
  | facts {versions login facts : List ServerMessage} :
      (∀ m ∈ versions, Announces h₀.version m) → Login h₀ .granted login → (∀ m ∈ facts, IsFact m) →
      h.state = .authenticated → Reached h₀ h (versions ++ (login ++ facts))
  | ended {versions login facts : List ServerMessage} {r : ReadyForCommand} :
      (∀ m ∈ versions, Announces h₀.version m) → Login h₀ .granted login → (∀ m ∈ facts, IsFact m) →
      h.state = .ready → Reached h₀ h (versions ++ (login ++ (facts ++ [.readyForCommand r])))

/-- Whatever a run has come to is the beginning of the language. -/
theorem Reached.isOpening {h₀ h : Handshake} {ms : List ServerMessage} (hr : Reached h₀ h ms) :
    IsOpening h₀ ms := by
  cases hr with
  | login hv hl _ => exact ⟨_, _, [], [], _, by simp, hv, hl, by simp, .inl rfl, by simp⟩
  | facts hv hl hf _ => exact ⟨_, _, _, [], _, by simp, hv, hl, hf, .inl rfl, fun _ => rfl⟩
  | ended hv hl hf _ => exact ⟨_, _, _, _, _, rfl, hv, hl, hf, .inr ⟨_, rfl⟩, fun _ => rfl⟩

/-- Two handshakes with the same terms and the same exchange start with the same message. -/
theorem SameTerms.opener_eq {h₀ h : Handshake} (ht : SameTerms h₀ h) (he : h.exchange = h₀.exchange) :
    h.opener = h₀.opener := by
  rw [opener, opener, he, ht.primitives_eq, ht.user_eq, ht.nonce_eq]

/-- A message that is accepted after a login is a fact or the end, and is answered as it should be. -/
theorem Login.reached_fact {h₀ h h' : Handshake} {versions login facts : List ServerMessage}
    {m : ServerMessage} {step : HandshakeStep} (hv : ∀ m ∈ versions, Announces h₀.version m)
    (hl : Login h₀ .granted login) (hf : ∀ m ∈ facts, IsFact m) (hs : h.state = .authenticated)
    (ha : Accepts h m step h') (hm : m.isLog = false) :
    Reached h₀ h' (versions ++ (login ++ (facts ++ [m]))) ∧ step = h₀.stepOf m := by
  have hfacts (hfact : IsFact m) : ∀ x ∈ facts ++ [m], IsFact x := by
    intro x hx
    rcases List.mem_append.mp hx with hx | hx
    · exact hf x hx
    · rwa [List.mem_singleton.mp hx]
  cases ha with
  | log => cases hm
  | key k _ => exact ⟨.facts hv hl (hfacts (.inl ⟨k, rfl⟩)) hs, rfl⟩
  | parameter p _ => exact ⟨.facts hv hl (hfacts (.inr (.inl ⟨p, rfl⟩))) (by simp [hs]), rfl⟩
  | description d _ => exact ⟨.facts hv hl (hfacts (.inr (.inr ⟨d, rfl⟩))) hs, rfl⟩
  | ready r _ => exact ⟨.ended hv hl hf rfl, rfl⟩
  | _ => simp_all

/-- A message that is accepted during a login belongs to the language, and is answered as it should
be. -/
theorem Login.reached_next {h₀ h h' : Handshake} {versions login : List ServerMessage}
    {stage : LoginStage} {m : ServerMessage} {step : HandshakeStep} (ht : SameTerms h₀ h)
    (hv : ∀ m ∈ versions, Announces h₀.version m) (hl : Login h₀ stage login) (hs : stage.Holds h₀ h)
    (ha : Accepts h m step h') (hm : m.isLog = false) :
    Reached h₀ h' (versions ++ (login ++ [m])) ∧ step = h₀.stepOf m := by
  have hnone : ∀ m ∈ ([] : List ServerMessage), IsFact m := by simp
  cases hl with
  | outside =>
    obtain ⟨hstate, hexchange⟩ := hs
    cases ha with
    | log => cases hm
    | version a _ hmajor hminor =>
      have hall : ∀ m ∈ versions ++ [.serverHandshake a], Announces h₀.version m := by
        intro m hm
        rcases List.mem_append.mp hm with hm | hm
        · exact hv m hm
        · rw [List.mem_singleton.mp hm, ← ht.version_eq]
          exact ⟨a, rfl, hmajor, hminor⟩
      have hreached : Reached h₀ (h.announced a.version) ((versions ++ [.serverHandshake a]) ++ []) :=
        .login hall .outside ⟨hstate, hexchange⟩
      exact ⟨by simpa using hreached, rfl⟩
    | admitted => exact ⟨.login hv .granted rfl, rfl⟩
    | asked methods _ hmem =>
      rw [ht.opener_eq hexchange]
      exact ⟨.login hv (.asked hmem) ⟨rfl, rfl⟩, rfl⟩
    | _ => simp_all
  | asked hmem =>
    obtain ⟨hstate, hexchange⟩ := hs
    cases ha with
    | log => cases hm
    | challenged data exchange last _ he hf =>
      obtain rfl := Option.some.inj (hexchange.symm.trans he)
      rw [ht.primitives_eq, ht.password_eq] at hf
      exact ⟨.login hv (.challenged hmem hf) ⟨rfl, rfl⟩, by simp only [stepOf, hf]⟩
    | _ => simp_all
  | challenged hmem hf =>
    obtain ⟨hstate, hsignature⟩ := hs
    cases ha with
    | log => cases hm
    | proved data expected _ he hproof =>
      obtain rfl := Option.some.inj (hsignature.symm.trans he)
      rw [ht.primitives_eq] at hproof
      exact ⟨.login hv (.proved hmem hf hproof) rfl, rfl⟩
    | _ => simp_all
  | proved hmem hf hproof =>
    have hstate : h.state = .authenticating .verified := hs
    cases ha with
    | log => cases hm
    | verified => exact ⟨.login hv (.verified hmem hf hproof) rfl, rfl⟩
    | _ => simp_all
  | granted => exact reached_fact hv .granted hnone hs ha hm
  | verified hmem hf hproof => exact reached_fact hv (.verified hmem hf hproof) hnone hs ha hm

/-- Every accepted message goes one step further in the language, and is answered as it should be. -/
theorem Reached.next {h₀ h h' : Handshake} {ms : List ServerMessage} {m : ServerMessage}
    {step : HandshakeStep} (ht : SameTerms h₀ h) (hr : Reached h₀ h ms) (ha : Accepts h m step h')
    (hm : m.isLog = false) : Reached h₀ h' (ms ++ [m]) ∧ step = h₀.stepOf m := by
  cases hr with
  | login hv hl hs =>
    rw [List.append_assoc]
    exact hl.reached_next ht hv hs ha hm
  | facts hv hl hf hs =>
    rw [List.append_assoc, List.append_assoc]
    exact hl.reached_fact hv hf hs ha hm
  | ended hv hl hf hs =>
    have hlog : m.isLog = true := by
      cases ha <;> simp_all [ServerMessage.isLog]
    rw [hlog] at hm
    cases hm

/-- A run without errors goes on along the language. -/
theorem Reached.after {h₀ h : Handshake} {before ms : List ServerMessage} (ht : SameTerms h₀ h)
    (hr : Reached h₀ h before) (hok : AllOk h ms) :
    SameTerms h₀ (h.after ms) ∧ Reached h₀ (h.after ms) (before ++ plain ms) := by
  induction ms generalizing h before with
  | nil =>
    rw [plain, List.filter_nil, List.append_nil]
    exact ⟨ht, hr⟩
  | cons m ms ih =>
    rw [allOk_cons] at hok
    obtain ⟨⟨step, hstep⟩, hrest⟩ := hok
    have ha := answer_eq_ok.mp hstep
    rw [after_cons, plain_cons]
    split
    next hm =>
      rw [next_of_isLog hm] at hrest ⊢
      exact ih ht hr hrest
    next hm =>
      have hnext := (hr.next ht ha (Bool.eq_false_iff.mpr hm)).1
      rw [List.append_cons]
      exact ih (ht.accepts ha) hnext hrest

/-- A run without errors from the start follows the language. -/
theorem reached_after {h₀ : Handshake} {ms : List ServerMessage} (hs : h₀.state = .handshakeSent)
    (hok : AllOk h₀ ms) : SameTerms h₀ (h₀.after ms) ∧ Reached h₀ (h₀.after ms) (plain ms) := by
  have hstart : Reached h₀ h₀ ([] ++ []) := .login (by simp) .outside ⟨hs, rfl⟩
  exact hstart.after ⟨rfl, rfl, rfl, rfl, rfl⟩ hok

/-- Versions that the client can speak are accepted before the login. -/
theorem runs_versions {h₀ h : Handshake} {versions : List ServerMessage} (ht : SameTerms h₀ h)
    (hs : LoginStage.outside.Holds h₀ h) (hv : ∀ m ∈ versions, Announces h₀.version m) :
    ∃ h', Runs h versions h' ∧ SameTerms h₀ h' ∧ LoginStage.outside.Holds h₀ h' := by
  induction versions generalizing h with
  | nil => exact ⟨h, .nil, ht, hs⟩
  | cons m versions ih =>
    obtain ⟨a, rfl, hmajor, hminor⟩ := hv m (by simp)
    rw [← ht.version_eq] at hmajor hminor
    have ha := Accepts.version a hs.1 hmajor hminor
    obtain ⟨h', hr, ht', hs'⟩ := ih (ht.accepts ha) hs fun m hm => hv m (by simp [hm])
    exact ⟨h', .cons ha hr, ht', hs'⟩

/-- The messages of a login are accepted. -/
theorem Login.runs {h₀ h : Handshake} {login : List ServerMessage} {stage : LoginStage}
    (hl : Login h₀ stage login) (ht : SameTerms h₀ h) (hs : LoginStage.outside.Holds h₀ h) :
    ∃ h', Runs h login h' ∧ stage.Holds h₀ h' := by
  obtain ⟨hstate, hexchange⟩ := hs
  have hopener := ht.opener_eq hexchange
  cases hl with
  | outside => exact ⟨h, .nil, hstate, hexchange⟩
  | granted => exact ⟨_, .cons (.admitted hstate) .nil, rfl⟩
  | asked hmem => exact ⟨_, .cons (.asked _ hstate hmem) .nil, rfl, congrArg some hopener⟩
  | challenged hmem hf =>
    rw [← hopener, ← ht.primitives_eq, ← ht.password_eq] at hf
    exact ⟨_, .cons (.asked _ hstate hmem) (.cons (.challenged _ _ _ rfl rfl hf) .nil), rfl, rfl⟩
  | proved hmem hf hproof =>
    rw [← hopener, ← ht.primitives_eq, ← ht.password_eq] at hf
    rw [← ht.primitives_eq] at hproof
    exact ⟨_, .cons (.asked _ hstate hmem) (.cons (.challenged _ _ _ rfl rfl hf)
      (.cons (.proved _ _ rfl rfl hproof) .nil)), rfl⟩
  | verified hmem hf hproof =>
    rw [← hopener, ← ht.primitives_eq, ← ht.password_eq] at hf
    rw [← ht.primitives_eq] at hproof
    exact ⟨_, .cons (.asked _ hstate hmem) (.cons (.challenged _ _ _ rfl rfl hf)
      (.cons (.proved _ _ rfl rfl hproof) (.cons (.verified rfl) .nil))), rfl⟩

/-- Facts are accepted after the login. -/
theorem runs_facts {h : Handshake} {facts : List ServerMessage} (hs : h.state = .authenticated)
    (hf : ∀ m ∈ facts, IsFact m) : ∃ h', Runs h facts h' ∧ h'.state = .authenticated := by
  induction facts generalizing h with
  | nil => exact ⟨h, .nil, hs⟩
  | cons m facts ih =>
    have hone : ∃ h', Accepts h m .wait h' ∧ h'.state = .authenticated := by
      rcases hf m (by simp) with ⟨k, rfl⟩ | ⟨p, rfl⟩ | ⟨d, rfl⟩
      · exact ⟨_, .key k hs, hs⟩
      · exact ⟨_, .parameter p hs, by simp [hs]⟩
      · exact ⟨_, .description d hs, hs⟩
    obtain ⟨h', ha, hs'⟩ := hone
    obtain ⟨h'', hr, hs''⟩ := ih hs' fun x hx => hf x (by simp [hx])
    exact ⟨h'', .cons ha hr, hs''⟩

/-- Every beginning of the language is accepted. -/
theorem IsOpening.allOk {h : Handshake} {ms : List ServerMessage} (hs : h.state = .handshakeSent)
    (ho : IsOpening h ms) : AllOk h ms := by
  obtain ⟨versions, login, facts, ending, stage, rfl, hv, hl, hf, hend, hgranted⟩ := ho
  have hterms : SameTerms h h := ⟨rfl, rfl, rfl, rfl, rfl⟩
  obtain ⟨h₁, hr₁, ht₁, hs₁⟩ := runs_versions hterms ⟨hs, rfl⟩ hv
  obtain ⟨h₂, hr₂, hs₂⟩ := hl.runs ht₁ hs₁
  by_cases hnone : facts ++ ending = []
  · rw [hnone, List.append_nil]
    exact (hr₁.append hr₂).1
  · rw [hgranted hnone] at hs₂
    obtain ⟨h₃, hr₃, hs₃⟩ := runs_facts hs₂ hf
    have hlast : ∃ h₄, Runs h₃ ending h₄ := by
      rcases hend with rfl | ⟨r, rfl⟩
      · exact ⟨_, .nil⟩
      · exact ⟨_, .cons (.ready r hs₃) .nil⟩
    obtain ⟨h₄, hr₄⟩ := hlast
    exact (hr₁.append (hr₂.append (hr₃.append hr₄))).1

/-- A sequence is answered without errors exactly if it is the beginning of the language, reports for
the log apart. -/
theorem allOk_iff {h : Handshake} {ms : List ServerMessage} (hs : h.state = .handshakeSent) :
    AllOk h ms ↔ IsOpening h (plain ms) := by
  constructor
  · intro hok
    exact (reached_after hs hok).2.isOpening
  · intro ho
    exact allOk_plain.mp (ho.allOk hs)

/-- A message that is not for the log is answered without an error exactly if it goes on along the
language, and then as it should be. -/
theorem answer_after_eq_ok {h : Handshake} {ms : List ServerMessage} {m : ServerMessage}
    {step : HandshakeStep} (hs : h.state = .handshakeSent) (hm : m.isLog = false) :
    (h.after ms).answer m = .ok step ↔ IsOpening h (plain ms ++ [m]) ∧ step = h.stepOf m := by
  have hplain : plain (ms ++ [m]) = plain ms ++ [m] := by
    rw [plain_append, plain_cons, hm]
    rfl
  have hforward {step : HandshakeStep} (ha : (h.after ms).answer m = .ok step) :
      IsOpening h (plain ms ++ [m]) ∧ step = h.stepOf m := by
    have haccepts := answer_eq_ok.mp ha
    have hok : AllOk h ms := by
      by_cases hok : AllOk h ms
      · exact hok
      · have hlog := haccepts.isLog_of_disconnected (state_after_of_not_allOk hok)
        rw [hm] at hlog
        cases hlog
    obtain ⟨hterms, hreached⟩ := reached_after hs hok
    rw [← hplain, ← allOk_iff hs, allOk_concat]
    exact ⟨⟨hok, step, ha⟩, (hreached.next hterms haccepts hm).2⟩
  constructor
  · exact hforward
  · rintro ⟨ho, rfl⟩
    rw [← hplain, ← allOk_iff hs, allOk_concat] at ho
    obtain ⟨step, ha⟩ := ho.2
    rw [ha, (hforward ha).2]

/-- Neither versions nor facts are offers, challenges or the end. -/
private theorem count_eq_zero {ms : List ServerMessage}
    (hms : ∀ m ∈ ms, (∃ version, Announces version m) ∨ IsFact m) :
    ms.countP (·.isOffer) = 0 ∧ ms.countP (·.isChallenge) = 0 ∧ ms.countP (·.isReady) = 0 := by
  have hnone (m : ServerMessage) (hm : m ∈ ms) :
      m.isOffer = false ∧ m.isChallenge = false ∧ m.isReady = false := by
    rcases hms m hm with ⟨_, a, rfl, -⟩ | ⟨k, rfl⟩ | ⟨p, rfl⟩ | ⟨d, rfl⟩ <;> exact ⟨rfl, rfl, rfl⟩
  simp only [List.countP_eq_zero, Bool.not_eq_true]
  exact ⟨fun m hm => (hnone m hm).1, fun m hm => (hnone m hm).2.1, fun m hm => (hnone m hm).2.2⟩

/-- The server makes at most one offer and one challenge and is ready at most once. -/
theorem IsOpening.count_le_one {h : Handshake} {ms : List ServerMessage} (ho : IsOpening h ms) :
    ms.countP (·.isOffer) ≤ 1 ∧ ms.countP (·.isChallenge) ≤ 1 ∧ ms.countP (·.isReady) ≤ 1 := by
  obtain ⟨versions, login, facts, ending, stage, rfl, hv, hl, hf, hend, -⟩ := ho
  obtain ⟨hv₁, hv₂, hv₃⟩ := count_eq_zero fun m hm => .inl ⟨_, hv m hm⟩
  obtain ⟨hf₁, hf₂, hf₃⟩ := count_eq_zero fun m hm => .inr (hf m hm)
  simp only [List.countP_append, hv₁, hv₂, hv₃, hf₁, hf₂, hf₃, Nat.zero_add]
  rcases hend with rfl | ⟨r, rfl⟩ <;> cases hl <;>
    simp [ServerMessage.isOffer, ServerMessage.isChallenge, ServerMessage.isReady]

/-- A handshake whose first message was sent, with an exchange that was started already or without
one, and with TLS or without it. -/
def opened (primitives : Scram.Primitives) (version : ProtocolVersion) (user password nonce : String)
    (exchange : Option Scram.Client) (tls : Bool) : Handshake :=
  let h : Handshake := { start version user password nonce with primitives }
  let h := exchange.elim h h.withExchange
  (if tls then h.tlsStarted else h).handshakeSent

/-- A handshake answers exactly the beginnings of its language without an error, reports for the log
apart. It is ready only at the end of the language, has something to send only after the one offer
and the one challenge, and is disconnected by the first error for good. -/
theorem opened_follows_language (primitives : Scram.Primitives) (version : ProtocolVersion)
    (user password nonce : String) (exchange : Option Scram.Client) (tls : Bool)
    (ms : List ServerMessage) :
    let h := opened primitives version user password nonce exchange tls
    (AllOk h ms ↔ IsOpening h (plain ms)) ∧
      (∀ m, m.isLog = false → ∀ step, (h.after ms).answer m = .ok step ↔
        IsOpening h (plain ms ++ [m]) ∧ step = h.stepOf m) ∧
      (∀ m, (h.after ms).answer m = .ok .ready ↔
        m.isReady = true ∧ IsOpening h (plain ms ++ [m])) ∧
      (∀ m, (∃ reply, (h.after ms).answer m = .ok (.send reply)) ↔
        (m.isOffer = true ∨ m.isChallenge = true) ∧ IsOpening h (plain ms ++ [m])) ∧
      (AllOk h ms → (plain ms).countP (·.isOffer) ≤ 1 ∧ (plain ms).countP (·.isChallenge) ≤ 1 ∧
        (plain ms).countP (·.isReady) ≤ 1) ∧
      (¬ AllOk h ms → (h.after ms).state = .disconnected ∧
        ∀ m step, (h.after ms).answer m = .ok step ↔ m.isLog = true ∧ step = .wait) := by
  intro h
  have hs : h.state = .handshakeSent := rfl
  refine ⟨allOk_iff hs, fun m hm step => answer_after_eq_ok hs hm, fun m => ?_, fun m => ?_,
    fun hok => ((allOk_iff hs).mp hok).count_le_one, fun hno => ?_⟩
  · constructor
    · intro ha
      have hready := (answer_eq_ok.mp ha).eq_ready_iff.mp rfl
      have hlog := ServerMessage.isLog_eq_false (.inr (.inr hready))
      exact ⟨hready, ((answer_after_eq_ok hs hlog).mp ha).1⟩
    · rintro ⟨hready, ho⟩
      have hlog := ServerMessage.isLog_eq_false (.inr (.inr hready))
      have ha := (answer_after_eq_ok hs hlog).mpr ⟨ho, rfl⟩
      rwa [(answer_eq_ok.mp ha).eq_ready_iff.mpr hready] at ha
  · constructor
    · rintro ⟨reply, ha⟩
      have hasks := (answer_eq_ok.mp ha).exists_send_iff.mp ⟨reply, rfl⟩
      have hlog := ServerMessage.isLog_eq_false (hasks.imp_right .inl)
      exact ⟨hasks, ((answer_after_eq_ok hs hlog).mp ha).1⟩
    · rintro ⟨hasks, ho⟩
      have hlog := ServerMessage.isLog_eq_false (hasks.imp_right .inl)
      have ha := (answer_after_eq_ok hs hlog).mpr ⟨ho, rfl⟩
      obtain ⟨reply, hreply⟩ := (answer_eq_ok.mp ha).exists_send_iff.mpr hasks
      exact ⟨reply, by rw [ha, hreply]⟩
  · have hstate := state_after_of_not_allOk hno
    refine ⟨hstate, fun m step => ?_⟩
    constructor
    · intro ha
      have hlog := (answer_eq_ok.mp ha).isLog_of_disconnected hstate
      rw [answer_of_isLog hlog] at ha
      exact ⟨hlog, (Except.ok.inj ha).symm⟩
    · rintro ⟨hlog, rfl⟩
      exact answer_of_isLog hlog

end GelClient.Handshake
