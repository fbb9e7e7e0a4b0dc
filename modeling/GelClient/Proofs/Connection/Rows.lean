import GelClient.Proofs.Connection.Replies
import GelClient.Proofs.Protocol.Reassembly
import Mathlib.Data.List.Basic
import Mathlib.Data.List.Induction

/-!
# The rows of a query

A query that is run gives the rows of its cycle: every `Data` message is decoded with the codec that is
in force where it arrives, and they stay in order. It does so only if no message of the cycle fails it;
otherwise the cycle is read to its end as well, and the query fails with the first failure. Both are read
off the reply after any front of the cycle (`Describes`), by adding one message at a time.
-/

namespace GelClient

namespace Connection

open Actions

/-- The codecs that a message describes, if they can be built. -/
def Received.described? (q : Query) (x : Received) : Option PreparedQuery :=
  match x.message with
  | .commandDataDescription d => value? (applyDescription q.key d x.connection)
  | _ => none

/-- The capabilities that a command turned out to need. -/
def Received.completed? (x : Received) : Option Capabilities :=
  match x.message with
  | .commandComplete m => some m.capabilities
  | _ => none

/-- The value of a row, if it can be decoded. -/
def Received.row? (output : Codec) (x : Received) : Option Value :=
  match x.message with
  | .data payload => (output.decode payload).toOption
  | _ => none

/-- Whether a message is a row. -/
def Received.isRow (x : Received) : Bool :=
  x.message.kind == .data

/-- The codec of the rows behind some messages of a cycle: that of the last description that was applied,
or else the one that the command was sent with. -/
def inForce (q : Query) (output : Codec) (front : List Received) : Codec :=
  ((front.filterMap (Received.described? q)).getLast?.map (·.output)).getD output

/-- Why a message fails the cycle of a query that is run, where a codec of the rows is in force. -/
def Received.fault? (q : Query) (output : Codec) (x : Received) : Option Cause :=
  match x.message with
  | .commandDataDescription d => failure? (applyDescription q.key d x.connection)
  | .stateDataDescription d => failure? (applyState d x.connection)
  | .errorResponse e => some (.database (e.toDatabaseError.withQuery q.text))
  | .data payload =>
    match output.decode payload with
    | .ok _ => none
    | .error e => some (.codec e)
  | .commandComplete _ => none
  | m => some (.protocol (.unexpectedIn Command.execute.name m.kind.toByte))

/-- No message of a cycle fails it. -/
def Faultless (q : Query) (output : Codec) (xs : List Received) : Prop :=
  ∀ front x back, xs = front ++ x :: back → x.fault? q (inForce q output front) = none

/-- A failure is the first one of a cycle. -/
def IsFirstFault (q : Query) (output : Codec) (xs : List Received) (e : Cause) : Prop :=
  ∃ front x back, xs = front ++ x :: back ∧ x.fault? q (inForce q output front) = some e ∧
    Faultless q output front

/-- Some values are the rows of a cycle: one for each `Data` message, in order, and each decoded with the
codec that is in force where its message arrives. -/
structure AreRows (q : Query) (output : Codec) (xs : List Received) (values : List Value) : Prop where
  length_eq : values.length = xs.countP Received.isRow
  decode_eq : ∀ front c payload back, xs = front ++ ⟨c, .data payload⟩ :: back →
    ∃ v, values[front.countP Received.isRow]? = some v ∧ (inForce q output front).decode payload = .ok v

/-- What a reply says about the messages of a cycle so far. -/
structure Describes (q : Query) (p : PreparedQuery) (xs : List Received) (r : Reply) : Prop where
  output_eq : r.output = inForce q p.output xs
  capabilities_eq :
    r.capabilities = (xs.filterMap Received.completed?).getLast?.getD p.capabilities
  faultless : r.failure = none → Faultless q p.output xs
  isFirstFault : ∀ e, r.failure = some e → IsFirstFault q p.output xs e
  areRows : r.failure = none → AreRows q p.output xs r.rows.reverse

/-- A split of a list with one more item is a split at this item, or one of the list without it. -/
private theorem split_concat {α : Type} {xs front back : List α} {x y : α}
    (h : xs ++ [x] = front ++ y :: back) :
    (xs = front ∧ x = y ∧ back = []) ∨ ∃ back', back = back' ++ [x] ∧ xs = front ++ y :: back' := by
  obtain rfl | ⟨back', z, rfl⟩ := List.eq_nil_or_concat' back
  · obtain ⟨hfront, hitem⟩ := List.append_inj' h rfl
    exact .inl ⟨hfront, List.singleton_inj.mp hitem, rfl⟩
  · rw [← List.cons_append, ← List.append_assoc] at h
    obtain ⟨hfront, hitem⟩ := List.append_inj' h rfl
    obtain rfl := List.singleton_inj.mp hitem
    exact .inr ⟨back', rfl, hfront⟩

/-- Behind one more message the codec in force is the one that it describes, if it does. -/
private theorem inForce_concat (q : Query) (output : Codec) (xs : List Received) (x : Received) :
    inForce q output (xs ++ [x]) =
      ((x.described? q).map (·.output)).getD (inForce q output xs) := by
  rw [inForce, List.filterMap_append, List.filterMap_cons]
  cases x.described? q with
  | none => simp [inForce]
  | some p => simp

/-- What one more message does to the reply of a query that is run. -/
theorem next_execute (q : Query) (r : Reply) (x : Received) :
    (r.next .execute q x).output = ((x.described? q).map (·.output)).getD r.output ∧
      (r.next .execute q x).capabilities = x.completed?.getD r.capabilities ∧
      (r.next .execute q x).failure = r.failure.or (x.fault? q r.output) ∧
      ((r.next .execute q x).failure = none →
        (r.next .execute q x).rows = (x.row? r.output).toList ++ r.rows) := by
  obtain ⟨c, m⟩ := x
  cases m with
  | commandDataDescription d =>
    rw [Reply.next, absorb_description]
    cases hd : applyDescription q.key d c <;> simp [hd, value?, failure?, Reply.adopt, Reply.record,
      Received.described?, Received.completed?, Received.fault?, Received.row?]
  | stateDataDescription d =>
    rw [Reply.next, absorb_state]
    cases hd : applyState d c <;> simp [hd, failure?, Reply.record, Received.described?,
      Received.completed?, Received.fault?, Received.row?]
  | data payload =>
    change (r.addRow payload).output = _ ∧ (r.addRow payload).capabilities = _ ∧
      (r.addRow payload).failure = _ ∧ ((r.addRow payload).failure = none → (r.addRow payload).rows = _)
    rw [Reply.addRow]
    cases hfailure : r.failure with
    | some e => simp [hfailure, Received.described?, Received.completed?]
    | none =>
      cases hdecode : r.output.decode payload <;> simp [hfailure, hdecode, Reply.record,
        Received.described?, Received.completed?, Received.fault?, Received.row?, Except.toOption]
  | _ => simp [Reply.next, absorb, Reply.record, Received.described?, Received.completed?,
      Received.fault?, Received.row?]

/-- The reply of a query that is run, before any message. -/
def Reply.start (p : PreparedQuery) : Reply :=
  { prepared := none, output := p.output, capabilities := p.capabilities }

/-- What a query that is run comes to at the end of its cycle. -/
def Reply.result (r : Reply) (c : Connection) : EStateM.Result Cause Connection QueryResult :=
  match r.failure with
  | some e => .error e c
  | none => .ok { capabilities := r.capabilities, values := r.rows.reverse } c

/-- Before any message a reply describes nothing. -/
theorem describes_nil (q : Query) (p : PreparedQuery) : Describes q p [] (.start p) where
  output_eq := rfl
  capabilities_eq := rfl
  faultless _ front x back h := by cases front <;> cases h
  isFirstFault _ h := by cases h
  areRows _ := ⟨rfl, fun front c payload back h => by cases front <;> cases h⟩

/-- A cycle without a failure goes on without one, if the next message does not fail it. -/
theorem Faultless.concat {q : Query} {output : Codec} {xs : List Received} {x : Received}
    (h : Faultless q output xs) (hx : x.fault? q (inForce q output xs) = none) :
    Faultless q output (xs ++ [x]) := by
  intro front y back hsplit
  obtain ⟨rfl, rfl, -⟩ | ⟨back', -, hxs⟩ := split_concat hsplit
  · exact hx
  · exact h front y back' hxs

/-- Behind the first failure of a cycle there may be more messages. -/
theorem IsFirstFault.concat {q : Query} {output : Codec} {xs : List Received} {e : Cause}
    (h : IsFirstFault q output xs e) (x : Received) : IsFirstFault q output (xs ++ [x]) e := by
  obtain ⟨front, y, back, rfl, hfault, hfront⟩ := h
  exact ⟨front, y, back ++ [x], by rw [List.append_assoc, List.cons_append], hfault, hfront⟩

/-- A row that does not fail a cycle is decoded. -/
theorem decode_of_fault?_eq_none {q : Query} {output : Codec} {c : Connection} {payload : Bytes}
    (h : Received.fault? q output ⟨c, .data payload⟩ = none) :
    ∃ v, output.decode payload = .ok v ∧ Received.row? output ⟨c, .data payload⟩ = some v := by
  rw [Received.fault?] at h
  cases hdecode : output.decode payload with
  | ok v =>
    refine ⟨v, rfl, ?_⟩
    simp only [Received.row?, hdecode]
    rfl
  | error e => simp [hdecode] at h

/-- A message that does not fail a cycle has a value exactly if it is a row. -/
theorem length_row? {q : Query} {output : Codec} {x : Received} (h : x.fault? q output = none) :
    (x.row? output).toList.length = [x].countP Received.isRow := by
  obtain ⟨c, m⟩ := x
  cases m with
  | data payload =>
    obtain ⟨v, -, hrow⟩ := decode_of_fault?_eq_none h
    rw [hrow]
    rfl
  | _ => rfl

/-- One more message that does not fail a cycle adds its value to the rows, if it is a row. -/
theorem AreRows.concat {q : Query} {output : Codec} {xs : List Received} {x : Received}
    {values : List Value} (h : AreRows q output xs values)
    (hx : x.fault? q (inForce q output xs) = none) :
    AreRows q output (xs ++ [x]) (values ++ (x.row? (inForce q output xs)).toList) where
  length_eq := by rw [List.length_append, List.countP_append, h.length_eq, length_row? hx]
  decode_eq front c payload back hsplit := by
    obtain ⟨rfl, rfl, -⟩ | ⟨back', -, hxs⟩ := split_concat hsplit
    · obtain ⟨v, hdecode, hrow⟩ := decode_of_fault?_eq_none hx
      refine ⟨v, ?_, hdecode⟩
      rw [hrow, ← h.length_eq]
      exact List.getElem?_concat_length
    · obtain ⟨v, hv, hdecode⟩ := h.decode_eq front c payload back' hxs
      have hlt := (List.getElem?_eq_some_iff.mp hv).1
      exact ⟨v, (List.getElem?_append_left hlt).trans hv, hdecode⟩

/-- One more message is described by the reply that it leads to. -/
theorem Describes.next {q : Query} {p : PreparedQuery} {xs : List Received} {r : Reply}
    (h : Describes q p xs r) (x : Received) : Describes q p (xs ++ [x]) (r.next .execute q x) := by
  obtain ⟨houtput, hcapabilities, hfailure, hrows⟩ := next_execute q r x
  rw [h.output_eq] at hfailure hrows
  have hnone (hnext : (r.next .execute q x).failure = none) :
      r.failure = none ∧ x.fault? q (inForce q p.output xs) = none := by
    rw [hfailure] at hnext
    exact Option.or_eq_none_iff.mp hnext
  constructor
  · rw [houtput, h.output_eq, inForce_concat]
  · rw [hcapabilities, h.capabilities_eq, List.filterMap_append, List.filterMap_cons]
    cases x.completed? <;> simp
  · intro hnext
    exact (h.faultless (hnone hnext).1).concat (hnone hnext).2
  · intro e hnext
    rw [hfailure] at hnext
    obtain hr | ⟨hr, hx⟩ := Option.or_eq_some_iff.mp hnext
    · exact (h.isFirstFault e hr).concat x
    · exact ⟨xs, x, [], rfl, hx, h.faultless hr⟩
  · intro hnext
    have hreverse (value : Option Value) : value.toList.reverse = value.toList := by cases value <;> rfl
    rw [hrows hnext, List.reverse_append, hreverse]
    exact (h.areRows (hnone hnext).1).concat (hnone hnext).2

/-- The messages of a cycle are described by the reply that they lead to. -/
theorem describes_foldl (q : Query) (p : PreparedQuery) (xs : List Received) :
    Describes q p xs (xs.foldl (Reply.next .execute q) (.start p)) := by
  induction xs using List.reverseRecOn with
  | nil => exact describes_nil q p
  | append_singleton xs x ih =>
    rw [List.foldl_append]
    exact ih.next x

/-- A query was sent to be run, with its codecs and with a `Sync` behind it, and all was written. -/
def Sends (q : Query) (c : Connection) (p : PreparedQuery) (c₁ : Connection) : Prop :=
  ∃ c₀ arguments, prepare q c = .ok p c₀ ∧ p.input.encodeArguments q.arguments = .ok arguments ∧
    sendAll [.execute (c₀.request q) p.inputId p.outputId arguments, .sync] c₀ = .ok () c₁

/-- A query that was sent comes to what is heard: to the result of its cycle, or to the failure that cuts
the cycle short. -/
theorem executeOnce_of_hears {q : Query} {c c₁ c' : Connection} {p : PreparedQuery}
    {xs : List Received} {ending : Except Cause ReadyForCommand} (hsends : Sends q c p c₁)
    (hears : Hears q c₁ xs ending c') : executeOnce q c =
      match ending with
      | .ok _ => (xs.foldl (Reply.next .execute q) (.start p)).result c'
      | .error e => .error e c' := by
  obtain ⟨c₀, arguments, hprepare, harguments, hsend⟩ := hsends
  have hencode : ofCodec (p.input.encodeArguments q.arguments) c₀ = .ok arguments c₀ := by
    rw [harguments]
    rfl
  have hcycle := runCycle_of_hears .execute hsend hears (.start p)
  rw [executeOnce, bind_of_ok hprepare, bind_of_ok hencode, get_bind_apply]
  cases ending with
  | error e => exact bind_of_error hcycle
  | ok ready =>
    refine (bind_of_ok hcycle).trans ?_
    dsimp only
    rw [Reply.result]
    cases (xs.foldl (Reply.next .execute q) (.start p)).failure <;> rfl

/-- The result of a codec is there exactly if the codec gives it. -/
theorem ofCodec_eq_ok {α : Type} {r : Except CodecError α} {c c' : Connection} {a : α}
    (h : ofCodec r c = .ok a c') : r = .ok a ∧ c' = c := by
  cases r with
  | ok b =>
    cases h
    exact ⟨rfl, rfl⟩
  | error e => cases h

/-- A query that gives a result was sent, and its cycle was read to the end. -/
theorem sends_of_executeOnce {q : Query} {c c' : Connection} {r : QueryResult}
    (h : executeOnce q c = .ok r c') :
    ∃ p c₁ xs ready, Sends q c p c₁ ∧ Hears q c₁ xs (.ok ready) c' ∧
      (xs.foldl (Reply.next .execute q) (.start p)).result c' = .ok r c' := by
  obtain ⟨p, c₀, hprepare, hrest⟩ := bind_eq_ok.mp h
  obtain ⟨arguments, c₂, hencode, hrun⟩ := bind_eq_ok.mp hrest
  obtain ⟨harguments, rfl⟩ := ofCodec_eq_ok hencode
  rw [get_bind_apply] at hrun
  obtain ⟨reply, c₃, hcycle, -⟩ := bind_eq_ok.mp hrun
  obtain ⟨⟨⟩, c₁, hsend, -⟩ := bind_eq_ok.mp hcycle
  have hsends : Sends q c p c₁ := ⟨c₂, arguments, hprepare, harguments, hsend⟩
  obtain ⟨xs, ending, c₄, hears⟩ := exists_hears q (sendAll_eq_ok hsend).2.1
  have hresult := (executeOnce_of_hears hsends hears).symm.trans h
  cases ending with
  | error e => cases hresult
  | ok ready =>
    have hend : c₄ = c' := by
      dsimp only [Reply.result] at hresult
      split at hresult <;> cases hresult
      rfl
    subst hend
    exact ⟨p, c₁, xs, ready, hsends, hears, hresult⟩

/-- A result is that of the messages of a cycle. None of them fails the cycle, none is of a kind that
does not belong there, the values are the rows, and the capabilities are those that the server reported
last, or else those of the query as it was prepared. -/
structure IsResult (q : Query) (p : PreparedQuery) (xs : List Received) (r : QueryResult) : Prop where
  faultless : Faultless q p.output xs
  kinds : ∀ x ∈ xs, x.message.kind ∈
    [MessageKind.commandDataDescription, .stateDataDescription, .data, .commandComplete]
  areRows : AreRows q p.output xs r.values
  capabilities_eq :
    r.capabilities = (xs.filterMap Received.completed?).getLast?.getD p.capabilities

/-- A cycle without a failure holds only messages of the kinds that belong there. -/
theorem Faultless.kinds {q : Query} {output : Codec} {xs : List Received} (h : Faultless q output xs) :
    ∀ x ∈ xs, x.message.kind ∈
      [MessageKind.commandDataDescription, .stateDataDescription, .data, .commandComplete] := by
  intro x hx
  obtain ⟨front, back, hsplit⟩ := List.append_of_mem hx
  have hnone := h front x back hsplit
  obtain ⟨c, m⟩ := x
  cases m with
  | commandDataDescription | stateDataDescription | data | commandComplete =>
    simp [ServerMessage.kind]
  | _ => cases hnone

/-- A query result is exactly the rows of its cycle. If a query that is run once gives a result, then it
was sent, and from its `Sync` on the frames were taken up to the one that ends the cycle. Their messages
are those that the result is made of. If the query was sent and its cycle was read to the end, but it
fails, then it fails with the first failure of the cycle. -/
theorem values_of_executeOnce (q : Query) (c : Connection) :
    (∀ r c', executeOnce q c = .ok r c' → ∃ p c₁ xs ready,
      Sends q c p c₁ ∧ Hears q c₁ xs (.ok ready) c' ∧
        (∃ frames, c₁.stream.Takes c'.stream frames ∧ frames.filterMap Frame.message? =
          (xs.map Received.message ++ [ServerMessage.readyForCommand ready]).map .ok) ∧
        IsResult q p xs r) ∧
    ∀ e c', executeOnce q c = .error e c' → ∀ p c₁ xs ready c₂,
      Sends q c p c₁ → Hears q c₁ xs (.ok ready) c₂ → c' = c₂ ∧ IsFirstFault q p.output xs e := by
  constructor
  · intro r c' h
    obtain ⟨p, c₁, xs, ready, hsends, hears, hresult⟩ := sends_of_executeOnce h
    obtain ⟨c₀, arguments, -, -, hsend⟩ := id hsends
    refine ⟨p, c₁, xs, ready, hsends, hears, hears.takes (sendAll_eq_ok hsend).2.1, ?_⟩
    have hdescribes := describes_foldl q p xs
    rw [Reply.result] at hresult
    split at hresult
    next => cases hresult
    next hfailure =>
      cases hresult
      have hfaultless := hdescribes.faultless hfailure
      exact ⟨hfaultless, hfaultless.kinds, hdescribes.areRows hfailure, hdescribes.capabilities_eq⟩
  · intro e c' h p c₁ xs ready c₂ hsends hears
    have hdescribes := describes_foldl q p xs
    have hresult := (executeOnce_of_hears hsends hears).symm.trans h
    dsimp only [Reply.result] at hresult
    split at hresult
    next hfailure =>
      cases hresult
      exact ⟨rfl, hdescribes.isFirstFault _ hfailure⟩
    next => cases hresult

/-- A description of rows of a scalar type. -/
def describedRows (s : Scalar) : Frame where
  kind := 0x54
  body := [0, 0, 0, 0, 0, 0, 0, 0, 0, 0, 0x6D] ++ Uuid.nil.toBytes ++ [0, 0, 0, 0] ++
    s.id.toBytes ++ [0, 0, 0, 0]

/-- A row of one value. -/
def row (payload : Bytes) : Frame where
  kind := 0x44
  body := [0, 1] ++ BigEndian.encode 4 payload.length ++ payload

/-- A cycle in which the rows are described a second time behind the first row. -/
def twiceDescribed : List Frame :=
  [describedRows .str, row [0x61], describedRows .int16, row [0, 7], cycleEnd]

/-- A connection on which this cycle is to come. -/
def beforeCycle : Connection where
  stream := { socket := .ofBytes (twiceDescribed.flatMap Frame.toBytes) }
  registry := .empty
  version := .v1
  implicitLimit := 0

/-- Whether a text and a number were read and nothing is left unread. -/
def hasTextAndNumber : EStateM.Result Cause Connection QueryResult → Bool
  | .ok { values := [.str "a", .int16 7], .. } c => c.stream.unread.isEmpty
  | _ => false

/-- What is left unread, and the values, if a text and a number were read. -/
private theorem exists_of_hasTextAndNumber {result : EStateM.Result Cause Connection QueryResult}
    (h : hasTextAndNumber result = true) :
    ∃ r c, result = .ok r c ∧ r.values = [.str "a", .int16 7] ∧ c.stream.unread = [] := by
  unfold hasTextAndNumber at h
  split at h
  next r c => exact ⟨_, c, rfl, rfl, List.isEmpty_iff.mp h⟩
  next => cases h

/-- The messages of the cycle are two descriptions with a row behind each, and the values of the result are those
of the rows, each by the description in front of it. -/
theorem values_of_executeOnce_twiceDescribed :
    ∃ r c' p c₁ xs ready, executeOnce resultless beforeCycle = .ok r c' ∧
      Sends resultless beforeCycle p c₁ ∧ Hears resultless c₁ xs (.ok ready) c' ∧
      xs.map (·.message.kind) = [.commandDataDescription, .data, .commandDataDescription, .data] ∧
      r.values = [.str "a", .int16 7] ∧ IsResult resultless p xs r := by
  have hruns : hasTextAndNumber (executeOnce resultless beforeCycle) = true := by decide +kernel
  obtain ⟨r, c', hrun, hvalues, hunread⟩ := exists_of_hasTextAndNumber hruns
  obtain ⟨p, c₁, xs, ready, hsends, hears, ⟨frames, htakes, hmessages⟩, hresult⟩ :=
    (values_of_executeOnce resultless beforeCycle).1 r c' hrun
  obtain ⟨c₀, arguments, hprepare, -, hsend⟩ := id hsends
  have hstream : c₀.stream = beforeCycle.stream := by
    cases hprepare
    rfl
  have hall : c₁.stream.unread = twiceDescribed.flatMap Frame.toBytes := by
    rw [(sendAll_eq_ok hsend).2.2.1, hstream]
    rfl
  have hframes : frames.flatMap Frame.toBytes = twiceDescribed.flatMap Frame.toBytes := by
    rw [← hall, htakes.unread_eq, hunread, List.append_nil]
  obtain rfl : frames = twiceDescribed := by
    have hlength : (twiceDescribed.flatMap Frame.toBytes).length < 2 ^ 32 := by decide +kernel
    have hparse := (Frame.parse_of_flatMap_toBytes hframes hlength).symm.trans
      (Frame.parse_of_flatMap_toBytes rfl hlength)
    exact List.map_injective_iff.mpr (fun _ _ => Except.ok.inj) (Prod.mk.inj hparse).1
  have hkinds : (twiceDescribed.filterMap Frame.message?).map (Except.map ServerMessage.kind) =
      ([MessageKind.commandDataDescription, .data, .commandDataDescription, .data] ++
        [MessageKind.readyForCommand]).map .ok := by
    decide +kernel
  have hheard : (twiceDescribed.filterMap Frame.message?).map (Except.map ServerMessage.kind) =
      (xs.map (·.message.kind) ++ [MessageKind.readyForCommand]).map .ok := by
    rw [hmessages]
    simp [ServerMessage.kind, Except.map]
  have hsame := List.map_injective_iff.mpr (fun _ _ => Except.ok.inj) (hheard.symm.trans hkinds)
  exact ⟨r, c', p, c₁, xs, ready, hrun, hsends, hears, List.append_cancel_right hsame, hvalues, hresult⟩

end Connection

end GelClient
