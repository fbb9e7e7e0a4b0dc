import GelClient.Proofs.Codec.RoundTrip
import Mathlib.Algebra.Group.Nat.Defs

/-!
# Elements of compound types

An element of a compound type is written as the member that takes its value, at any depth of compounds,
and nothing in its bytes says which member this was. The reader of a compound expects an envelope in its
place, with as many elements as the compound has members. So the element is read back by the member that
took it, and by the compound only where the payload happens to look like such an envelope.
-/

namespace GelClient

open Packet (PutM Get GetM Reader)
open Packet.GetM (Reads)

namespace Codec

variable {c : Codec} {v w : Value} {p b tail : Bytes}

/-- A codec other than a compound. -/
def IsMember : Codec → Prop
  | compound _ _ => False
  | _ => True

/-- What takes a value is no compound, and writes it as the compound around it does. -/
theorem putAs_of_resolve? : ∀ {d}, c.resolve? v = some d → d.IsMember ∧ putAs true c v = d.put v := by
  induction c with
  | compound operation members ih =>
    intro d h
    simp only [resolve?] at h
    simp only [putAs, if_pos]
    induction members with
    | nil =>
      simp only [resolveFirst?] at h
      cases h
    | cons c cs ihcs =>
      simp only [resolveFirst?] at h
      simp only [putFirst]
      cases hc : c.resolve? v with
      | some e =>
        rw [hc] at h
        cases h
        rw [Option.isSome_some, if_pos rfl]
        exact ih c List.mem_cons_self hc
      | none =>
        rw [hc] at h
        rw [Option.isSome_none, if_neg Bool.false_ne_true]
        exact ihcs (fun e he => ih e (List.mem_cons_of_mem c he)) h
  | _ =>
    intro d h
    simp only [resolve?] at h
    split at h
    · cases h
      exact ⟨trivial, by simp only [put, putAs]⟩
    · cases h

/-- A present element is the payload of the member that takes its value, behind the length of this
payload. -/
theorem exists_of_putElement (hv : v.isNothing = false) (h : (c.putElement v).bytes? = .ok b) :
    ∃ d p, c.visit v = .ok d ∧ d.IsMember ∧ d.encode v = .ok p ∧ p.length < 2 ^ 31 ∧
      b = BigEndian.encode 4 p.length ++ p := by
  rw [putElement, putElementWith, if_neg (by simp [hv]), putPresent] at h
  cases hd : c.resolve? v with
  | none =>
    rw [hd] at h
    cases h
  | some d =>
    rw [hd] at h
    obtain ⟨p, hp, hlength, hb⟩ := (PutM.bytes?_withLength_eq_ok (isUniform_putAs c true v)).mp h
    obtain ⟨hmember, hput⟩ := putAs_of_resolve? hd
    have hvisit : c.visit v = .ok d := by
      rw [visit, if_neg (by simp [hv]), hd]
    exact ⟨d, p, hvisit, hmember, by rw [encode, ← hput, hp], hlength, hb⟩

/-- The first element in some bytes and what follows it. -/
def readElement (c : Codec) (bytes : Bytes) : Except CodecError (Value × Bytes) :=
  match c.getElement (Reader.ofBytes bytes) with
  | .ok v r => .ok (v, r.rest)
  | .error e _ => .error e

/-- An element is read from exactly the payload behind its length, as this payload is on its own. -/
theorem readElement_of_length (c : Codec) (hlength : p.length < 2 ^ 31) :
    c.readElement (BigEndian.encode 4 p.length ++ p ++ tail) = (c.decode p).map fun w => (w, tail) := by
  have hwindow : Reads (liftM Get.window? : GetM CodecError (Option Reader))
      (BigEndian.encode 4 p.length ++ p) (some (Reader.ofBytes p)) :=
    (Get.reads_window? hlength).lift
  rw [readElement, getElement, getElementWith, Reader.ofBytes, Actions.bind_of_ok (hwindow tail 0), decode,
    GetM.runOn]
  simp only [GetM.onReader]
  cases c.get (Reader.ofBytes p) <;> rfl

/-- Reading as many elements as there are codecs gives as many values. -/
private theorem length_of_getItems {cs : List Codec} : ∀ {vs : List Value} {r s : Reader},
    getItems cs r = .ok vs s → vs.length = cs.length := by
  induction cs with
  | nil =>
    intro vs r s h
    rw [getItems] at h
    cases h
    rfl
  | cons c cs ih =>
    intro vs r s h
    rw [getItems] at h
    obtain ⟨_, _, -, h⟩ := Actions.bind_eq_ok.mp h
    obtain ⟨w, _, -, h⟩ := Actions.bind_eq_ok.mp h
    obtain ⟨ws, _, hws, h⟩ := Actions.bind_eq_ok.mp h
    cases h
    rw [List.length_cons, List.length_cons, ih hws]

/-- A count that is accepted is the expected number, in the first four bytes. -/
theorem prefix_of_getCount {n : Nat} {r s : Reader} (h : getCount n r = .ok () s) :
    BigEndian.encode 4 n <+: r.rest := by
  obtain ⟨found, t, hfound, h⟩ := Actions.bind_eq_ok.mp h
  rw [GetM.liftM_apply] at hfound
  split at hfound
  · cases hfound
    next hword =>
    split at h
    · cases h
    next hn =>
      have hn : found.toInt = n := not_not.mp hn
      have hlt : n < 2 ^ 31 := by
        have := found.toInt_lt
        omega
      have hcount : found = Int32.ofNat n := by
        rw [← Int32.toInt_inj, hn, Int32.toInt_ofNat_of_lt hlt]
      rw [Get.rest_of_int32 hword, hcount, BigEndian.toNat_toUInt32_ofNat hlt]
      exact List.prefix_append _ _
  · cases hfound

/-- A compound reads nothing but an envelope with one element for each of its members. -/
theorem envelope_of_decode {operation : TypeOperation} {members : List Codec}
    (h : (compound operation members).decode p = .ok w) :
    BigEndian.encode 4 members.length <+: p ∧ ∃ items, w = .tuple items ∧ items.length = members.length := by
  rw [decode, GetM.runOn, Codec.get] at h
  cases hr : (do getCount members.length; return .tuple (← getItems members) : GetM CodecError Value)
      (Reader.ofBytes p) with
  | error e r =>
    rw [hr] at h
    cases h
  | ok u r =>
    rw [hr] at h
    cases h
    obtain ⟨_, s, hcount, hitems⟩ := Actions.bind_eq_ok.mp hr
    obtain ⟨items, _, hitems, hw⟩ := Actions.bind_eq_ok.mp hitems
    cases hw
    exact ⟨prefix_of_getCount hcount, items, rfl, length_of_getItems hitems⟩

/-- The bytes `b` are an element of a compound type: its value `v` is taken by the member `d`, which
writes it as the payload `p`. -/
structure IsElementOf (operation : TypeOperation) (members : List Codec) (v : Value) (b : Bytes)
    (d : Codec) (p : Bytes) : Prop where
  taken : (compound operation members).visit v = .ok d
  isMember : d.IsMember
  payload : d.encode v = .ok p
  bytes : b = BigEndian.encode 4 p.length ++ p
  /-- The member reads the element as it reads its own payload. -/
  byMember : ∀ tail, d.readElement (b ++ tail) = (d.decode p).map fun w => (w, tail)
  /-- A member without sets and further compounds inside of it reads the value back. -/
  ofPlain : d.IsPlain → d.NoneOverfull v → d.decode p = .ok (d.normal v)
  /-- The compound reads the payload of the member as a payload of its own. -/
  byCompound : ∀ tail, (compound operation members).readElement (b ++ tail) =
    ((compound operation members).decode p).map fun w => (w, tail)
  /-- This succeeds on envelopes only, and gives a tuple with one item for each member. -/
  envelope : ∀ w, (compound operation members).decode p = .ok w →
    BigEndian.encode 4 members.length <+: p ∧ ∃ items, w = .tuple items ∧ items.length = members.length

/-- An element of a compound type is the element of the member that takes its value. It is read back by
this member, while the compound looks for an envelope in the payload of the member. -/
theorem isElementOf_of_putElement {operation : TypeOperation} {members : List Codec} {v : Value}
    {b : Bytes} (hv : v.isNothing = false)
    (h : ((compound operation members).putElement v).bytes? = .ok b) :
    ∃ d p, IsElementOf operation members v b d p := by
  obtain ⟨d, p, htaken, hmember, hp, hlength, rfl⟩ := exists_of_putElement hv h
  refine ⟨d, p, htaken, hmember, hp, rfl, ?_, ?_, ?_, fun w => envelope_of_decode⟩
  · exact fun tail => d.readElement_of_length hlength
  · exact fun hplain hfull => (hplain.roundTrips v hfull false p hp).runOn_eq
  · exact fun tail => (compound operation members).readElement_of_length hlength

/-- A list of texts as an element of a union inside of a union is taken by the array; the outer union
cannot read the payload, which starts with the number of dimensions. -/
theorem isElementOf_of_putElement_texts :
    let members := [compound .union [.scalar .int64, .array (.scalar .str)], .scalar .str]
    let b := [0, 0, 0, 25, 0, 0, 0, 1, 0, 0, 0, 0, 0, 0, 0, 0, 0, 0, 0, 1, 0, 0, 0, 1, 0, 0, 0, 1, 120]
    ((compound .union members).putElement (.array [.str "x"])).bytes? = .ok b ∧
      (∃ d p, IsElementOf .union members (.array [.str "x"]) b d p) ∧
      (compound .union members).readElement b = .error (.arityMismatch 2 1) := by
  intro members b
  have hb : ((compound .union members).putElement (.array [.str "x"])).bytes? = .ok b := by rfl
  exact ⟨hb, isElementOf_of_putElement rfl hb, by rfl⟩

/-- Elements of compound types are not read back in general: a text under a union has no envelope. -/
theorem not_readElement_of_putElement :
    ¬∀ (operation : TypeOperation) (members : List Codec) (v : Value) (b : Bytes), v.isNothing = false →
      ((compound operation members).putElement v).bytes? = .ok b →
        ∃ d p w, (compound operation members).visit v = .ok d ∧ d.encode v = .ok p ∧ d.decode p = .ok w ∧
          (compound operation members).readElement b = .ok (w, []) := by
  intro h
  have hwritten : ((compound .union [.scalar .int64, .scalar .str]).putElement (.str "x")).bytes? =
      .ok [0, 0, 0, 1, 120] := by rfl
  have hread : (compound .union [.scalar .int64, .scalar .str]).readElement [0, 0, 0, 1, 120] =
      .error (.packet (.underflow 4 1)) := by rfl
  obtain ⟨_, _, w, -, -, -, hw⟩ := h .union [.scalar .int64, .scalar .str] (.str "x") _ rfl hwritten
  rw [hread] at hw
  cases hw

end Codec

end GelClient
