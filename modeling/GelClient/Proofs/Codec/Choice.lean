import GelClient.Proofs.Codec.Compound
import Mathlib.Algebra.Group.Nat.Defs

/-!
# Which member of a compound type is chosen

A compound type stands for the codecs below it that are no compounds, first ones first. A value is given
to the first of them that takes values of its kind. What the value holds is looked at only when it is
written, and then there is no way back to the other members. So there is always a member for a value that
some member can write, while it need not be this one: an enumeration takes every text in front of a text
type, and then refuses the texts that are none of its members.
-/

namespace GelClient

open Packet (Put PutM)
open Packet.PutM (IsUniform)

variable {v : Value} {p : Bytes}

/-- What a scalar writes is of the kind that it takes. -/
theorem Scalar.accepts_of_put {s : Scalar} (h : (s.put v).bytes? = .ok p) : s.accepts v = true := by
  unfold Scalar.put at h
  split at h
  case h_21 => cases h
  all_goals rfl

namespace Codec

mutual

/-- The codecs other than compounds that a codec stands for, depth first. -/
def leaves : Codec → List Codec
  | compound _ members => leavesOfAll members
  | c => [c]

/-- The codecs other than compounds that several codecs stand for. -/
def leavesOfAll : List Codec → List Codec
  | [] => []
  | c :: cs => leaves c ++ leavesOfAll cs

end

/-- What a codec stands for is no compound. -/
theorem isMember_of_mem_leaves {c d : Codec} (h : d ∈ c.leaves) : d.IsMember := by
  induction c with
  | compound operation members ih =>
    simp only [leaves] at h
    induction members with
    | nil => simp [leavesOfAll] at h
    | cons c cs ihcs =>
      simp only [leavesOfAll, List.mem_append] at h
      cases h with
      | inl h => exact ih c List.mem_cons_self h
      | inr h => exact ihcs (fun e he => ih e (List.mem_cons_of_mem c he)) h
  | _ =>
    simp only [leaves, List.mem_singleton] at h
    rw [h]
    trivial

/-- A value is given to the first codec that takes values of its kind. -/
theorem resolve?_eq_find? (c : Codec) (v : Value) : c.resolve? v = c.leaves.find? (·.takesKind v) := by
  induction c with
  | compound operation members ih =>
    simp only [resolve?, leaves]
    induction members with
    | nil => simp [resolveFirst?, leavesOfAll]
    | cons c cs ihcs =>
      simp only [resolveFirst?, leavesOfAll, List.find?_append,
        ← ihcs fun e he => ih e (List.mem_cons_of_mem c he), ← ih c List.mem_cons_self]
      cases c.resolve? v <;> rfl
  | _ =>
    simp only [resolve?, leaves, List.find?_singleton]

/-- What a codec writes is of a kind that it takes, unless it is the type without data, which writes
anything. -/
theorem takesKind_of_encode {d : Codec} (hmember : d.IsMember) (hd : d ≠ .null)
    (h : d.encode v = .ok p) : d.takesKind v = true := by
  rw [encode, put] at h
  cases d with
  | null => exact absurd rfl hd
  | compound operation members => exact hmember.elim
  | scalar s => exact Scalar.accepts_of_put (by simpa only [putAs] using h)
  | set item => cases h
  | namedTuple | object | sparseObject =>
    simp only [putAs] at h
    cases v
    case object | namedTuple => rfl
    all_goals cases h
  | _ =>
    simp only [putAs] at h
    split at h
    all_goals first | rfl | cases h

/-- The codec `d` is what `c` writes the present value `v` with. -/
structure IsChosen (c : Codec) (v : Value) (d : Codec) : Prop where
  /-- It is the first of the codecs that `c` stands for to take values of this kind. -/
  first : ∃ before after, c.leaves = before ++ d :: after ∧ ∀ e ∈ before, e.takesKind v = false
  takes : d.takesKind v = true
  visited : c.visit v = .ok d
  /-- As an element the value is what this codec writes, behind its length, or fails as it does. -/
  element : c.putElement v = PutM.withLength (d.put v)
  bytes : ∀ b, (c.putElement v).bytes? = .ok b ↔
    ∃ p, d.encode v = .ok p ∧ p.length < 2 ^ 31 ∧ b = BigEndian.encode 4 p.length ++ p

/-- What takes a value is what it is written with. -/
theorem isChosen_of_resolve? {c d : Codec} (hv : v.isNothing = false) (h : c.resolve? v = some d) :
    IsChosen c v d := by
  obtain ⟨htakes, before, after, hleaves, hbefore⟩ :=
    List.find?_eq_some_iff_append.mp ((c.resolve?_eq_find? v).symm.trans h)
  have helement : c.putElement v = PutM.withLength (d.put v) := by
    rw [putElement, putElementWith, if_neg (by simp [hv]), putPresent, h]
    exact congrArg PutM.withLength (putAs_of_resolve? h).2
  refine ⟨⟨before, after, hleaves, by simpa using hbefore⟩, htakes, ?_, helement, fun b => ?_⟩
  · rw [visit, if_neg (by simp [hv]), h]
  · rw [helement]
    exact PutM.bytes?_withLength_eq_ok (isUniform_putAs d false v)

/-- A present value that some codec below a compound type can write is written with the first codec there
that takes values of its kind, and fails only as this codec does or if the payload is too long. -/
theorem exists_isChosen_of_encode {operation : TypeOperation} {members : List Codec} {v : Value} {e : Codec}
    (hv : v.isNothing = false) (he : e ∈ (compound operation members).leaves) (hnull : e ≠ .null)
    (h : ∃ p, e.encode v = .ok p) : ∃ d, IsChosen (compound operation members) v d := by
  obtain ⟨p, hp⟩ := h
  have htakes : e.takesKind v = true := takesKind_of_encode (isMember_of_mem_leaves he) hnull hp
  have hsome : ((compound operation members).resolve? v).isSome := by
    rw [resolve?_eq_find?, List.find?_isSome]
    exact ⟨e, he, htakes⟩
  obtain ⟨d, hd⟩ := Option.isSome_iff_exists.mp hsome
  exact ⟨d, isChosen_of_resolve? hv hd⟩

/-- A text that is a member of an enumeration inside of another compound is written by the enumeration,
which stands in front of the text type. -/
theorem exists_isChosen_of_encode_color :
    let c := compound .union [compound .intersection [.scalar .int64, .enumeration ["red"]], .scalar .str]
    (∃ d, IsChosen c (.str "red") d) ∧ c.visit (.str "red") = .ok (.enumeration ["red"]) ∧
      (c.putElement (.str "red")).bytes? = .ok [0, 0, 0, 3, 114, 101, 100] := by
  intro c
  have htext : (scalar .str).encode (.str "red") = .ok [114, 101, 100] := by rfl
  have hbelow : scalar .str ∈ c.leaves := by simp [c, leaves, leavesOfAll]
  exact ⟨exists_isChosen_of_encode rfl hbelow (by simp) ⟨_, htext⟩, by rfl, by rfl⟩

/-- A member that can write a value is of no use behind another one of its kind that cannot: a text that
is no member of an enumeration is not written as a text. -/
theorem not_putElement_of_member_encode :
    ¬∀ (operation : TypeOperation) (members : List Codec) (v : Value) (e : Codec), v.isNothing = false →
      e ∈ (compound operation members).leaves → e ≠ .null → (∃ p, e.encode v = .ok p) →
        ∃ b, ((compound operation members).putElement v).bytes? = .ok b := by
  intro h
  have hrefused : ((compound .union [.enumeration ["red"], .scalar .str]).putElement (.str "x")).bytes? =
      .error (.invalidValue (.notEnumMember "x")) := by rfl
  have hmember : scalar .str ∈ (compound .union [.enumeration ["red"], .scalar .str]).leaves := by
    simp [leaves, leavesOfAll]
  obtain ⟨b, hb⟩ := h _ _ (.str "x") _ rfl hmember (by simp) ⟨[120], by rfl⟩
  rw [hrefused] at hb
  cases hb

end Codec

end GelClient
