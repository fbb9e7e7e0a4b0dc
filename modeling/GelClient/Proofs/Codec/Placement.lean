import GelClient.Proofs.Codec.Uniform
import Mathlib.Algebra.Group.Nat.Defs

/-!
# Writing behind other bytes

What a codec writes does not depend on where it is written. On a writer that holds some bytes already it comes
to what it comes to on an empty one: the same failure, or the same bytes behind those that were there. These
stay as they are in any case, also where a slot for a length was reserved behind them and is patched, or is left
open by a failure. A block behind its length is such a writing again, and its slot counts what follows it.
-/

namespace GelClient

open Packet (PutM Writer)
open Packet.PutM (IsUniform)

/-- What `action` comes to on the open writer `w` is what it comes to on an empty one, behind the bytes of `w`. -/
structure PlacedOn (action : PutM CodecError Unit) (w : Writer) : Prop where
  succeeds_iff : (∃ u, action w = .ok () u) ↔ ∃ b, action.bytes? = .ok b
  fails_iff (e : CodecError) : (∃ u, action w = .error e u) ↔ action.bytes? = .error e
  /-- A success appends the bytes that are written to an empty writer. -/
  appended (u : Writer) : action w = .ok () u → ∃ b, action.bytes? = .ok b ∧ u.toBytes = w.toBytes ++ b
  /-- A failure leaves the bytes that were there, and behind them those that it leaves in an empty writer. -/
  kept (e : CodecError) (u : Writer) : action w = .error e u →
    ∃ left, action Writer.empty = .error e left ∧ u.toBytes = w.toBytes ++ left.toBytes
  /-- The writer can be written to further on. -/
  isOpen : (Actions.final (action w)).IsOpen

/-- A failure on the empty writer is one without bytes. -/
theorem bytes?_eq_error {action : PutM CodecError Unit} {e : CodecError} :
    action.bytes? = .error e ↔ ∃ left, action Writer.empty = .error e left := by
  unfold PutM.bytes?
  rw [EStateM.run]
  cases action Writer.empty <;> simp

/-- What a uniform action does it does behind the bytes of any open writer. -/
theorem placedOn_of_isUniform {action : PutM CodecError Unit} (h : IsUniform action) {w : Writer}
    (hw : w.IsOpen) : PlacedOn action w := by
  have hrun := h w hw
  cases hempty : action Writer.empty with
  | ok a r =>
    rw [hempty, PutM.behind] at hrun
    have hbytes : action.bytes? = .ok r.toBytes := PutM.bytes?_eq_ok.mpr ⟨r, hempty, rfl⟩
    constructor
    · exact iff_of_true ⟨_, hrun⟩ ⟨_, hbytes⟩
    · intro e
      rw [hrun, hbytes]
      simp
    · intro u hu
      cases hrun.symm.trans hu
      exact ⟨_, hbytes, Writer.toBytes_append w _⟩
    · intro e u hu
      cases hrun.symm.trans hu
    · rw [hrun]
      exact hw.append _
  | error e r =>
    rw [hempty, PutM.behind] at hrun
    have hbytes : action.bytes? = .error e := bytes?_eq_error.mpr ⟨r, hempty⟩
    constructor
    · rw [hrun, hbytes]
      simp
    · intro e'
      rw [hrun, hbytes]
      simp
    · intro u hu
      cases hrun.symm.trans hu
    · intro e' u hu
      cases hrun.symm.trans hu
      exact ⟨_, hempty, Writer.toBytes_append w _⟩
    · rw [hrun]
      exact hw.append _

/-- A block is its body behind a slot of four bytes, which holds the number of the bytes behind it. -/
theorem slot_of_withLength {body : PutM CodecError Unit} (h : IsUniform body) {w u : Writer} (hw : w.IsOpen)
    (hrun : PutM.withLength body w = .ok () u) :
    ∃ slot payload, u.toBytes = w.toBytes ++ slot ++ payload ∧ slot.length = 4 ∧
      BigEndian.decode slot = payload.length ∧ body.bytes? = .ok payload := by
  obtain ⟨b, hb, rfl⟩ := (PutM.isUniform_withLength h).exists_bytes? hw hrun
  obtain ⟨payload, hpayload, hlength, rfl⟩ := (PutM.bytes?_withLength_eq_ok h).mp hb
  refine ⟨BigEndian.encode 4 payload.length, payload, ?_, BigEndian.length_encode 4 _, ?_, hpayload⟩
  · rw [Writer.toBytes_append, List.append_assoc]
  · exact BigEndian.decode_encode_of_lt (by omega)

/-- A block fails as its body does, or for a body that is too long for its slot. -/
theorem bytes?_withLength_eq_error {body : PutM CodecError Unit} (h : IsUniform body) {e : CodecError} :
    (PutM.withLength body).bytes? = .error e ↔
      body.bytes? = .error e ∨
        ∃ payload, body.bytes? = .ok payload ∧ 2 ^ 31 ≤ payload.length ∧
          e = .packet (.tooLarge payload.length) := by
  rw [bytes?_eq_error, PutM.withLength_of_isOpen Writer.isOpen_empty h]
  cases hbody : body Writer.empty with
  | error e' r =>
    have hbytes : body.bytes? = .error e' := bytes?_eq_error.mpr ⟨r, hbody⟩
    simp [hbytes]
  | ok a r =>
    have hbytes : body.bytes? = .ok r.toBytes := PutM.bytes?_eq_ok.mpr ⟨r, hbody, rfl⟩
    dsimp only
    rw [Writer.size_eq_length]
    split
    next hsize =>
      have hfits : ¬2 ^ 31 ≤ r.toBytes.length := by omega
      simp only [hbytes, reduceCtorEq, exists_false, Except.ok.injEq, exists_eq_left', hfits, false_and,
        or_self]
    next hsize =>
      have hlarge : 2 ^ 31 ≤ r.toBytes.length := by omega
      constructor
      · rintro ⟨r', h⟩
        cases h
        exact .inr ⟨r.toBytes, hbytes, hlarge, rfl⟩
      · rintro (hfailed | ⟨payload, hpayload, -, rfl⟩)
        · rw [hbytes] at hfailed
          cases hfailed
        · cases hbytes.symm.trans hpayload
          exact ⟨_, rfl⟩

namespace Codec

/-- **Encoding only appends.** On an open writer a codec writes behind the bytes there what it writes to an empty
one, or fails as there; the bytes there stay in either case. A block around the payload does so too, its slot
holds the number of the bytes behind it, and it fails for nothing but the payload or its length. -/
theorem put_placedOn (c : Codec) (v : Value) (w : Writer) (hw : w.IsOpen) :
    PlacedOn (c.put v) w ∧ PlacedOn (PutM.withLength (c.put v)) w ∧
      (∀ u, PutM.withLength (c.put v) w = .ok () u →
        ∃ slot payload, u.toBytes = w.toBytes ++ slot ++ payload ∧ slot.length = 4 ∧
          BigEndian.decode slot = payload.length ∧ c.encode v = .ok payload) ∧
      ∀ e, (PutM.withLength (c.put v)).bytes? = .error e ↔
        c.encode v = .error e ∨
          ∃ payload, c.encode v = .ok payload ∧ 2 ^ 31 ≤ payload.length ∧
            e = .packet (.tooLarge payload.length) := by
  have h : IsUniform (c.put v) := isUniform_putAs c false v
  refine ⟨placedOn_of_isUniform h hw, placedOn_of_isUniform (PutM.isUniform_withLength h) hw, ?_, ?_⟩
  · intro u hu
    exact slot_of_withLength h hw hu
  · intro e
    exact bytes?_withLength_eq_error h

/-- A list of one number, as a block behind a byte that is there already. -/
theorem put_placedOn_behind :
    (Writer.empty.append [9]).IsOpen ∧
      ∃ u, PutM.withLength ((array (.scalar .int16)).put (.array [.int16 258])) (Writer.empty.append [9]) =
          .ok () u ∧
        u.toBytes = 9 :: [0, 0, 0, 26] ++
          [0, 0, 0, 1, 0, 0, 0, 0, 0, 0, 0, 0, 0, 0, 0, 1, 0, 0, 0, 1, 0, 0, 0, 2, 1, 2] := by
  have hopen : (Writer.empty.append [9]).IsOpen := Writer.isOpen_empty.append [9]
  obtain ⟨-, hblock, -, -⟩ := put_placedOn (array (.scalar .int16)) (.array [.int16 258]) _ hopen
  obtain ⟨u, hu⟩ := hblock.succeeds_iff.mpr ⟨_, by rfl⟩
  obtain ⟨b, hb, hbytes⟩ := hblock.appended u hu
  refine ⟨hopen, u, hu, hbytes.trans ?_⟩
  cases hb
  rfl

end Codec

end GelClient
