import GelClient.Proofs.Packet.Need

/-!
# Actions that find their own end

`GetM.Consumes action bytes a` sharpens `GetM.Needs`: on a packet that breaks off inside of `bytes` the
action does not just fail, it reports that the packet is too short. `GetM.IsDelimited action` says that
whenever the action succeeds, it consumed the bytes that it took. So a packet that is cut short is never
taken for another one, nor for one that is wrong in some other way: what is read decides how much more is
read, and a field is checked only when all of it is there.

The fields of packets are delimited, and so is everything that is put together from them.
-/

namespace GelClient.Packet

namespace GetM

variable {ε α β : Type} [OfPacketError ε] {x : GetM ε α} {f : α → GetM ε β} {p q : Bytes} {a : α} {b : β}

/-- The packet ends before the action is done. -/
def Underflows (action : GetM ε α) (r : Reader) : Prop :=
  ∃ needed remaining s, action r = .error (OfPacketError.ofPacketError (.underflow needed remaining)) s

/-- The action takes `bytes` off every packet that starts with them and gives `a`, and it underflows on
every packet that breaks off inside of them. -/
structure Consumes (action : GetM ε α) (bytes : Bytes) (a : α) : Prop where
  reads : Reads action bytes a
  underflows {front : Bytes} (n : Nat) : front <+: bytes → front ≠ bytes → Underflows action ⟨front, n⟩

/-- Whatever the action takes off a packet, it consumes. -/
def IsDelimited (action : GetM ε α) : Prop :=
  ∀ ⦃r a s⦄, action r = .ok a s → ∃ bytes, r.rest = bytes ++ s.rest ∧ Consumes action bytes a

/-- A sequence consumes what its actions do, one after the other. -/
theorem Consumes.bind (hx : Consumes x p a) (hf : Consumes (f a) q b) : Consumes (x >>= f) (p ++ q) b := by
  refine ⟨hx.reads.bind hf.reads, fun {front} n hfront hne => ?_⟩
  obtain ⟨hshort, hneq⟩ | ⟨part, hpart, hpartne, hrest⟩ := hx.reads.bind_of_prefix f hfront hne
  · obtain ⟨needed, remaining, s, hs⟩ := hx.underflows n hshort hneq
    exact ⟨needed, remaining, s, Actions.bind_of_error hs⟩
  · obtain ⟨needed, remaining, s, hs⟩ := hf.underflows (n + p.length) hpart hpartne
    exact ⟨needed, remaining, s, (hrest n).trans hs⟩

/-- Doing nothing is delimited. -/
theorem isDelimited_pure (a : α) : IsDelimited (pure a : GetM ε α) := by
  intro r b s h
  cases h
  exact ⟨[], rfl, reads_pure a, fun _ hfront hne => absurd (List.prefix_nil.mp hfront) hne⟩

/-- A failure is delimited, as it takes nothing. -/
theorem isDelimited_throw (e : ε) : IsDelimited (throw e : GetM ε α) := by
  intro r b s h
  cases h

/-- A sequence of delimited actions is delimited, also where a value decides what comes next. -/
theorem IsDelimited.bind (hx : IsDelimited x) (hf : ∀ a, IsDelimited (f a)) : IsDelimited (x >>= f) := by
  intro r b s h
  obtain ⟨a, t, hxr, hft⟩ := Actions.bind_eq_ok.mp h
  obtain ⟨p, hp, hcx⟩ := hx hxr
  obtain ⟨q, hq, hcf⟩ := hf a hft
  exact ⟨p ++ q, by rw [hp, hq, List.append_assoc], hcx.bind hcf⟩

/-- A result may be converted after the reading. -/
theorem IsDelimited.bind_pure (hx : IsDelimited x) (g : α → β) :
    IsDelimited (x >>= fun a => pure (g a)) :=
  hx.bind fun a => isDelimited_pure (g a)

/-- A delimited action of packets is delimited in a layer above them. -/
theorem IsDelimited.lift {x : Get α} (h : IsDelimited x) : IsDelimited (liftM x : GetM ε α) := by
  intro r a s hr
  obtain ⟨bytes, hbytes, hc⟩ := h (liftM_eq_ok.mp hr)
  refine ⟨bytes, hbytes, hc.reads.lift, fun {front} n hfront hne => ?_⟩
  obtain ⟨needed, remaining, t, ht⟩ := hc.underflows n hfront hne
  exact ⟨needed, remaining, t, by rw [liftM_apply, ht]; rfl⟩

/-- Items that are read one after the other, behind those already found, are delimited if each of them is. -/
theorem IsDelimited.collect (h : IsDelimited x) (count : Nat) (found : List α) :
    IsDelimited (GetM.collect x count found) := by
  induction count generalizing found with
  | zero => exact isDelimited_pure _
  | succ count ih => exact h.bind fun a => ih (a :: found)

/-- Items that are read one after the other are delimited if each of them is, whatever their number. -/
theorem IsDelimited.times (h : IsDelimited x) (count : Nat) : IsDelimited (GetM.times count x) :=
  h.collect count []

/-- What a delimited action makes of a packet it makes of all packets that start with a certain part of it,
and every shorter part underflows. -/
theorem IsDelimited.exists_of_runOn (h : IsDelimited x) {bytes : Bytes} (hrun : runOn bytes x = .ok a) :
    ∃ n ≤ bytes.length, (∀ more, bytes.take n <+: more → runOn more x = .ok a) ∧
      ∀ k < n, ∃ needed remaining,
        runOn (bytes.take k) x = .error (OfPacketError.ofPacketError (.underflow needed remaining)) := by
  obtain ⟨s, hs⟩ : ∃ s, x (Reader.ofBytes bytes) = .ok a s := by
    rw [runOn] at hrun
    split at hrun
    next a' s hx =>
      cases hrun
      exact ⟨s, hx⟩
    next => cases hrun
  obtain ⟨p, hp, hc⟩ := h hs
  have hp : bytes = p ++ s.rest := hp
  have htake : bytes.take p.length = p := by rw [hp, List.take_left]
  refine ⟨p.length, by rw [hp, List.length_append]; omega, fun more hmore => ?_, fun k hk => ?_⟩
  · rw [htake] at hmore
    obtain ⟨tail, rfl⟩ := hmore
    exact hc.reads.runOn_append tail
  · have hfront : bytes.take k = p.take k := by rw [hp, List.take_append_of_le_length (by omega)]
    have hne : p.take k ≠ p := fun heq => by
      have hlength := congrArg List.length heq
      rw [List.length_take] at hlength
      omega
    obtain ⟨needed, remaining, t, ht⟩ := hc.underflows 0 (List.take_prefix k p) hne
    exact ⟨needed, remaining, by rw [hfront, runOn, Reader.ofBytes, ht]⟩

end GetM

namespace Get

open GetM (IsDelimited isDelimited_pure isDelimited_throw)

/-- Bytes that are taken as one piece are delimited by their number. -/
theorem isDelimited_raw (n : Nat) : IsDelimited (raw n) := by
  intro r bytes s h
  obtain ⟨rfl, hrest⟩ := rest_of_raw h
  refine ⟨bytes, hrest, reads_raw bytes, fun {front} m hfront hne => ?_⟩
  exact ⟨bytes.length, front.length, ⟨front, m⟩, raw_of_prefix m hfront hne⟩

/-- A number is delimited by its width. -/
theorem isDelimited_number (width : Nat) : IsDelimited (number width) :=
  (isDelimited_raw width).bind_pure BigEndian.decode

/-- One byte is delimited. -/
theorem isDelimited_uint8 : IsDelimited uint8 := (isDelimited_number 1).bind_pure _

/-- An unsigned number of two bytes is delimited. -/
theorem isDelimited_uint16 : IsDelimited uint16 := (isDelimited_number 2).bind_pure _

/-- An unsigned number of four bytes is delimited. -/
theorem isDelimited_uint32 : IsDelimited uint32 := (isDelimited_number 4).bind_pure _

/-- An unsigned number of eight bytes is delimited. -/
theorem isDelimited_uint64 : IsDelimited uint64 := (isDelimited_number 8).bind_pure _

/-- A signed number of four bytes is delimited. -/
theorem isDelimited_int32 : IsDelimited int32 := isDelimited_uint32.bind_pure _

/-- An identifier is delimited. -/
theorem isDelimited_uuid : IsDelimited uuid :=
  isDelimited_uint64.bind fun _ => isDelimited_uint64.bind_pure _

/-- A value is delimited by its length, and an absent one by the sign of it. -/
theorem isDelimited_block? : IsDelimited block? := by
  refine isDelimited_int32.bind fun length => ?_
  split
  · exact isDelimited_pure none
  · exact (isDelimited_raw _).bind_pure some

/-- A value that must be present is delimited by its length. -/
theorem isDelimited_block : IsDelimited block := by
  refine isDelimited_int32.bind fun length => ?_
  split
  · exact (isDelimited_throw _).bind fun _ => isDelimited_raw _
  · exact isDelimited_raw _

/-- The encoding of a text is checked when all of it is there. -/
theorem isDelimited_utf8 (bytes : Bytes) : IsDelimited (utf8 bytes) := by
  rw [utf8]
  split
  · exact isDelimited_pure _
  · exact isDelimited_throw _

/-- A text is delimited by its length. -/
theorem isDelimited_text : IsDelimited text := isDelimited_block.bind isDelimited_utf8

/-- Annotations are delimited by their number and their lengths. -/
theorem isDelimited_annotations : IsDelimited annotations :=
  isDelimited_uint16.bind fun count =>
    (isDelimited_text.bind fun _ => isDelimited_text.bind_pure _).times count.toNat

/-- Attributes are delimited by their number and their lengths. -/
theorem isDelimited_attributes : IsDelimited attributes :=
  isDelimited_uint16.bind fun count =>
    (isDelimited_uint16.bind fun _ => isDelimited_block.bind_pure _).times count.toNat

/-- Texts are delimited by their number and their lengths. -/
theorem isDelimited_texts : IsDelimited texts :=
  isDelimited_uint32.bind fun count => isDelimited_text.times count.toNat

end Get

end GelClient.Packet
