import GelClient.Proofs.Packet.Convey
import Mathlib.Algebra.Group.Nat.Defs

/-!
# What reading actions cannot do without

`GetM.Reads` says what an action makes of bytes that stand in front of others, and nothing of a packet
that ends too early. `GetM.Needs action bytes a` says both: the action takes exactly `bytes` off the
front of every packet and gives `a`, and it fails on every packet that breaks off inside of them. Such
actions may be put one after the other, and then they need what each of them does.
-/

namespace GelClient.Packet

/-- What a list starts with is a part of its first half, or all of that and a part of the second. -/
theorem prefix_append {front p q : Bytes} (h : front <+: p ++ q) :
    (front <+: p ∧ front ≠ p) ∨ ∃ part, part <+: q ∧ front = p ++ part := by
  by_cases hlong : p <+: front
  · obtain ⟨part, rfl⟩ := hlong
    exact .inr ⟨part, (List.prefix_append_right_inj p).mp h, rfl⟩
  · refine .inl ⟨?_, fun heq => hlong (heq ▸ List.prefix_refl p)⟩
    exact (List.prefix_or_prefix_of_prefix h (List.prefix_append p q)).resolve_right hlong

namespace GetM

variable {ε α β ι : Type}

/-- The action fails. -/
def FailsOn (action : GetM ε α) (r : Reader) : Prop :=
  ∃ e s, action r = .error e s

/-- The action takes `bytes` off every packet that starts with them and gives `a`, and it fails on every
packet that breaks off inside of them. -/
structure Needs (action : GetM ε α) (bytes : Bytes) (a : α) : Prop where
  reads : Reads action bytes a
  fails {front : Bytes} (n : Nat) : front <+: bytes → front ≠ bytes → FailsOn action ⟨front, n⟩

/-- A sequence fails where its first action does. -/
theorem FailsOn.bind {x : GetM ε α} {r : Reader} (h : FailsOn x r) (f : α → GetM ε β) :
    FailsOn (x >>= f) r := by
  obtain ⟨e, s, hx⟩ := h
  exact ⟨e, s, Actions.bind_of_error hx⟩

/-- An action that gives one result under a condition, and fails without it, succeeds just under it. -/
theorem exists_ok_iff {x : GetM ε α} {s t : Reader} {a : α} {p : Prop}
    (hok : p → x s = .ok a t) (hfails : ¬p → FailsOn x s) :
    ((∃ b u, x s = .ok b u) ↔ p) ∧ ∀ b u, x s = .ok b u → p ∧ u = t ∧ b = a := by
  by_cases hp : p
  · rw [hok hp]
    refine ⟨⟨fun _ => hp, fun _ => ⟨a, t, rfl⟩⟩, fun b u h => ?_⟩
    cases h
    exact ⟨hp, rfl, rfl⟩
  · obtain ⟨e, u, hx⟩ := hfails hp
    rw [hx]
    refine ⟨⟨?_, fun h => absurd h hp⟩, fun _ _ h => by cases h⟩
    rintro ⟨b, v, h⟩
    cases h

/-- Nothing breaks off inside of nothing. -/
theorem Needs.of_reads_nil {action : GetM ε α} {a : α} (h : Reads action [] a) : Needs action [] a :=
  ⟨h, fun _ hfront hne => absurd (List.prefix_nil.mp hfront) hne⟩

/-- On a part of what a sequence takes off, either the first action has only a part of its bytes, or it is
done and the rest has only a part of them. -/
theorem Reads.bind_of_prefix {x : GetM ε α} {p q front : Bytes} {a : α} (hx : Reads x p a)
    (f : α → GetM ε β) (hfront : front <+: p ++ q) (hne : front ≠ p ++ q) :
    (front <+: p ∧ front ≠ p) ∨
      ∃ part, part <+: q ∧ part ≠ q ∧ ∀ n, (x >>= f) ⟨front, n⟩ = f a ⟨part, n + p.length⟩ := by
  obtain hshort | ⟨part, hpart, rfl⟩ := prefix_append hfront
  · exact .inl hshort
  · exact .inr ⟨part, hpart, fun heq => hne (heq ▸ rfl), fun n => Actions.bind_of_ok (hx part n)⟩

/-- A sequence needs what its actions need, one after the other. -/
theorem Needs.bind {x : GetM ε α} {f : α → GetM ε β} {p q : Bytes} {a : α} {b : β} (hx : Needs x p a)
    (hf : Needs (f a) q b) : Needs (x >>= f) (p ++ q) b := by
  refine ⟨hx.reads.bind hf.reads, fun {front} n hfront hne => ?_⟩
  obtain ⟨hshort, hneq⟩ | ⟨part, hpart, hpartne, hrest⟩ := hx.reads.bind_of_prefix f hfront hne
  · exact (hx.fails n hshort hneq).bind f
  · obtain ⟨e, s, hfail⟩ := hf.fails (n + p.length) hpart hpartne
    exact ⟨e, s, (hrest n).trans hfail⟩

/-- A sequence may end with an action that needs nothing. -/
theorem Needs.bind_nil {x : GetM ε α} {f : α → GetM ε β} {p : Bytes} {a : α} {b : β} (hx : Needs x p a)
    (hf : Reads (f a) [] b) : Needs (x >>= f) p b := by
  have h := hx.bind (.of_reads_nil hf)
  rwa [List.append_nil] at h

/-- A result may be converted after the reading. -/
theorem Needs.bind_pure {x : GetM ε α} {f : α → β} {p : Bytes} {a : α} (hx : Needs x p a) :
    Needs (x >>= fun a => pure (f a)) p (f a) :=
  hx.bind_nil (f := fun a => pure (f a)) (reads_pure (f a))

/-- An action that fails with packet errors needs the same in a layer above the packets. -/
theorem Needs.lift [OfPacketError ε] {x : Get α} {p : Bytes} {a : α} (h : Needs x p a) :
    Needs (liftM x : GetM ε α) p a := by
  refine ⟨h.reads.lift, fun {front} n hfront hne => ?_⟩
  obtain ⟨e, s, hfail⟩ := h.fails n hfront hne
  exact ⟨OfPacketError.ofPacketError e, s, by rw [liftM_apply, hfail]⟩

/-- Items that are read one after the other, behind those already found, need the bytes of all. -/
theorem Needs.collect {item : GetM ε α} {bytes : ι → Bytes} {image : ι → α} {items : List ι}
    (h : ∀ i ∈ items, Needs item (bytes i) (image i)) (found : List α) :
    Needs (GetM.collect item items.length found) (items.flatMap bytes)
      (found.reverse ++ items.map image) := by
  induction items generalizing found with
  | nil =>
    rw [List.map_nil, List.append_nil]
    exact .of_reads_nil (reads_pure found.reverse)
  | cons i items ih =>
    obtain ⟨hi, hitems⟩ := List.forall_mem_cons.mp h
    have hrest := ih hitems (image i :: found)
    rw [List.reverse_cons, List.append_assoc] at hrest
    exact hi.bind hrest

/-- Items that are read one after the other need the bytes of all. -/
theorem Needs.times {item : GetM ε α} {bytes : ι → Bytes} {image : ι → α} {items : List ι}
    (h : ∀ i ∈ items, Needs item (bytes i) (image i)) :
    Needs (GetM.times items.length item) (items.flatMap bytes) (items.map image) :=
  collect h []

/-- An action that reads the front of a reader of its own reads nothing of the one at hand. -/
theorem Reads.onReader {action : GetM ε α} {p : Bytes} {a : α} (h : Reads action p a) (extra : Bytes) :
    Reads (onReader (Reader.ofBytes (p ++ extra)) action) [] a := by
  intro tail n
  have hown : action (Reader.ofBytes (p ++ extra)) = .ok a ⟨extra, 0 + p.length⟩ := h extra 0
  simp [GetM.onReader, hown]

end GetM

namespace Get

open GetM (Needs)

/-- A packet that breaks off inside of the bytes to be taken is too short. -/
theorem raw_of_prefix {bytes front : Bytes} (n : Nat) (hfront : front <+: bytes) (hne : front ≠ bytes) :
    raw bytes.length ⟨front, n⟩ = .error (.underflow bytes.length front.length) ⟨front, n⟩ := by
  have hlt : front.length < bytes.length :=
    Nat.lt_of_le_of_ne hfront.length_le fun hlength => hne (hfront.eq_of_length hlength)
  simp only [raw, List.splitAt_eq, List.length_take]
  rw [if_pos (by omega)]
  rfl

/-- Taking as many bytes as `bytes` has needs all of them. -/
theorem needs_raw (bytes : Bytes) : Needs (raw bytes.length) bytes bytes :=
  ⟨reads_raw bytes, fun n hfront hne => ⟨_, _, raw_of_prefix n hfront hne⟩⟩

/-- Passing over as many bytes as `bytes` has needs all of them. -/
theorem needs_skip (bytes : Bytes) : Needs (skip bytes.length) bytes () :=
  (needs_raw bytes).bind_pure

/-- Splitting off a reader for as many bytes as `bytes` has needs all of them. -/
theorem needs_window (bytes : Bytes) : Needs (window bytes.length) bytes (Reader.ofBytes bytes) :=
  (needs_raw bytes).bind_pure

/-- A number needs its encoding. -/
theorem needs_number (width : Nat) {n : Nat} (h : n < 256 ^ width) :
    Needs (number width) (BigEndian.encode width n) n := by
  have hn := (needs_raw (BigEndian.encode width n)).bind_pure (f := BigEndian.decode)
  rwa [BigEndian.length_encode, BigEndian.decode_encode_of_lt h] at hn

/-- One byte is needed. -/
theorem needs_uint8 (n : UInt8) : Needs uint8 [n] n := by
  have h := (needs_number 1 n.toNat_lt).bind_pure (f := UInt8.ofNat)
  rwa [BigEndian.encode, BigEndian.encode, List.nil_append, UInt8.ofNat_toNat] at h

/-- An unsigned number of two bytes needs its encoding. -/
theorem needs_uint16 (n : UInt16) : Needs uint16 (BigEndian.encode 2 n.toNat) n := by
  have h := (needs_number 2 n.toNat_lt).bind_pure (f := UInt16.ofNat)
  rwa [UInt16.ofNat_toNat] at h

/-- An unsigned number of four bytes needs its encoding. -/
theorem needs_uint32 (n : UInt32) : Needs uint32 (BigEndian.encode 4 n.toNat) n := by
  have h := (needs_number 4 n.toNat_lt).bind_pure (f := UInt32.ofNat)
  rwa [UInt32.ofNat_toNat] at h

/-- An unsigned number of eight bytes needs its encoding. -/
theorem needs_uint64 (n : UInt64) : Needs uint64 (BigEndian.encode 8 n.toNat) n := by
  have h := (needs_number 8 n.toNat_lt).bind_pure (f := UInt64.ofNat)
  rwa [UInt64.ofNat_toNat] at h

/-- A signed number of four bytes needs its encoding. -/
theorem needs_int32 (n : Int32) : Needs int32 (BigEndian.encode 4 n.toUInt32.toNat) n :=
  (needs_uint32 n.toUInt32).bind_pure (f := UInt32.toInt32)

/-- A truth value needs its byte. -/
theorem needs_bool (b : UInt8) : Needs bool [b] (b != 0) :=
  (needs_uint8 b).bind_pure (f := (· != 0))

/-- An identifier needs its two halves. -/
theorem needs_uuid (id : Uuid) : Needs uuid id.toBytes id :=
  (needs_uint64 id.high).bind (needs_uint64 id.low).bind_pure

/-- A block that must be present needs its length and all that this counts. -/
theorem needs_block {p : Bytes} (h : p.length < 2 ^ 31) :
    Needs block (BigEndian.encode 4 p.length ++ p) p := by
  have hlength := needs_int32 (Int32.ofNat p.length)
  rw [BigEndian.toNat_toUInt32_ofNat h] at hlength
  refine hlength.bind ?_
  simp only [if_neg (not_ofNat_lt_zero h), Int32.toNatClampNeg_ofNat_of_lt h]
  exact needs_raw p

/-- A text needs its length and its bytes. -/
theorem needs_text {s : String} (h : (Utf8.encode s).length < 2 ^ 31) :
    Needs text (BigEndian.encode 4 (Utf8.encode s).length ++ Utf8.encode s) s :=
  (needs_block h).bind_nil (reads_utf8 s)

end Get

end GelClient.Packet
