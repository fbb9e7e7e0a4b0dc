import GelClient.Packet.Reader
import GelClient.Proofs.Actions
import Mathlib.Algebra.Group.Nat.Defs
import Mathlib.Data.List.Induction

/-!
# What reading actions make of bytes

`GetM.Reads action bytes a` says that the action takes exactly `bytes` off the front of every packet,
whatever follows, and gives `a`. An action that goes on to the end of its packet cannot be described
in this way; for those, `GetM.ReadsAll action bytes a` says that the action gives `a` on a packet of
exactly `bytes` and leaves nothing of it. Sequences start with actions of the first kind and may end
with one of the second.
-/

namespace GelClient

namespace BigEndian

/-- The digits of a decoded number are the bytes that it was decoded from. -/
theorem encode_decode (bytes : Bytes) : encode bytes.length (decode bytes) = bytes := by
  induction bytes using List.reverseRecOn with
  | nil => rfl
  | append_singleton bytes b ih =>
    have hb : b.toNat < 256 := b.toNat_lt
    have hdiv : (decode bytes * 256 + b.toNat) / 256 = decode bytes := by omega
    have hmod : UInt8.ofNat (decode bytes * 256 + b.toNat) = b := by
      rw [← UInt8.toNat_inj, UInt8.toNat_ofNat']
      omega
    rw [List.length_append, List.length_singleton, decode_append_singleton, encode, hdiv, hmod, ih]

end BigEndian

namespace Packet

namespace GetM

variable {ε α β : Type}

/-- The action takes `bytes` off every packet that starts with them and gives `a`. -/
def Reads (action : GetM ε α) (bytes : Bytes) (a : α) : Prop :=
  ∀ tail n, action ⟨bytes ++ tail, n⟩ = .ok a ⟨tail, n + bytes.length⟩

/-- The action gives `a` on a packet of exactly `bytes` and leaves nothing unread. -/
def ReadsAll (action : GetM ε α) (bytes : Bytes) (a : α) : Prop :=
  ∀ n, ∃ r, action ⟨bytes, n⟩ = .ok a r ∧ r.rest = []

/-- The bytes that an action takes are all of a packet that holds nothing else. -/
theorem Reads.eq_ok {action : GetM ε α} {bytes : Bytes} {a : α} (h : Reads action bytes a) (n : Nat) :
    action ⟨bytes, n⟩ = .ok a ⟨[], n + bytes.length⟩ := by
  have ht := h [] n
  rwa [List.append_nil] at ht

/-- An action that takes `bytes` leaves nothing of a packet that holds nothing else. -/
theorem Reads.readsAll {action : GetM ε α} {bytes : Bytes} {a : α} (h : Reads action bytes a) :
    ReadsAll action bytes a :=
  fun n => ⟨_, h.eq_ok n, rfl⟩

/-- An action that takes `bytes` gives its result on a packet that goes on behind them. -/
theorem Reads.runOn_append {action : GetM ε α} {bytes : Bytes} {a : α} (h : Reads action bytes a)
    (more : Bytes) : runOn (bytes ++ more) action = .ok a := by
  have hr : action (Reader.ofBytes (bytes ++ more)) = .ok a ⟨more, 0 + bytes.length⟩ := h more 0
  rw [runOn, hr]

/-- An action that reads a whole packet gives its result on it. -/
theorem ReadsAll.runOn_eq {action : GetM ε α} {bytes : Bytes} {a : α} (h : ReadsAll action bytes a) :
    runOn bytes action = .ok a := by
  obtain ⟨r, hr, -⟩ := h 0
  have hr : action (Reader.ofBytes bytes) = .ok a r := hr
  rw [runOn, hr]

/-- A result that is converted at the end is that of the run, converted. -/
theorem runOn_bind_pure (x : GetM ε α) (g : α → β) (bytes : Bytes) :
    runOn bytes (x >>= fun a => pure (g a)) = (runOn bytes x).map g := by
  rw [runOn, runOn]
  cases hx : x (Reader.ofBytes bytes) with
  | ok a r => rw [Actions.bind_of_ok hx]; rfl
  | error e r => rw [Actions.bind_of_error hx]; rfl

/-- Doing nothing reads nothing. -/
theorem reads_pure (a : α) : Reads (pure a : GetM ε α) [] a := fun _ _ => rfl

/-- A sequence reads what its actions read, one after the other. -/
theorem Reads.bind {x : GetM ε α} {f : α → GetM ε β} {p q : Bytes} {a : α} {b : β}
    (hx : Reads x p a) (hf : Reads (f a) q b) : Reads (x >>= f) (p ++ q) b := by
  intro tail n
  simp only [Bind.bind, EStateM.bind, List.append_assoc, hx (q ++ tail) n, hf tail (n + p.length)]
  rw [List.length_append, Nat.add_assoc]

/-- A sequence may end with an action that goes on to the end of the packet. -/
theorem Reads.bind_readsAll {x : GetM ε α} {f : α → GetM ε β} {p q : Bytes} {a : α} {b : β}
    (hx : Reads x p a) (hf : ReadsAll (f a) q b) : ReadsAll (x >>= f) (p ++ q) b := by
  intro n
  obtain ⟨r, hr, hrest⟩ := hf (n + p.length)
  exact ⟨r, by simp only [Bind.bind, EStateM.bind, hx q n, hr], hrest⟩

/-- A sequence may end with an action that reads nothing. -/
theorem Reads.bind_nil {x : GetM ε α} {f : α → GetM ε β} {p : Bytes} {a : α} {b : β}
    (hx : Reads x p a) (hf : Reads (f a) [] b) : Reads (x >>= f) p b := by
  have h := hx.bind hf
  rwa [List.append_nil] at h

/-- A result may be converted after the reading. -/
theorem Reads.bind_pure {x : GetM ε α} {f : α → β} {p : Bytes} {a : α} (hx : Reads x p a) :
    Reads (x >>= fun a => pure (f a)) p (f a) :=
  hx.bind_nil (f := fun a => pure (f a)) (reads_pure (f a))

/-- A result may be converted after the reading of a whole packet. -/
theorem ReadsAll.bind_pure {x : GetM ε α} {f : α → β} {p : Bytes} {a : α} (hx : ReadsAll x p a) :
    ReadsAll (x >>= fun a => pure (f a)) p (f a) := by
  intro n
  obtain ⟨r, hr, hrest⟩ := hx n
  exact ⟨r, by simp only [Bind.bind, EStateM.bind, hr]; rfl, hrest⟩

/-- Nothing is left for an action behind one that goes on to the end. -/
theorem ReadsAll.bind {x : GetM ε α} {f : α → GetM ε β} {p : Bytes} {a : α} {b : β}
    (hx : ReadsAll x p a) (hf : Reads (f a) [] b) : ReadsAll (x >>= f) p b := by
  intro n
  obtain ⟨r, hr, hrest⟩ := hx n
  refine ⟨r, ?_, hrest⟩
  have hb := hf [] r.consumed
  simp only [Bind.bind, EStateM.bind, hr]
  rw [show r = ⟨[] ++ [], r.consumed⟩ by cases r; simp_all, hb]
  rfl

/-- An action that reads the whole of a reader of its own reads nothing of the one at hand. -/
theorem ReadsAll.onReader {action : GetM ε α} {p : Bytes} {a : α} (h : ReadsAll action p a) :
    Reads (onReader (Reader.ofBytes p) action) [] a := by
  intro tail n
  obtain ⟨r, hr, -⟩ := h 0
  have hr : action (Reader.ofBytes p) = .ok a r := hr
  simp [GetM.onReader, hr]

/-- An action that is skipped at the end of a packet gives its default there. -/
theorem readsAll_unlessEmpty_nil (default : α) (action : GetM ε α) :
    ReadsAll (do if (← get).isEmpty then return default else action) [] default :=
  fun _ => ⟨_, rfl, rfl⟩

/-- An action that is skipped at the end of a packet is not skipped before it. -/
theorem ReadsAll.unlessEmpty {action : GetM ε α} {p : Bytes} {a : α} (default : α) (hp : p ≠ [])
    (h : ReadsAll action p a) :
    ReadsAll (do if (← get).isEmpty then return default else action) p a := by
  intro n
  obtain ⟨r, hr, hrest⟩ := h n
  have hfull : (Reader.mk p n).isEmpty = false := by simp [Reader.isEmpty, hp]
  refine ⟨r, ?_, hrest⟩
  change (if (Reader.mk p n).isEmpty then pure default else action : GetM ε α) ⟨p, n⟩ = .ok a r
  rw [hfull]
  exact hr

/-- Items that are read one after the other are listed behind those already found. -/
theorem Reads.collect {item : GetM ε α} {pieces : List (Bytes × α)}
    (h : ∀ piece ∈ pieces, Reads item piece.1 piece.2) (found : List α) :
    Reads (GetM.collect item pieces.length found) (pieces.flatMap (·.1))
      (found.reverse ++ pieces.map (·.2)) := by
  induction pieces generalizing found with
  | nil => simpa [GetM.collect] using reads_pure found.reverse
  | cons piece pieces ih =>
    have hrest := ih (fun p hp => h p (by simp [hp])) (piece.2 :: found)
    have hall := (h piece (by simp)).bind (f := fun a => GetM.collect item pieces.length (a :: found)) hrest
    simpa [GetM.collect] using hall

/-- Items are read as many times as there are pieces, each from its own piece. -/
theorem reads_times {item : GetM ε α} {pieces : List (Bytes × α)}
    (h : ∀ piece ∈ pieces, Reads item piece.1 piece.2) :
    Reads (times pieces.length item) (pieces.flatMap (·.1)) (pieces.map (·.2)) := by
  simpa [times] using Reads.collect h []

/-- The result of an action with packet errors in a layer above the packets. -/
theorem liftM_apply [OfPacketError ε] (x : Get α) (r : Reader) :
    (liftM x : GetM ε α) r =
      match x r with
      | .ok a r => .ok a r
      | .error e r => .error (OfPacketError.ofPacketError e) r := by
  simp only [liftM, monadLift, MonadLift.monadLift, EStateM.adaptExcept]
  cases x r <;> rfl

/-- An action with packet errors gives the same in a layer above the packets. -/
theorem liftM_eq_ok [OfPacketError ε] {x : Get α} {a : α} {r s : Reader} :
    (liftM x : GetM ε α) r = .ok a s ↔ x r = .ok a s := by
  rw [liftM_apply]
  cases x r <;> simp

/-- An action that fails with packet errors reads the same in a layer above the packets. -/
theorem Reads.lift [OfPacketError ε] {x : Get α} {p : Bytes} {a : α} (h : Reads x p a) :
    Reads (liftM x : GetM ε α) p a := by
  intro tail n
  rw [liftM_apply, h tail n]

/-- An action that goes on to the end does so in a layer above the packets. -/
theorem ReadsAll.lift [OfPacketError ε] {x : Get α} {p : Bytes} {a : α} (h : ReadsAll x p a) :
    ReadsAll (liftM x : GetM ε α) p a := by
  intro n
  obtain ⟨r, hr, hrest⟩ := h n
  exact ⟨r, by rw [liftM_apply, hr], hrest⟩

end GetM

namespace Get

open GetM (Reads ReadsAll)

/-- Taking as many bytes as `bytes` has takes them. -/
theorem reads_raw (bytes : Bytes) : Reads (raw bytes.length) bytes bytes := by
  intro tail n
  simp [raw]

/-- Passing over as many bytes as `bytes` has passes over them. -/
theorem reads_skip (bytes : Bytes) : Reads (skip bytes.length) bytes () :=
  (reads_raw bytes).bind_pure

/-- Taking everything takes everything. -/
theorem readsAll_rest (bytes : Bytes) : ReadsAll rest bytes bytes :=
  fun _ => ⟨_, rfl, rfl⟩

/-- A number is read back from its encoding if it fits the width. -/
theorem reads_number (width : Nat) {n : Nat} (h : n < 256 ^ width) :
    Reads (number width) (BigEndian.encode width n) n := by
  have hr := (reads_raw (BigEndian.encode width n)).bind_pure (f := BigEndian.decode)
  rwa [BigEndian.length_encode, BigEndian.decode_encode_of_lt h] at hr

/-- One byte is read back. -/
theorem reads_uint8 (n : UInt8) : Reads uint8 (BigEndian.encode 1 n.toNat) n := by
  have h := (reads_number 1 n.toNat_lt).bind_pure (f := UInt8.ofNat)
  rw [UInt8.ofNat_toNat] at h
  exact h

/-- An unsigned number of two bytes is read back. -/
theorem reads_uint16 (n : UInt16) : Reads uint16 (BigEndian.encode 2 n.toNat) n := by
  have h := (reads_number 2 n.toNat_lt).bind_pure (f := UInt16.ofNat)
  rw [UInt16.ofNat_toNat] at h
  exact h

/-- An unsigned number of four bytes is read back. -/
theorem reads_uint32 (n : UInt32) : Reads uint32 (BigEndian.encode 4 n.toNat) n := by
  have h := (reads_number 4 n.toNat_lt).bind_pure (f := UInt32.ofNat)
  rw [UInt32.ofNat_toNat] at h
  exact h

/-- An unsigned number of eight bytes is read back. -/
theorem reads_uint64 (n : UInt64) : Reads uint64 (BigEndian.encode 8 n.toNat) n := by
  have h := (reads_number 8 n.toNat_lt).bind_pure (f := UInt64.ofNat)
  rw [UInt64.ofNat_toNat] at h
  exact h

/-- A signed byte is read back. -/
theorem reads_int8 (n : Int8) : Reads int8 (BigEndian.encode 1 n.toUInt8.toNat) n := by
  exact (reads_uint8 n.toUInt8).bind_pure (f := UInt8.toInt8)

/-- A signed number of two bytes is read back. -/
theorem reads_int16 (n : Int16) : Reads int16 (BigEndian.encode 2 n.toUInt16.toNat) n := by
  exact (reads_uint16 n.toUInt16).bind_pure (f := UInt16.toInt16)

/-- A signed number of four bytes is read back. -/
theorem reads_int32 (n : Int32) : Reads int32 (BigEndian.encode 4 n.toUInt32.toNat) n := by
  exact (reads_uint32 n.toUInt32).bind_pure (f := UInt32.toInt32)

/-- A signed number of eight bytes is read back. -/
theorem reads_int64 (n : Int64) : Reads int64 (BigEndian.encode 8 n.toUInt64.toNat) n := by
  exact (reads_uint64 n.toUInt64).bind_pure (f := UInt64.toInt64)

/-- A truth value is read back. -/
theorem reads_bool (b : Bool) :
    Reads bool (BigEndian.encode 1 (if b then 1 else 0 : UInt8).toNat) b := by
  have h := (reads_uint8 (if b then 1 else 0)).bind_pure (f := (· != 0))
  cases b <;> exact h

/-- An identifier is read back from its two halves. -/
theorem reads_uuid (id : Uuid) : Reads uuid id.toBytes id :=
  (reads_uint64 id.high).bind (reads_uint64 id.low).bind_pure

/-- A count below the limit of a signed number is read back. -/
theorem reads_count {n : Nat} (h : n < 2 ^ 31) :
    Reads int32 (BigEndian.encode 4 n) (Int32.ofNat n) := by
  have hr := reads_int32 (Int32.ofNat n)
  rwa [BigEndian.toNat_toUInt32_ofNat h] at hr

/-- A count below the limit of a signed number is not negative. -/
theorem not_ofNat_lt_zero {n : Nat} (h : n < 2 ^ 31) : ¬ Int32.ofNat n < 0 := by
  rw [Int32.lt_iff_toInt_lt, Int32.toInt_ofNat_of_lt h]
  simp

/-- A block is read from behind its length. -/
theorem reads_block? {p : Bytes} (h : p.length < 2 ^ 31) :
    Reads block? (BigEndian.encode 4 p.length ++ p) (some p) := by
  refine (reads_count h).bind ?_
  rw [if_neg (not_ofNat_lt_zero h), Int32.toNatClampNeg_ofNat_of_lt h]
  exact (reads_raw p).bind_pure

/-- A block that must be present is read from behind its length. -/
theorem reads_block {p : Bytes} (h : p.length < 2 ^ 31) :
    Reads block (BigEndian.encode 4 p.length ++ p) p := by
  refine (reads_count h).bind ?_
  simp only [if_neg (not_ofNat_lt_zero h), Int32.toNatClampNeg_ofNat_of_lt h]
  exact (reads_raw p)

/-- The length -1 is an absent value. -/
theorem reads_block?_none : Reads block? (BigEndian.encode 4 (-1 : Int32).toUInt32.toNat) none :=
  (reads_int32 (-1)).bind (GetM.reads_pure none)

/-- A reader for a block is split off behind its length. -/
theorem reads_window? {p : Bytes} (h : p.length < 2 ^ 31) :
    Reads window? (BigEndian.encode 4 p.length ++ p) (some (Reader.ofBytes p)) :=
  (reads_block? h).bind_pure

/-- No reader is split off for an absent value. -/
theorem reads_window?_none : Reads window? (BigEndian.encode 4 (-1 : Int32).toUInt32.toNat) none :=
  reads_block?_none.bind_pure

/-- Bytes that were taken stood at the front. -/
theorem rest_of_raw {n : Nat} {bytes : Bytes} {r s : Reader} (h : raw n r = .ok bytes s) :
    bytes.length = n ∧ r.rest = bytes ++ s.rest := by
  simp only [raw, List.splitAt_eq] at h
  split at h
  · cases h
  next hlength =>
    cases h
    rw [List.length_take] at hlength ⊢
    exact ⟨by omega, (List.take_append_drop n r.rest).symm⟩

/-- The bytes that a number was read from are its encoding. -/
theorem rest_of_number {width n : Nat} {r s : Reader} (h : number width r = .ok n s) :
    n < 256 ^ width ∧ r.rest = BigEndian.encode width n ++ s.rest := by
  obtain ⟨bytes, t, hbytes, hn⟩ := Actions.bind_eq_ok.mp h
  cases hn
  obtain ⟨rfl, hrest⟩ := rest_of_raw hbytes
  have hencode : BigEndian.encode bytes.length (BigEndian.decode bytes) = bytes :=
    BigEndian.encode_decode bytes
  have hdecode := BigEndian.decode_encode bytes.length (BigEndian.decode bytes)
  rw [hencode] at hdecode
  have hlt : BigEndian.decode bytes < 256 ^ bytes.length := by
    rw [hdecode]
    exact Nat.mod_lt _ (Nat.pow_pos (by omega))
  exact ⟨hlt, by rw [hencode, hrest]⟩

/-- The bytes that an unsigned number of two bytes was read from are its encoding. -/
theorem rest_of_uint16 {n : UInt16} {r s : Reader} (h : uint16 r = .ok n s) :
    r.rest = BigEndian.encode 2 n.toNat ++ s.rest := by
  obtain ⟨digits, t, hdigits, hn⟩ := Actions.bind_eq_ok.mp h
  cases hn
  obtain ⟨hlt, hrest⟩ := rest_of_number hdigits
  have hdigits : (UInt16.ofNat digits).toNat = digits := UInt16.toNat_ofNat_of_lt' hlt
  rw [hrest, hdigits]

/-- The bytes that a signed number of two bytes was read from are its encoding. -/
theorem rest_of_int16 {n : Int16} {r s : Reader} (h : int16 r = .ok n s) :
    r.rest = BigEndian.encode 2 n.toUInt16.toNat ++ s.rest := by
  obtain ⟨word, t, hword, hn⟩ := Actions.bind_eq_ok.mp h
  cases hn
  rw [rest_of_uint16 hword, UInt16.toUInt16_toInt16]

/-- The bytes that a signed number of four bytes was read from are its encoding. -/
theorem rest_of_int32 {n : Int32} {r s : Reader} (h : int32 r = .ok n s) :
    r.rest = BigEndian.encode 4 n.toUInt32.toNat ++ s.rest := by
  obtain ⟨word, t, hword, hn⟩ := Actions.bind_eq_ok.mp h
  obtain ⟨digits, u, hdigits, hw⟩ := Actions.bind_eq_ok.mp hword
  cases hn
  cases hw
  obtain ⟨hlt, hrest⟩ := rest_of_number hdigits
  have hdigits : (UInt32.ofNat digits).toNat = digits := UInt32.toNat_ofNat_of_lt' hlt
  rw [hrest, UInt32.toUInt32_toInt32, hdigits]

end Get

end Packet

end GelClient
