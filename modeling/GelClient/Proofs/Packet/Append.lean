import GelClient.Packet.Writer
import GelClient.Proofs.Actions
import Mathlib.Algebra.Group.Nat.Defs

/-!
# Writing actions that only append

A uniform action appends to every open writer the bytes that it writes to an empty one, with the same
result. What such an action writes is then known from its run on the empty writer alone, and the bytes
of a sequence or of a block behind its length follow from those of the parts. The slot of a length is
patched in place; that this too only appends is the content of `isUniform_withLength`.
-/

namespace GelClient.Packet

namespace Writer

/-- A writer that grows without bound and has not handed out its bytes. -/
structure IsOpen (w : Writer) : Prop where
  capacity_eq : w.capacity = none
  closed_eq : w.closed = false

/-- The empty writer is open. -/
@[simp]
theorem isOpen_empty : empty.IsOpen := ⟨rfl, rfl⟩

/-- Appending keeps a writer open. -/
theorem IsOpen.append {w : Writer} (h : w.IsOpen) (bytes : Bytes) : (w.append bytes).IsOpen :=
  ⟨h.capacity_eq, h.closed_eq⟩

/-- Two writers with the same bytes and the same limits are one. -/
theorem eq_of_toBytes_eq {w v : Writer} (hb : w.toBytes = v.toBytes) (hc : w.capacity = v.capacity)
    (hd : w.closed = v.closed) : w = v := by
  cases w
  cases v
  simp_all [toBytes]

/-- Appending nothing changes nothing. -/
@[simp]
theorem append_nil (w : Writer) : w.append [] = w :=
  eq_of_toBytes_eq (by simp) rfl rfl

/-- Appending twice is appending the concatenation. -/
@[simp]
theorem append_append (w : Writer) (a b : Bytes) : (w.append a).append b = w.append (a ++ b) :=
  eq_of_toBytes_eq (by simp) rfl rfl

/-- Appending adds to the size. -/
@[simp]
theorem size_append (w : Writer) (bytes : Bytes) : (w.append bytes).size = w.size + bytes.length := by
  rw [size_eq_length, size_eq_length, toBytes_append, List.length_append]

/-- The empty writer holds no bytes. -/
@[simp]
theorem toBytes_empty : empty.toBytes = [] := rfl

/-- Patching a slot that `slot` was reserved for replaces it and nothing else. -/
theorem patch_append (w : Writer) (n : Nat) (bytes : Bytes) :
    (w.append (BigEndian.encode 4 0 ++ bytes)).patch w.size n =
      w.append (BigEndian.encode 4 n ++ bytes) := by
  refine eq_of_toBytes_eq ?_ rfl rfl
  have hz : BigEndian.encode 4 0 = [0, 0, 0, 0] := by decide
  have hn : BigEndian.encode 4 n =
      [UInt8.ofNat (n / 16777216), UInt8.ofNat (n / 65536), UInt8.ofNat (n / 256), UInt8.ofNat n] := by
    simp [BigEndian.encode, Nat.div_div_eq_div_mul]
  rw [hz, hn]
  simp [patch, toBytes, append, size, Array.toList_setIfInBounds, List.set_append_right]

end Writer

namespace PutM

open Actions

variable {ε α β : Type}

/-- A result obtained on an empty writer, put behind the bytes of another one. -/
def behind (w : Writer) : EStateM.Result ε Writer α → EStateM.Result ε Writer α
  | .ok a r => .ok a (w.append r.toBytes)
  | .error e r => .error e (w.append r.toBytes)

/-- An action that does to every open writer what it does to an empty one, behind what is there. -/
def IsUniform (action : PutM ε α) : Prop :=
  ∀ w : Writer, w.IsOpen → action w = behind w (action Writer.empty)

/-- Doing nothing is uniform. -/
@[simp]
theorem isUniform_pure (a : α) : IsUniform (pure a : PutM ε α) := by
  intro w _
  rw [pure_apply, pure_apply, behind, Writer.toBytes_empty, Writer.append_nil]

/-- Failing is uniform. -/
@[simp]
theorem isUniform_throw (e : ε) : IsUniform (throw e : PutM ε α) := by
  intro w _
  rw [throw_apply, throw_apply, behind, Writer.toBytes_empty, Writer.append_nil]

/-- What a uniform action leaves of the empty writer is open. -/
theorem IsUniform.isOpen_of_ok {action : PutM ε α} (h : IsUniform action) {a : α} {w : Writer}
    (hr : action Writer.empty = .ok a w) : w.IsOpen := by
  have hw := h Writer.empty Writer.isOpen_empty
  rw [hr] at hw
  simp only [behind, EStateM.Result.ok.injEq, true_and] at hw
  rw [hw]
  exact Writer.isOpen_empty.append _

/-- A sequence of uniform actions is uniform. -/
theorem IsUniform.bind {x : PutM ε α} {f : α → PutM ε β} (hx : IsUniform x)
    (hf : ∀ a, IsUniform (f a)) : IsUniform (x >>= f) := by
  intro w hw
  have hxw := hx w hw
  cases hr : x Writer.empty with
  | error e r =>
    rw [hr, behind] at hxw
    rw [bind_of_error hxw, bind_of_error hr, behind]
  | ok a r =>
    rw [hr, behind] at hxw
    rw [bind_of_ok hxw, bind_of_ok hr, hf a _ (hw.append _), hf a r (hx.isOpen_of_ok hr)]
    cases f a Writer.empty <;> simp [behind]

/-- A uniform action for each item of a list is uniform. -/
theorem isUniform_forM (items : List α) {f : α → PutM ε PUnit} (hf : ∀ a ∈ items, IsUniform (f a)) :
    IsUniform (items.forM f) := by
  induction items with
  | nil => exact isUniform_pure ()
  | cons a items ih =>
    rw [List.forM]
    exact (hf a (by simp)).bind fun _ => ih fun b hb => hf b (by simp [hb])

/-- Reserving room in an open writer always succeeds. -/
theorem reserve_of_isOpen {w : Writer} (hw : w.IsOpen) (needed : Nat) :
    Put.reserve needed w = .ok () w := by
  rw [Put.reserve, get_bind_apply, hw.closed_eq, hw.capacity_eq]
  rfl

/-- Writing bytes appends them to an open writer. -/
theorem raw_of_isOpen {w : Writer} (hw : w.IsOpen) (bytes : Bytes) :
    Put.raw bytes w = .ok () (w.append bytes) := by
  rw [Put.raw, bind_of_ok (reserve_of_isOpen hw _), Put.emit, modify_apply]

/-- Reserving room is uniform. -/
theorem isUniform_reserve (needed : Nat) : IsUniform (Put.reserve needed) := by
  intro w hw
  simp [reserve_of_isOpen hw, reserve_of_isOpen Writer.isOpen_empty, behind]

/-- Appending is uniform. -/
theorem isUniform_emit (bytes : Bytes) : IsUniform (Put.emit bytes) := by
  intro w _
  simp [Put.emit, behind]

/-- Writing bytes is uniform. -/
@[simp]
theorem isUniform_raw (bytes : Bytes) : IsUniform (Put.raw bytes) :=
  (isUniform_reserve _).bind fun _ => isUniform_emit bytes

/-- The bytes of an action are those that it leaves in an empty writer. -/
theorem bytes?_eq_ok {action : PutM ε Unit} {b : Bytes} :
    action.bytes? = .ok b ↔ ∃ w, action Writer.empty = .ok () w ∧ w.toBytes = b := by
  unfold bytes?
  rw [EStateM.run]
  cases action Writer.empty <;> simp

/-- What a uniform action writes to the empty writer it appends to every open one. -/
theorem IsUniform.eq_ok {action : PutM ε Unit} (h : IsUniform action) {b : Bytes} (hb : action.bytes? = .ok b)
    {w : Writer} (hw : w.IsOpen) : action w = .ok () (w.append b) := by
  obtain ⟨v, hv, rfl⟩ := bytes?_eq_ok.mp hb
  rw [h w hw, hv]
  rfl

/-- A uniform action that succeeds on an open writer has bytes, and appends these. -/
theorem IsUniform.exists_bytes? {action : PutM ε Unit} (h : IsUniform action) {w v : Writer} (hw : w.IsOpen)
    (hr : action w = .ok () v) : ∃ b, action.bytes? = .ok b ∧ v = w.append b := by
  rw [h w hw] at hr
  cases hs : action Writer.empty with
  | error e r =>
    rw [hs] at hr
    cases hr
  | ok a r =>
    rw [hs] at hr
    cases hr
    exact ⟨r.toBytes, bytes?_eq_ok.mpr ⟨r, hs, rfl⟩, rfl⟩

/-- Doing nothing writes nothing. -/
@[simp]
theorem bytes?_pure : (pure () : PutM ε Unit).bytes? = .ok [] := rfl

/-- A failure writes no payload. -/
@[simp]
theorem bytes?_throw (e : ε) : (throw e : PutM ε Unit).bytes? = .error e := rfl

/-- What follows a failure is not written either. -/
@[simp]
theorem bytes?_throw_bind (e : ε) (f : α → PutM ε Unit) :
    ((throw e : PutM ε α) >>= f).bytes? = .error e := rfl

/-- Bytes are written as they are. -/
@[simp]
theorem bytes?_raw (bytes : Bytes) : (Put.raw bytes).bytes? = .ok bytes := by
  rw [bytes?_eq_ok]
  exact ⟨_, raw_of_isOpen Writer.isOpen_empty bytes, by simp⟩

/-- A sequence of uniform actions writes what the first one writes and then what the second one
writes. -/
theorem bytes?_bind_eq_ok {x : PutM ε Unit} {f : Unit → PutM ε Unit} {b : Bytes} (hx : IsUniform x)
    (hf : IsUniform (f ())) :
    (x >>= f).bytes? = .ok b ↔
      ∃ b₁ b₂, x.bytes? = .ok b₁ ∧ (f ()).bytes? = .ok b₂ ∧ b = b₁ ++ b₂ := by
  simp only [bytes?_eq_ok, Bind.bind, EStateM.bind]
  cases hr : x Writer.empty with
  | error e r => simp
  | ok a r =>
    simp only [EStateM.Result.ok.injEq, true_and, hf r (hx.isOpen_of_ok hr)]
    cases f () Writer.empty with
    | error e s => simp [behind]
    | ok a s => simp [behind, eq_comm]

/-- The bytes of a sequence of uniform actions. -/
theorem bytes?_bind {x : PutM ε Unit} {f : Unit → PutM ε Unit} {b₁ b₂ : Bytes} (hx : IsUniform x)
    (hf : IsUniform (f ())) (h₁ : x.bytes? = .ok b₁) (h₂ : (f ()).bytes? = .ok b₂) :
    (x >>= f).bytes? = .ok (b₁ ++ b₂) :=
  (bytes?_bind_eq_ok hx hf).mpr ⟨b₁, b₂, h₁, h₂, rfl⟩

/-- An identifier is written as its sixteen bytes. -/
@[simp]
theorem bytes?_uuid (id : Uuid) : (Put.uuid id).bytes? = .ok id.toBytes :=
  bytes?_bind (isUniform_raw _) (isUniform_raw _) (bytes?_raw _) (bytes?_raw _)

variable [OfPacketError ε]

/-- The result of an action with packet errors in a layer above the packets. -/
theorem liftM_apply (x : Put α) (w : Writer) :
    (liftM x : PutM ε α) w =
      match x w with
      | .ok a r => .ok a r
      | .error e r => .error (OfPacketError.ofPacketError e) r := by
  simp only [liftM, monadLift, MonadLift.monadLift, EStateM.adaptExcept]
  cases x w <;> rfl

/-- An action with packet errors stays uniform in a layer above the packets. -/
theorem IsUniform.lift {x : Put α} (hx : IsUniform x) : IsUniform (liftM x : PutM ε α) := by
  intro w hw
  rw [liftM_apply, liftM_apply, hx w hw]
  cases x Writer.empty <;> rfl

/-- A count is written uniformly. -/
@[simp]
theorem isUniform_signedCount (n : Nat) : IsUniform (signedCount n : PutM ε Unit) := by
  unfold signedCount
  split
  · exact (isUniform_raw _).lift
  · exact isUniform_throw _

/-- A block for whose length there is no room is not written. -/
theorem withLength_of_reserve_error {w v : Writer} {e : Error} (h : Put.reserve 4 w = .error e v)
    (body : PutM ε Unit) : withLength body w = .error (OfPacketError.ofPacketError e) v := by
  have hreserve : (liftM (Put.reserve 4) : PutM ε Unit) w = .error (OfPacketError.ofPacketError e) v := by
    rw [liftM_apply, h]
  rw [withLength, bind_of_error hreserve]

/-- A block for whose length there is room: the body runs behind the slot, which is then patched. -/
theorem withLength_of_reserve {w : Writer} (h : Put.reserve 4 w = .ok () w) (body : PutM ε Unit) :
    withLength body w =
      match body (w.append (BigEndian.encode 4 0)) with
      | .error e r => .error e r
      | .ok () r =>
        if r.size - w.size - 4 < 2 ^ 31 then .ok () (r.patch w.size (r.size - w.size - 4))
        else .error (OfPacketError.ofPacketError (.tooLarge (r.size - w.size - 4))) r := by
  have hslot : (liftM (Put.emit (BigEndian.encode 4 0)) : PutM ε Unit) w =
      .ok () (w.append (BigEndian.encode 4 0)) := rfl
  have hreserve : (liftM (Put.reserve 4) : PutM ε Unit) w = .ok () w := by rw [liftM_apply, h]
  rw [withLength, bind_of_ok hreserve, get_bind_apply, bind_of_ok hslot]
  cases hr : body (w.append (BigEndian.encode 4 0)) with
  | error e r => rw [bind_of_error hr]
  | ok a r =>
    rw [bind_of_ok hr, get_bind_apply]
    dsimp only
    split <;> rfl

/-- The run of a block on an open writer, from that of its body on an empty one. -/
theorem withLength_of_isOpen {w : Writer} (hw : w.IsOpen) {body : PutM ε Unit} (hb : IsUniform body) :
    withLength body w =
      match body Writer.empty with
      | .error e r => .error e (w.append (BigEndian.encode 4 0 ++ r.toBytes))
      | .ok () r =>
        if r.size < 2 ^ 31 then .ok () (w.append (BigEndian.encode 4 r.size ++ r.toBytes))
        else .error (OfPacketError.ofPacketError (.tooLarge r.size))
          (w.append (BigEndian.encode 4 0 ++ r.toBytes)) := by
  have hbody := hb _ (hw.append (BigEndian.encode 4 0))
  rw [withLength_of_reserve (reserve_of_isOpen hw 4), hbody]
  cases body Writer.empty with
  | error e r => rw [behind, Writer.append_append]
  | ok a r =>
    have hsize : (w.append (BigEndian.encode 4 0 ++ r.toBytes)).size - w.size - 4 = r.size := by
      rw [Writer.size_append, List.length_append, BigEndian.length_encode, ← Writer.size_eq_length]
      omega
    simp only [behind, Writer.append_append, hsize, Writer.patch_append]

/-- A block behind its length is written uniformly if its body is. -/
theorem isUniform_withLength {body : PutM ε Unit} (hb : IsUniform body) :
    IsUniform (withLength body) := by
  intro w hw
  rw [withLength_of_isOpen hw hb, withLength_of_isOpen Writer.isOpen_empty hb]
  cases body Writer.empty with
  | error e r => simp [behind]
  | ok a r =>
    dsimp only
    by_cases hsize : r.size < 2 ^ 31
    · rw [if_pos hsize, if_pos hsize]
      simp [behind]
    · rw [if_neg hsize, if_neg hsize]
      simp [behind]

/-- The bytes of an action do not change in a layer above the packets. -/
@[simp]
theorem bytes?_liftM_eq_ok {x : Put Unit} {b : Bytes} :
    (liftM x : PutM ε Unit).bytes? = .ok b ↔ x.bytes? = .ok b := by
  simp only [bytes?_eq_ok, liftM_apply]
  cases x Writer.empty <;> simp

/-- A count is written in four bytes, and only below the limit of a signed number. -/
theorem bytes?_signedCount_eq_ok {n : Nat} {b : Bytes} :
    (signedCount n : PutM ε Unit).bytes? = .ok b ↔ n < 2 ^ 31 ∧ b = BigEndian.encode 4 n := by
  unfold signedCount
  split
  next h =>
    rw [bytes?_liftM_eq_ok, Put.int32, Put.uint32, Put.number, bytes?_raw, BigEndian.toNat_toUInt32_ofNat h,
      and_iff_right h, Except.ok.injEq, eq_comm]
  next h =>
    rw [bytes?_throw, iff_false_intro (fun hb => h hb.1 : ¬(n < 2 ^ 31 ∧ b = BigEndian.encode 4 n))]
    simp

/-- Bytes in front of a uniform action stand in front of what that action writes. -/
theorem bytes?_raw_bind_eq_ok {bytes b : Bytes} {f : Unit → PutM ε Unit} (hf : IsUniform (f ())) :
    ((liftM (Put.raw bytes) : PutM ε Unit) >>= f).bytes? = .ok b ↔
      ∃ p, (f ()).bytes? = .ok p ∧ b = bytes ++ p := by
  rw [bytes?_bind_eq_ok (isUniform_raw bytes).lift hf]
  simp

/-- Three pieces in a row are written as their concatenation. -/
theorem bytes?_three (p q r : Bytes) :
    (do Put.raw p; Put.raw q; Put.raw r : PutM ε Unit).bytes? = .ok (p ++ (q ++ r)) := by
  have hraw (bytes : Bytes) : IsUniform (liftM (Put.raw bytes) : PutM ε Unit) :=
    (isUniform_raw bytes).lift
  have hlast : (do Put.raw q; Put.raw r : PutM ε Unit).bytes? = .ok (q ++ r) :=
    bytes?_bind (hraw q) (hraw r) (by simp) (by simp)
  exact bytes?_bind (hraw p) ((hraw q).bind fun _ => hraw r) (by simp) hlast

/-- A count in front of a uniform action stands in front of what that action writes. -/
theorem bytes?_signedCount_bind_eq_ok {n : Nat} {b : Bytes} {f : Unit → PutM ε Unit}
    (hf : IsUniform (f ())) :
    ((signedCount n : PutM ε Unit) >>= f).bytes? = .ok b ↔
      n < 2 ^ 31 ∧ ∃ p, (f ()).bytes? = .ok p ∧ b = BigEndian.encode 4 n ++ p := by
  rw [bytes?_bind_eq_ok (isUniform_signedCount n) hf]
  simp only [bytes?_signedCount_eq_ok]
  constructor
  · rintro ⟨b₁, b₂, ⟨hn, rfl⟩, h₂, rfl⟩
    exact ⟨hn, b₂, h₂, rfl⟩
  · rintro ⟨hn, p, hp, rfl⟩
    exact ⟨_, p, ⟨hn, rfl⟩, hp, rfl⟩

/-- A block is written as its length and then its body. -/
theorem bytes?_withLength_eq_ok {body : PutM ε Unit} {b : Bytes} (hb : IsUniform body) :
    (withLength body).bytes? = .ok b ↔
      ∃ p, body.bytes? = .ok p ∧ p.length < 2 ^ 31 ∧ b = BigEndian.encode 4 p.length ++ p := by
  constructor
  · intro h
    obtain ⟨w, hw, rfl⟩ := bytes?_eq_ok.mp h
    rw [withLength_of_isOpen Writer.isOpen_empty hb] at hw
    split at hw
    · cases hw
    next r hr =>
      split at hw
      next hsize =>
        cases hw
        rw [Writer.size_eq_length] at hsize
        refine ⟨r.toBytes, bytes?_eq_ok.mpr ⟨r, hr, rfl⟩, hsize, ?_⟩
        rw [Writer.toBytes_append, Writer.toBytes_empty, List.nil_append, Writer.size_eq_length]
      · cases hw
  · rintro ⟨p, hp, hsize, rfl⟩
    obtain ⟨r, hr, rfl⟩ := bytes?_eq_ok.mp hp
    rw [← Writer.size_eq_length] at hsize ⊢
    refine bytes?_eq_ok.mpr ⟨Writer.empty.append (BigEndian.encode 4 r.size ++ r.toBytes), ?_, ?_⟩
    · rw [withLength_of_isOpen Writer.isOpen_empty hb, hr]
      exact if_pos hsize
    · rw [Writer.toBytes_append, Writer.toBytes_empty, List.nil_append]

end PutM

end GelClient.Packet
