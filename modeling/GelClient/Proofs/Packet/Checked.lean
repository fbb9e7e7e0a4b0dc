import GelClient.Proofs.Packet.Capacity
import Mathlib.Algebra.Group.Nat.Defs

/-!
# Checked writers

A writer computes the room that is left by a subtraction, stores without looking at its capacity once room was
given, and patches a slot at an offset that it remembers. `Checked` does all of this with the checks that the
writer leaves out, and has a fault for each. `Checked.agrees_write` shows, part by part, that no fault is ever
found on a writer that holds no more than its capacity, and that such a writer stays one.

Together with the tracking of growing writers this gives `Part.capped_of_writeAll`: a writer of fixed capacity
is a growing one with a limit.
-/

namespace GelClient.Packet

open Actions (bind_of_ok bind_of_error)

namespace Writer

/-- Whether the capacity of a writer, if it has one, is not below `n`. -/
def admits (w : Writer) (n : Nat) : Bool := w.capacity.all (n ≤ ·)

/-- A writer without a capacity admits any number of bytes. -/
theorem IsOpen.admits {w : Writer} (h : w.IsOpen) (n : Nat) : w.admits n = true := by
  rw [Writer.admits, h.capacity_eq, Option.all_none]

/-- A fixed capacity admits the sizes up to it. -/
theorem admits_iff {w : Writer} {capacity : Nat} (h : w.capacity = some capacity) (n : Nat) :
    w.admits n = true ↔ n ≤ capacity := by
  rw [admits, h, Option.all_some, decide_eq_true_eq]

/-- Patching leaves open what is admitted. -/
private theorem admits_patch (w : Writer) (offset m n : Nat) : (w.patch offset m).admits n = w.admits n := by
  unfold patch admits
  rfl

/-- What admits a number admits a smaller one. -/
theorem admits_of_le {w : Writer} {m n : Nat} (h : w.admits n = true) (hle : m ≤ n) : w.admits m = true := by
  cases hc : w.capacity with
  | none => rw [admits, hc, Option.all_none]
  | some capacity =>
    rw [admits_iff hc] at h ⊢
    exact Nat.le_trans hle h

end Writer

/-- What a checked writer can come to besides the failures that a writer reports. -/
inductive Fault where
  | refused (e : Error)
  /-- The position is past the capacity where the room that is left is computed. -/
  | overdrawn
  /-- A byte is stored past the capacity. -/
  | pastCapacity
  /-- The slot of a length is not there when it is patched. -/
  | slotLost

instance : OfPacketError Fault := ⟨.refused⟩

/-- A result without a fault. -/
def Fault.ofResult : EStateM.Result Error Writer Unit → EStateM.Result Fault Writer Unit
  | .ok a w => .ok a w
  | .error e w => .error (.refused e) w

namespace Checked

/-- Asks for room, and checks the subtraction that computes what is left. -/
def reserve (needed : Nat) : PutM Fault Unit := do
  let w ← get
  if w.admits w.size then Put.reserve needed else throw .overdrawn

/-- Stores bytes, and checks that there is room for them. -/
def emit (bytes : Bytes) : PutM Fault Unit := do
  let w ← get
  if w.admits (w.size + bytes.length) then Put.emit bytes else throw .pastCapacity

/-- Does a step of an operation. -/
def run : Request → PutM Fault Unit
  | .room needed => reserve needed
  | .store bytes => emit bytes
  | .refuse length => throw (.refused (.tooLarge length))

/-- Does steps one after the other. -/
def runAll (requests : List Request) : PutM Fault Unit := requests.forM run

/-- Writes a block behind its length, and checks that its slot is there when the length is known. -/
def withLength (body : PutM Fault Unit) : PutM Fault Unit := do
  reserve 4
  let offset := (← get).size
  emit (BigEndian.encode 4 0)
  body
  let size := (← get).size
  if size < offset + 4 then throw .slotLost
  else if size - offset - 4 < 2 ^ 31 then modify fun w => w.patch offset (size - offset - 4)
  else throw (.refused (.tooLarge (size - offset - 4)))

mutual

/-- Writes a part. -/
def write : Part → PutM Fault Unit
  | .datum d => runAll d.requests
  | .several parts => writeAll parts
  | .counted width items => do
    runAll (Request.count width items.length)
    writeAll items
  | .block parts => withLength (writeAll parts)

/-- Writes parts one after the other. -/
def writeAll : List Part → PutM Fault Unit
  | [] => pure ()
  | p :: parts => do
    write p
    writeAll parts

end

/-- A writer grew within its capacity. -/
structure Grew (w v : Writer) : Prop where
  capacity_eq : v.capacity = w.capacity
  size_le : w.size ≤ v.size
  admits : v.admits v.size = true

/-- A writer that changes grows on. -/
theorem Grew.trans {w v u : Writer} (h : Grew w v) (h' : Grew v u) : Grew w u :=
  ⟨h'.capacity_eq.trans h.capacity_eq, Nat.le_trans h.size_le h'.size_le, h'.admits⟩

/-- Patching stores nothing more. -/
theorem Grew.patch {w v : Writer} (h : Grew w v) (offset n : Nat) : Grew w (v.patch offset n) := by
  refine ⟨?_, ?_, ?_⟩
  · unfold Writer.patch
    exact h.capacity_eq
  · rw [Writer.size_patch]
    exact h.size_le
  · rw [Writer.size_patch, Writer.admits_patch]
    exact h.admits

/-- The checked action does what the action does and finds no fault, on every writer that has room for `credit`
more bytes. -/
def Agrees (credit : Nat) (x : Put Unit) (y : PutM Fault Unit) : Prop :=
  ∀ ⦃w⦄, w.admits (w.size + credit) = true →
    y w = Fault.ofResult (x w) ∧ Grew w (Actions.final (x w))

variable {credit : Nat} {x x' : Put Unit} {y y' : PutM Fault Unit} {w : Writer}

/-- Doing nothing agrees with doing nothing. -/
theorem agrees_pure : Agrees 0 (pure ()) (pure ()) :=
  fun _ hw => ⟨rfl, rfl, Nat.le_refl _, hw⟩

/-- Sequences agree if their actions do, as a writer that grew within its capacity has room for nothing more. -/
theorem Agrees.bind (h : Agrees 0 x y) (h' : Agrees 0 x' y') : Agrees 0 (do x; x') (do y; y') := by
  intro w hw
  obtain ⟨heq, hgrew⟩ := h hw
  cases hx : x w with
  | error e v =>
    rw [hx] at heq hgrew
    rw [bind_of_error hx, bind_of_error heq]
    exact ⟨rfl, hgrew⟩
  | ok a v =>
    rw [hx] at heq hgrew
    rw [bind_of_ok hx, bind_of_ok heq]
    obtain ⟨heq', hgrew'⟩ := h' (w := v) hgrew.admits
    exact ⟨heq', hgrew.trans hgrew'⟩

/-- Asking for room either fails or shows that there is room. -/
theorem reserve_cases (hw : w.admits w.size = true) (needed : Nat) :
    (∃ e, Put.reserve needed w = .error e w) ∨
      Put.reserve needed w = .ok () w ∧ w.admits (w.size + needed) = true := by
  cases hclosed : w.closed with
  | true => exact .inl ⟨.closed, Put.reserve_of_closed hclosed needed⟩
  | false =>
    cases hc : w.capacity with
    | none =>
      have hopen : w.IsOpen := ⟨hc, hclosed⟩
      exact .inr ⟨PutM.reserve_of_isOpen hopen needed, hopen.admits _⟩
    | some capacity =>
      rw [Writer.admits_iff hc] at hw ⊢
      rw [Put.reserve_of_capacity hclosed hc]
      split
      next hshort => exact .inl ⟨_, rfl⟩
      next hroom => exact .inr ⟨rfl, by omega⟩

/-- A writer within its capacity is not overdrawn. -/
theorem reserve_eq (hw : w.admits w.size = true) (needed : Nat) :
    reserve needed w = Fault.ofResult (Put.reserve needed w) := by
  rw [reserve, Actions.get_bind_apply, if_pos hw, PutM.liftM_apply]
  cases Put.reserve needed w <;> rfl

/-- Asking for room makes the room a credit. -/
theorem Agrees.reserve {needed : Nat} (h : Agrees needed x y) :
    Agrees 0 (do Put.reserve needed; x) (do Checked.reserve needed; y) := by
  intro w hw
  have heq := reserve_eq hw needed
  obtain ⟨e, he⟩ | ⟨hok, hroom⟩ := reserve_cases hw needed
  · rw [he] at heq
    rw [bind_of_error he, bind_of_error heq]
    exact ⟨rfl, rfl, Nat.le_refl _, hw⟩
  · rw [hok] at heq
    rw [bind_of_ok hok, bind_of_ok heq]
    exact h hroom

/-- Bytes that there is room for are stored. -/
theorem emit_eq {bytes : Bytes} (hw : w.admits (w.size + bytes.length) = true) :
    emit bytes w = .ok () (w.append bytes) := by
  rw [emit, Actions.get_bind_apply, if_pos hw, PutM.liftM_apply]
  rfl

/-- A writer grows by what there is room for. -/
theorem grew_append {bytes : Bytes} (hw : w.admits (w.size + bytes.length) = true) :
    Grew w (w.append bytes) := by
  refine ⟨rfl, ?_, ?_⟩
  · rw [Writer.size_append]
    omega
  · rw [Writer.size_append]
    exact hw

/-- Storing uses up the credit. -/
theorem Agrees.emit {bytes : Bytes} (h : Agrees credit x y) :
    Agrees (bytes.length + credit) (do Put.emit bytes; x) (do Checked.emit bytes; y) := by
  intro w hw
  have hstore : w.admits (w.size + bytes.length) = true := Writer.admits_of_le hw (by omega)
  have hroom : (w.append bytes).admits ((w.append bytes).size + credit) = true := by
    rw [Writer.size_append, Nat.add_assoc]
    exact hw
  have hemit : Put.emit bytes w = .ok () (w.append bytes) := rfl
  rw [bind_of_ok hemit, bind_of_ok (emit_eq hstore)]
  obtain ⟨heq, hgrew⟩ := h hroom
  exact ⟨heq, (grew_append hstore).trans hgrew⟩

/-- Steps that fill their room find no fault. -/
theorem agrees_runAll {requests : List Request} (h : Request.Fills credit requests) :
    Agrees credit (Request.runAll requests) (runAll requests) := by
  induction h with
  | nil => exact agrees_pure
  | room _ ih => exact ih.reserve
  | store _ ih => exact ih.emit
  | refuse =>
    intro w hw
    exact ⟨rfl, rfl, Nat.le_refl _, Writer.admits_of_le hw (Nat.le_add_right _ _)⟩

/-- A block finds its slot again, as its body only grows the writer. -/
theorem Agrees.withLength {body : Put Unit} {checked : PutM Fault Unit} (h : Agrees 0 body checked) :
    Agrees 0 (PutM.withLength body) (Checked.withLength checked) := by
  intro w hw
  have heq := reserve_eq hw 4
  obtain ⟨e, he⟩ | ⟨hok, hroom⟩ := reserve_cases hw 4
  · rw [he] at heq
    rw [Checked.withLength, bind_of_error heq, PutM.withLength_of_reserve_error he]
    exact ⟨rfl, rfl, Nat.le_refl _, hw⟩
  · rw [hok] at heq
    have hroom : w.admits (w.size + (BigEndian.encode 4 0).length) = true := hroom
    have hslot := grew_append hroom
    obtain ⟨hbody, hgrew⟩ := h (w := w.append (BigEndian.encode 4 0)) hslot.admits
    rw [Checked.withLength, bind_of_ok heq, Actions.get_bind_apply, bind_of_ok (emit_eq hroom),
      PutM.withLength_of_reserve hok]
    cases hr : body (w.append (BigEndian.encode 4 0)) with
    | error e v =>
      rw [hr] at hbody hgrew
      rw [bind_of_error hbody]
      exact ⟨rfl, hslot.trans hgrew⟩
    | ok a v =>
      rw [hr] at hbody hgrew
      have hsize : w.size + 4 ≤ v.size := by
        have hle := hgrew.size_le
        rwa [Writer.size_append, BigEndian.length_encode] at hle
      have hall := hslot.trans hgrew
      rw [bind_of_ok hbody, Actions.get_bind_apply, if_neg (Nat.not_lt.mpr hsize)]
      dsimp only
      split
      · exact ⟨rfl, hall.patch _ _⟩
      · exact ⟨rfl, hall⟩

/-- Parts find no fault if none of them does. -/
theorem agrees_writeAll_of_forall {parts : List Part} (h : ∀ p ∈ parts, Agrees 0 p.write (write p)) :
    Agrees 0 (Part.writeAll parts) (writeAll parts) := by
  induction parts with
  | nil =>
    rw [Part.writeAll, writeAll]
    exact agrees_pure
  | cons p parts ih =>
    obtain ⟨hp, hparts⟩ := List.forall_mem_cons.mp h
    rw [Part.writeAll, writeAll]
    exact hp.bind (ih hparts)

/-- No part finds a fault on a writer within its capacity. -/
theorem agrees_write (p : Part) : Agrees 0 p.write (write p) := by
  induction p with
  | datum d =>
    rw [Part.write, write, ← d.runAll_requests]
    exact agrees_runAll d.fills_requests
  | several parts ih =>
    rw [Part.write, write]
    exact agrees_writeAll_of_forall ih
  | counted width items ih =>
    rw [Part.write, write, ← Request.runAll_count]
    exact (agrees_runAll (Request.fills_count width _)).bind (agrees_writeAll_of_forall ih)
  | block parts ih =>
    rw [Part.write, write]
    exact (agrees_writeAll_of_forall ih).withLength

/-- Parts find no fault, one after the other. -/
theorem agrees_writeAll (parts : List Part) : Agrees 0 (Part.writeAll parts) (writeAll parts) :=
  agrees_writeAll_of_forall fun p _ => agrees_write p

end Checked

/-- A writer that handed out its bytes: whatever is asked of it, it fails and stays as it is. Only a count that
does not fit its width is an error before. -/
structure Writer.Finished (v : Writer) : Prop where
  finish_eq : Put.finish v = .error .closed v
  datum_eq : ∀ d : Datum, d.CountFits → d.write v = .error .closed v
  counted_eq : ∀ (α : Type) (width : CountWidth) (items : List α) (item : α → Put Unit),
    items.length < width.limit → PutM.counted width items item v = .error .closed v
  block_eq : ∀ body : Put Unit, PutM.withLength body v = .error .closed v

/-- A closed writer is finished. -/
theorem Writer.finished_of_closed {v : Writer} (h : v.closed = true) : v.Finished := by
  have hsteps (needed : Nat) (rest : List Request) :
      Request.runAll (.room needed :: rest) v = .error .closed v :=
    bind_of_error (Put.reserve_of_closed h needed)
  refine ⟨?_, fun d hd => ?_, fun α width items item hlt => ?_, fun body => ?_⟩
  · rw [Put.finish, Actions.get_bind_apply, h]
    rfl
  · obtain ⟨needed, rest, hd⟩ := Datum.exists_requests_eq hd
    rw [← d.runAll_requests, hd]
    exact hsteps needed rest
  · obtain ⟨needed, rest, hcount⟩ := Request.exists_count_eq hlt
    rw [Put.counted_eq, ← Request.runAll_count, hcount]
    exact bind_of_error (hsteps needed rest)
  · exact PutM.withLength_of_reserve_error (Put.reserve_of_closed h 4) body

/-- Handing out its bytes closes a writer. -/
theorem Put.finished_of_finish {w v : Writer} {b : Bytes} (h : finish w = .ok b v) : v.Finished := by
  apply Writer.finished_of_closed
  rw [finish, Actions.get_bind_apply] at h
  split at h
  · cases h
  · cases h
    rfl

namespace Part

/-- What comes of parts on a writer of fixed capacity that come to `bytes` on a growing one. -/
structure Capped (capacity : Nat) (parts : List Part) (bytes : Bytes) : Prop where
  /-- They are written if and only if there is room for all bytes. -/
  ok_iff : (∃ w, writeAll parts (Writer.fixed capacity) = .ok () w) ↔ bytes.length ≤ capacity
  /-- If they are written, then with the same bytes. -/
  toBytes_eq : ∀ w, writeAll parts (Writer.fixed capacity) = .ok () w → w.toBytes = bytes
  /-- If they are not, one of them is the first to fail, with an overflow. -/
  overflow : capacity < bytes.length → ∃ front p back v needed s, parts = front ++ p :: back ∧
    writeAll front (Writer.fixed capacity) = .ok () v ∧ p.write v = .error (.overflow capacity needed) s
  /-- No step finds the writer overdrawn, stores past the capacity or misses its slot. -/
  checked_eq : Checked.writeAll parts (Writer.fixed capacity) =
    Fault.ofResult (writeAll parts (Writer.fixed capacity))
  /-- However it ends, no byte past the capacity is stored. -/
  size_le : (Actions.final (writeAll parts (Writer.fixed capacity))).size ≤ capacity

/-- A writer of fixed capacity is a growing one with a limit: what it makes of parts that a growing writer
takes is decided by the number of their bytes alone. Every writer that handed out its bytes takes no more. -/
theorem capped_of_writeAll {parts : List Part} {bytes : Bytes} (h : (writeAll parts).bytes? = .ok bytes)
    (capacity : Nat) :
    Capped capacity parts bytes ∧ ∀ w b v, Put.finish w = .ok b v → v.Finished := by
  obtain ⟨v, hv, rfl⟩ := PutM.bytes?_eq_ok.mp h
  obtain ⟨-, -, hlimited⟩ := tracks_writeAll parts Writer.isOpen_empty hv
  have hcapped : Put.Limited capacity v (writeAll parts (Writer.fixed capacity)) :=
    hlimited capacity (Nat.zero_le capacity)
  have hadmits : (Writer.fixed capacity).admits ((Writer.fixed capacity).size + 0) = true :=
    (Writer.admits_iff rfl _).mpr (Nat.zero_le capacity)
  obtain ⟨hchecked, hgrew⟩ := Checked.agrees_writeAll parts hadmits
  have hsize := (Writer.admits_iff (hgrew.capacity_eq.trans rfl) _).mp hgrew.admits
  have hlength : v.toBytes.length = v.size := v.size_eq_length.symm
  refine ⟨?_, fun _ _ _ hfinish => Put.finished_of_finish hfinish⟩
  cases hr : writeAll parts (Writer.fixed capacity) with
  | ok a w =>
    rw [hr] at hcapped
    cases hcapped with
    | within hle =>
      constructor
      case ok_iff => exact ⟨fun _ => hlength ▸ hle, fun _ => ⟨_, hr⟩⟩
      case toBytes_eq =>
        intro w hw
        cases hr.symm.trans hw
        rfl
      case overflow => exact fun hlt => absurd hle (by omega)
      case checked_eq => exact hchecked
      case size_le => exact hsize
  | error e s =>
    rw [hr] at hcapped
    cases hcapped with
    | overflow hlt =>
      have hfails (w : Writer) : writeAll parts (Writer.fixed capacity) ≠ .ok () w := by
        rw [hr]
        intro hok
        cases hok
      constructor
      case ok_iff => exact ⟨fun ⟨w, hw⟩ => absurd hw (hfails w), fun hle => by omega⟩
      case toBytes_eq => exact fun w hw => absurd hw (hfails w)
      case overflow =>
        intro _
        obtain ⟨front, p, back, u, hparts, hfront, hp⟩ := exists_of_writeAll_error hr
        exact ⟨front, p, back, u, _, s, hparts, hfront, hp⟩
      case checked_eq => exact hchecked
      case size_le => exact hsize

/-- A byte, a block of a text and an identifier, and an absent value. -/
def recordParts : List Part :=
  [.datum (.uint8 9), .block [.datum (.text "ab"), .datum (.uuid .nil)], .datum (.optional none)]

/-- The bytes of `recordParts`. -/
def recordBytes : Bytes :=
  [9, 0, 0, 0, 22, 0, 0, 0, 2, 97, 98] ++ List.replicate 16 0 ++ [255, 255, 255, 255]

/-- Room for 31 bytes is enough for the record, and room for 30 is not; a writer that handed out nothing is
finished too. -/
theorem capped_of_writeAll_record :
    Capped 31 recordParts recordBytes ∧ Capped 30 recordParts recordBytes ∧
      ({ capacity := some 30, closed := true } : Writer).Finished := by
  have hwritten : (writeAll recordParts).bytes? = .ok recordBytes := rfl
  have hfinish : Put.finish (Writer.fixed 30) = .ok [] { capacity := some 30, closed := true } := rfl
  exact ⟨(capped_of_writeAll hwritten 31).1, (capped_of_writeAll hwritten 30).1,
    (capped_of_writeAll hwritten 30).2 _ _ _ hfinish⟩

end Part

end GelClient.Packet
