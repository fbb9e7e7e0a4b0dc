import GelClient.Proofs.Packet.Request

/-!
# Writers of fixed capacity

`Put.Tracks` relates the run of an action on a growing writer to its run on a writer of fixed capacity: the
latter comes to the same as long as there is room for all bytes, and to an overflow if there is not. The steps
of an operation are tracked because they fill the room that they ask for, sequences because what follows writes
no less than nothing, and blocks because patching their slots needs no room. By induction, all parts are.
-/

namespace GelClient.Packet

open Actions (bind_of_ok bind_of_error bind_eq_ok)

namespace Writer

/-- The writer with a fixed capacity. -/
def limit (w : Writer) (capacity : Nat) : Writer := { w with capacity := some capacity }

/-- A capacity changes nothing of what a writer holds. -/
@[simp]
theorem size_limit (w : Writer) (capacity : Nat) : (w.limit capacity).size = w.size := rfl

/-- Appending leaves the capacity as it is. -/
private theorem limit_append (w : Writer) (bytes : Bytes) (capacity : Nat) :
    (w.append bytes).limit capacity = (w.limit capacity).append bytes := rfl

/-- Patching leaves the capacity as it is. -/
private theorem limit_patch (w : Writer) (offset n capacity : Nat) :
    (w.patch offset n).limit capacity = (w.limit capacity).patch offset n := by
  unfold patch limit
  rfl

/-- Patching keeps a writer open. -/
theorem IsOpen.patch {w : Writer} (h : w.IsOpen) (offset n : Nat) : (w.patch offset n).IsOpen := by
  unfold Writer.patch
  exact ⟨h.capacity_eq, h.closed_eq⟩

end Writer

namespace Put

variable {credit : Nat} {x y : Put Unit} {w v : Writer}

/-- What a writer of fixed capacity comes to where a growing one comes to `v`: to the same if there is room for
it, and to an overflow if there is not. -/
inductive Limited (capacity : Nat) (v : Writer) : EStateM.Result Error Writer Unit → Prop
  | within : v.size ≤ capacity → Limited capacity v (.ok () (v.limit capacity))
  | overflow {needed : Nat} {s : Writer} :
      capacity < v.size → Limited capacity v (.error (.overflow capacity needed) s)

/-- An action on a growing writer that a writer of fixed capacity goes along with, if it has room for `credit`
more bytes, which the action does write. -/
def Tracks (credit : Nat) (x : Put Unit) : Prop :=
  ∀ ⦃w v⦄, w.IsOpen → x w = .ok () v →
    v.IsOpen ∧ w.size + credit ≤ v.size ∧
      ∀ capacity, w.size + credit ≤ capacity → Limited capacity v (x (w.limit capacity))

/-- Doing nothing needs no room. -/
theorem tracks_pure : Tracks 0 (pure () : Put Unit) := by
  intro w v hw h
  cases h
  exact ⟨hw, Nat.le_refl _, fun capacity hle => .within hle⟩

/-- An overflow in the first of two actions is one of both, as what follows writes no less than nothing. -/
theorem Tracks.bind (hx : Tracks 0 x) (hy : Tracks 0 y) : Tracks 0 (do x; y) := by
  intro w v hw h
  obtain ⟨⟨⟩, u, hxu, hyv⟩ := bind_eq_ok.mp h
  obtain ⟨hu, hle, hlimited⟩ := hx hw hxu
  obtain ⟨hv, hle', hlimited'⟩ := hy hu hyv
  refine ⟨hv, by omega, fun capacity hcapacity => ?_⟩
  have hfirst := hlimited capacity hcapacity
  generalize hr : x (w.limit capacity) = r at hfirst
  cases hfirst with
  | within hfits =>
    rw [bind_of_ok hr]
    exact hlimited' capacity hfits
  | overflow hover =>
    rw [bind_of_error hr]
    exact .overflow (by omega)

/-- Asking a writer of fixed capacity for room. -/
theorem reserve_of_capacity {capacity : Nat} (hclosed : w.closed = false) (hc : w.capacity = some capacity)
    (needed : Nat) :
    reserve needed w =
      if capacity - w.size < needed then .error (.overflow capacity needed) w else .ok () w := by
  rw [reserve, Actions.get_bind_apply, hclosed, hc]
  simp only [Bool.false_eq_true, if_false]
  split <;> rfl

/-- A writer that is done gives no room. -/
theorem reserve_of_closed (hclosed : w.closed = true) (needed : Nat) :
    reserve needed w = .error .closed w := by
  rw [reserve, Actions.get_bind_apply, hclosed]
  rfl

/-- A writer of fixed capacity gives room that it has. -/
theorem reserve_limit (hw : w.IsOpen) {needed capacity : Nat} (h : w.size + needed ≤ capacity) :
    Put.reserve needed (w.limit capacity) = .ok () (w.limit capacity) := by
  rw [reserve_of_capacity (w := w.limit capacity) hw.closed_eq rfl, Writer.size_limit]
  exact if_neg (by omega)

/-- A writer of fixed capacity overflows where it has no room. -/
theorem reserve_limit_error (hw : w.IsOpen) {needed capacity : Nat} (hle : w.size ≤ capacity)
    (h : capacity < w.size + needed) :
    Put.reserve needed (w.limit capacity) = .error (.overflow capacity needed) (w.limit capacity) := by
  rw [reserve_of_capacity (w := w.limit capacity) hw.closed_eq rfl, Writer.size_limit]
  exact if_pos (by omega)

/-- Asking for room makes the room a credit. -/
theorem Tracks.reserve {needed : Nat} (hx : Tracks needed x) : Tracks 0 (do Put.reserve needed; x) := by
  intro w v hw h
  rw [bind_of_ok (PutM.reserve_of_isOpen hw needed)] at h
  obtain ⟨hv, hle, hlimited⟩ := hx hw h
  refine ⟨hv, by omega, fun capacity hcapacity => ?_⟩
  by_cases hroom : w.size + needed ≤ capacity
  · rw [bind_of_ok (reserve_limit hw hroom)]
    exact hlimited capacity hroom
  · rw [bind_of_error (reserve_limit_error hw hcapacity (by omega))]
    exact .overflow (by omega)

/-- Storing uses up the credit. -/
theorem Tracks.emit {bytes : Bytes} (hx : Tracks credit x) :
    Tracks (bytes.length + credit) (do Put.emit bytes; x) := by
  intro w v hw h
  obtain ⟨hv, hle, hlimited⟩ := hx (hw.append bytes) h
  rw [Writer.size_append] at hle hlimited
  exact ⟨hv, by omega, fun capacity hcapacity => hlimited capacity (by omega)⟩

/-- A block needs room for its slot and its body; patching the slot needs none. -/
theorem Tracks.withLength {body : Put Unit} (hx : Tracks 0 body) :
    Tracks 0 (PutM.withLength body : Put Unit) := by
  intro w v hw h
  rw [PutM.withLength_of_reserve (PutM.reserve_of_isOpen hw 4)] at h
  cases hr : body (w.append (BigEndian.encode 4 0)) with
  | error e r =>
    rw [hr] at h
    cases h
  | ok a u =>
    rw [hr] at h
    dsimp only at h
    split at h
    next hlength =>
      cases h
      obtain ⟨hu, hle, hlimited⟩ := hx (hw.append _) hr
      rw [Writer.size_append, BigEndian.length_encode] at hle hlimited
      refine ⟨hu.patch _ _, ?_, fun capacity hcapacity => ?_⟩
      · rw [Writer.size_patch]
        omega
      · by_cases hslot : w.size + 4 ≤ capacity
        · have hbody := hlimited capacity hslot
          rw [PutM.withLength_of_reserve (reserve_limit hw hslot), ← Writer.limit_append, Writer.size_limit]
          generalize body ((w.append (BigEndian.encode 4 0)).limit capacity) = r at hbody ⊢
          cases hbody with
          | within hfits =>
            dsimp only
            rw [Writer.size_limit, if_pos hlength, ← Writer.limit_patch]
            exact .within (by rwa [Writer.size_patch])
          | overflow hover =>
            exact .overflow (by rwa [Writer.size_patch])
        · rw [PutM.withLength_of_reserve_error (reserve_limit_error hw hcapacity (by omega))]
          exact .overflow (by rw [Writer.size_patch]; omega)
    next => cases h

end Put

/-- Steps that fill their room are gone along with. -/
theorem Request.Fills.tracks {credit : Nat} {requests : List Request} (h : Fills credit requests) :
    Put.Tracks credit (runAll requests) := by
  induction h with
  | nil => exact Put.tracks_pure
  | room _ ih => exact ih.reserve
  | store _ ih => exact ih.emit
  | refuse => intro w v _ h; cases h

namespace Part

/-- Parts are gone along with if each of them is. -/
theorem tracks_writeAll_of_forall {parts : List Part} (h : ∀ p ∈ parts, Put.Tracks 0 p.write) :
    Put.Tracks 0 (writeAll parts) := by
  induction parts with
  | nil =>
    rw [writeAll]
    exact Put.tracks_pure
  | cons p parts ih =>
    obtain ⟨hp, hparts⟩ := List.forall_mem_cons.mp h
    rw [writeAll]
    exact hp.bind (ih hparts)

/-- A writer of fixed capacity goes along with every part. -/
theorem tracks_write (p : Part) : Put.Tracks 0 p.write := by
  induction p with
  | datum d =>
    rw [write, ← d.runAll_requests]
    exact d.fills_requests.tracks
  | several parts ih =>
    rw [write]
    exact tracks_writeAll_of_forall ih
  | counted width items ih =>
    rw [write, ← Request.runAll_count]
    exact (Request.fills_count width _).tracks.bind (tracks_writeAll_of_forall ih)
  | block parts ih =>
    rw [write]
    exact (tracks_writeAll_of_forall ih).withLength

/-- A writer of fixed capacity goes along with parts, one after the other. -/
theorem tracks_writeAll (parts : List Part) : Put.Tracks 0 (writeAll parts) :=
  tracks_writeAll_of_forall fun p _ => p.tracks_write

/-- Where parts fail, one of them is the first to fail. -/
theorem exists_of_writeAll_error {parts : List Part} {w s : Writer} {e : Error}
    (h : writeAll parts w = .error e s) :
    ∃ front p back v, parts = front ++ p :: back ∧ writeAll front w = .ok () v ∧ p.write v = .error e s := by
  induction parts generalizing w with
  | nil =>
    rw [writeAll] at h
    cases h
  | cons p parts ih =>
    rw [writeAll] at h
    obtain hp | ⟨⟨⟩, u, hp, hparts⟩ := Actions.bind_eq_error.mp h
    · exact ⟨[], p, parts, w, rfl, rfl, hp⟩
    · obtain ⟨front, q, back, v, rfl, hfront, hq⟩ := ih hparts
      refine ⟨p :: front, q, back, v, rfl, ?_, hq⟩
      rw [writeAll, bind_of_ok hp]
      exact hfront

end Part

end GelClient.Packet
