import GelClient.Proofs.Packet.Convey
import Mathlib.Algebra.Group.Nat.Defs

/-!
# Bounds of what is read

A packet keeps a count in two bytes and a length in four, one bit of which is a sign. So nothing that is read is larger
than that, whatever the bytes are and wherever they come from: with `GetM.Gives action p`, every value that the action
gives has the property `p`. What was written beyond these bounds can not be read back.
-/

namespace GelClient.Packet

namespace GetM

variable {ε α β : Type} {x : GetM ε α} {f : α → GetM ε β} {p : α → Prop} {q : β → Prop}

/-- Whatever the action gives has a property. -/
def Gives (action : GetM ε α) (p : α → Prop) : Prop :=
  ∀ ⦃r a s⦄, action r = .ok a s → p a

/-- A value that is given without reading has the properties that it has. -/
theorem gives_pure {a : α} (h : p a) : Gives (pure a : GetM ε α) p := by
  intro r b s hr
  cases hr
  exact h

/-- Nothing is said of what gives no value. -/
theorem gives_throw (e : ε) : Gives (throw e : GetM ε α) p := by
  intro r a s hr
  cases hr

/-- What a sequence gives is given by its second action, behind a value of the first. -/
theorem Gives.bind (hx : Gives x p) (hf : ∀ a, p a → Gives (f a) q) : Gives (x >>= f) q := by
  intro r b s h
  obtain ⟨a, t, hxr, hft⟩ := Actions.bind_eq_ok.mp h
  exact hf a (hx hxr) hft

/-- Of any value at least that much is known. -/
theorem gives_true (x : GetM ε α) : Gives x fun _ => True := fun _ _ _ _ => trivial

/-- As many items are read as are asked for, each of them with its property, behind those already found. -/
theorem Gives.collect (h : Gives x p) (count : Nat) {found : List α} (hfound : ∀ a ∈ found, p a) :
    Gives (GetM.collect x count found) fun items => items.length = found.length + count ∧ ∀ a ∈ items, p a := by
  induction count generalizing found with
  | zero =>
    refine gives_pure ⟨List.length_reverse, fun a ha => hfound a (List.mem_reverse.mp ha)⟩
  | succ count ih =>
    refine h.bind fun a ha => ?_
    intro r items s hr
    obtain ⟨hlength, hitems⟩ := ih (List.forall_mem_cons.mpr ⟨ha, hfound⟩) hr
    rw [List.length_cons] at hlength
    exact ⟨by omega, hitems⟩

/-- As many items are read as are asked for, each of them with its property. -/
theorem Gives.times (h : Gives x p) (count : Nat) :
    Gives (GetM.times count x) fun items => items.length = count ∧ ∀ a ∈ items, p a := by
  intro r items s hr
  have hnone : ∀ a ∈ ([] : List α), p a := nofun
  obtain ⟨hlength, hitems⟩ := h.collect count hnone hr
  rw [List.length_nil, Nat.zero_add] at hlength
  exact ⟨hlength, hitems⟩

end GetM

namespace Get

open GetM (Gives gives_pure gives_throw gives_true)

/-- As many bytes are taken as are asked for. -/
theorem gives_raw (n : Nat) : Gives (raw n) fun bytes => bytes.length = n :=
  fun _ _ _ h => (rest_of_raw h).1

/-- A block that is read fits a signed length. -/
theorem gives_block : Gives block fun bytes => bytes.length < 2 ^ 31 := by
  refine (gives_true int32).bind fun length _ => ?_
  dsimp only
  split
  · intro r a s h
    cases h
  · intro r bytes s h
    have hlength : bytes.length = length.toNatClampNeg := gives_raw _ h
    have hlt : length.toInt < 2 ^ 31 := Int32.toInt_lt length
    rw [hlength, Int32.toNatClampNeg]
    omega

/-- A text that is read fits a signed length. -/
theorem gives_text : Gives text fun s => (Utf8.encode s).length < 2 ^ 31 := by
  refine gives_block.bind fun bytes hbytes => ?_
  unfold utf8
  split
  next s hs =>
    refine gives_pure ?_
    rw [Utf8.length_encode]
    exact Nat.lt_of_le_of_lt (Utf8.size_le_of_decode hs) hbytes
  · exact gives_throw _

/-- Items that are read behind a count of two bytes fit it. -/
theorem gives_counted {α : Type} {item : Get α} {p : α → Prop} (h : Gives item p) :
    Gives (do GetM.times (← uint16).toNat item) fun items => items.length < 2 ^ 16 ∧ ∀ a ∈ items, p a := by
  refine (gives_true uint16).bind fun count _ => ?_
  intro r items s hr
  obtain ⟨hlength, hitems⟩ := h.times count.toNat hr
  exact ⟨hlength ▸ count.toNat_lt, hitems⟩

/-- A pair of texts that is read fits signed lengths. -/
theorem gives_pair : Gives (do return (← text, ← text)) fun a : String × String =>
    (Utf8.encode a.1).length < 2 ^ 31 ∧ (Utf8.encode a.2).length < 2 ^ 31 :=
  gives_text.bind fun _ hname => gives_text.bind fun _ hvalue => gives_pure ⟨hname, hvalue⟩

/-- Annotations that are read fit their count and their lengths. -/
theorem gives_annotations : Gives annotations AnnotationsFit := by
  intro r items s h
  obtain ⟨hlength, hitems⟩ := gives_counted gives_pair h
  exact ⟨hlength, hitems⟩

/-- Items are read from behind their count, if it fits two bytes. -/
theorem reads_counted {α ι : Type} {item : Get α} {items : List ι} {bytes : ι → Bytes} {image : ι → α}
    (hlength : items.length < 2 ^ 16) (h : ∀ i ∈ items, GetM.Reads item (bytes i) (image i)) :
    GetM.Reads (do GetM.times (← uint16).toNat item) (BigEndian.encode 2 items.length ++ items.flatMap bytes)
      (items.map image) := by
  have hcount := reads_uint16 (UInt16.ofNat items.length)
  rw [UInt16.toNat_ofNat_of_lt' hlength] at hcount
  refine hcount.bind ?_
  rw [UInt16.toNat_ofNat_of_lt' hlength]
  have hpieces : ∀ piece ∈ items.map fun i => (bytes i, image i), GetM.Reads item piece.1 piece.2 := by
    intro piece hpiece
    obtain ⟨i, hi, rfl⟩ := List.mem_map.mp hpiece
    exact h i hi
  have hread := GetM.reads_times hpieces
  rw [List.length_map, List.map_map, List.flatMap_map] at hread
  exact hread

end Get

end GelClient.Packet
