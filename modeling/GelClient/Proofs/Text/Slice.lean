import GelClient.Proofs.Utf8
import GelClient.Text.Split

/-!
# Slices of a shared text

A reader that copies nothing cuts a text by the offsets of its bytes. An offset may be out of range or inside of
a character, and a part that is to be shared may lie outside of what shares it: here every such cut comes to
nothing. `Slice.Spells` says which characters a slice stands for. Such a slice is always cut where a separator was
found, into slices for the characters on both sides.
-/

namespace GelClient.Text

open Utf8 (decode isBoundary isContinuation)

/-- The bytes of characters. -/
def bytesOf (text : List Char) : Bytes := text.flatMap String.utf8EncodeChar

/-- The bytes of characters one after the other. -/
theorem bytesOf_append (front rest : List Char) : bytesOf (front ++ rest) = bytesOf front ++ bytesOf rest :=
  List.flatMap_append

/-- Only no characters have no bytes. -/
theorem bytesOf_eq_nil {text : List Char} : bytesOf text = [] ↔ text = [] := by
  cases text with
  | nil => exact ⟨fun _ => rfl, fun _ => rfl⟩
  | cons c text =>
    rw [bytesOf, List.flatMap_cons, List.append_eq_nil_iff]
    exact ⟨fun h => absurd h.1 String.utf8EncodeChar_ne_nil, fun h => nomatch h⟩

/-- Characters are read back from their bytes. -/
theorem decode_bytesOf (text : List Char) : decode (bytesOf text) = .ok (String.ofList text) := by
  rw [decode, bytesOf, Utf8.decodeFrom_flatMap, List.reverse_nil, List.nil_append]
  rfl

/-- No character begins with a byte that continues one. -/
private theorem isContinuation_of_isUTF8FirstByte {b : UInt8} (h : b.IsUTF8FirstByte) : isContinuation b = false := by
  have hall (n : Fin 256) : (UInt8.ofFin n).IsUTF8FirstByte → isContinuation (UInt8.ofFin n) = false := by
    revert n
    decide +kernel
  exact hall b.toFin h

/-- There is a boundary between characters and those that follow. -/
theorem isBoundary_length (front rest : List Char) :
    isBoundary (bytesOf (front ++ rest)) (bytesOf front).length = true := by
  rw [bytesOf_append]
  cases rest with
  | nil => simp [isBoundary, bytesOf]
  | cons c rest =>
    have hc : 0 < (String.utf8EncodeChar c).length := List.length_pos_iff.mpr String.utf8EncodeChar_ne_nil
    have hfirst : (String.utf8EncodeChar c)[0].IsUTF8FirstByte :=
      UInt8.isUTF8FirstByte_getElem_zero_utf8EncodeChar
    have hget : (bytesOf front ++ bytesOf (c :: rest))[(bytesOf front).length]? =
        some (String.utf8EncodeChar c)[0] := by
      rw [List.getElem?_append_right (Nat.le_refl _), Nat.sub_self, bytesOf, List.flatMap_cons,
        List.getElem?_append_left hc, List.getElem?_eq_getElem hc]
    rw [isBoundary, hget]
    dsimp only
    rw [isContinuation_of_isUTF8FirstByte hfirst]
    rfl

/-- A part of a shared text, by the offsets of its first byte and of the byte behind its last. -/
structure Slice where
  start : Nat
  stop : Nat

namespace Slice

/-- The slice of all bytes. -/
def whole (buffer : Bytes) : Slice := ⟨0, buffer.length⟩

/-- The bytes of a slice. -/
def bytes (buffer : Bytes) (s : Slice) : Bytes := (buffer.drop s.start).take (s.stop - s.start)

/-- The text of a slice, if it is one. -/
def text? (buffer : Bytes) (s : Slice) : Option String := (decode (s.bytes buffer)).toOption

/-- The part of a slice before an offset, which has to be a boundary. -/
def before? (buffer : Bytes) (s : Slice) (offset : Nat) : Option Slice :=
  if isBoundary (s.bytes buffer) offset then some ⟨s.start, s.start + offset⟩ else none

/-- The part of a slice from an offset on, which has to be a boundary. -/
def from? (buffer : Bytes) (s : Slice) (offset : Nat) : Option Slice :=
  if isBoundary (s.bytes buffer) offset then some ⟨s.start + offset, s.stop⟩ else none

/-- Shares a part of a slice, which has to lie inside of the slice unless it is empty. What is empty is shared with
no one. -/
def share? (owner part : Slice) : Option Slice :=
  if part.start = part.stop then some ⟨0, 0⟩
  else if owner.start ≤ part.start ∧ part.stop ≤ owner.stop then some part
  else none

/-- Looks for a separator, and cuts a slice before and behind it. -/
def cut? (split : List Char → Option (List Char × List Char)) (separator : List Char) (buffer : Bytes) (s : Slice) :
    Option (Option (Slice × Slice)) := do
  let text ← s.text? buffer
  match split text.toList with
  | none => return none
  | some (front, _) =>
    let offset := (bytesOf front).length
    return some (← s.before? buffer offset, ← s.from? buffer (offset + (bytesOf separator).length))

/-- A slice stands for characters that are whole in the buffer. -/
def Spells (buffer : Bytes) (s : Slice) (text : List Char) : Prop :=
  ∃ front rest, buffer = bytesOf (front ++ text ++ rest) ∧ s.start = (bytesOf front).length ∧
    s.stop = s.start + (bytesOf text).length

/-- One slice is inside of the other. -/
def Within (s t : Slice) : Prop := t.start ≤ s.start ∧ s.stop ≤ t.stop

variable {buffer : Bytes} {s : Slice} {text front rest : List Char}

/-- All bytes stand for all characters. -/
theorem spells_whole (text : List Char) : Spells (bytesOf text) (whole (bytesOf text)) text :=
  ⟨[], [], by rw [List.append_nil, List.nil_append], rfl, (Nat.zero_add _).symm⟩

/-- A slice has the bytes of its characters. -/
theorem Spells.bytes_eq (h : Spells buffer s text) : s.bytes buffer = bytesOf text := by
  obtain ⟨front, rest, rfl, hstart, hstop⟩ := h
  rw [bytes, hstop, Nat.add_sub_cancel_left, hstart, List.append_assoc, bytesOf_append, List.drop_left,
    bytesOf_append, List.take_left]

/-- A slice has the text of its characters. -/
theorem Spells.text?_eq (h : Spells buffer s text) : s.text? buffer = some (String.ofList text) := by
  rw [text?, h.bytes_eq, decode_bytesOf]
  rfl

/-- A slice lies inside of the buffer. -/
theorem Spells.within_whole (h : Spells buffer s text) : s.Within (whole buffer) := by
  obtain ⟨front, rest, rfl, hstart, hstop⟩ := h
  refine ⟨Nat.zero_le _, ?_⟩
  rw [whole, hstop, hstart, bytesOf_append, bytesOf_append, List.length_append, List.length_append]
  exact Nat.le_add_right _ _

/-- A slice is empty if it stands for no characters. -/
theorem Spells.start_eq_stop (h : Spells buffer s text) : s.start = s.stop ↔ text = [] := by
  obtain ⟨-, -, -, -, hstop⟩ := h
  rw [hstop, ← bytesOf_eq_nil, ← List.length_eq_zero_iff]
  omega

/-- Cutting before the end of some characters succeeds. -/
theorem Spells.before? (h : Spells buffer s (front ++ rest)) :
    ∃ t, s.before? buffer (bytesOf front).length = some t ∧ Spells buffer t front ∧ t.Within s := by
  refine ⟨_, if_pos ?_, ?_, Nat.le_refl _, ?_⟩
  · rw [h.bytes_eq]
    exact isBoundary_length front rest
  · obtain ⟨before, behind, rfl, hstart, hstop⟩ := h
    exact ⟨before, rest ++ behind, by simp only [List.append_assoc], hstart, rfl⟩
  · obtain ⟨-, -, -, -, hstop⟩ := h
    rw [hstop, bytesOf_append, List.length_append]
    dsimp only
    omega

/-- Cutting behind the end of some characters succeeds. -/
theorem Spells.from? (h : Spells buffer s (front ++ rest)) :
    ∃ t, s.from? buffer (bytesOf front).length = some t ∧ Spells buffer t rest ∧ t.Within s := by
  refine ⟨_, if_pos ?_, ?_, Nat.le_add_right _ _, Nat.le_refl _⟩
  · rw [h.bytes_eq]
    exact isBoundary_length front rest
  · obtain ⟨before, behind, rfl, hstart, hstop⟩ := h
    refine ⟨before ++ front, behind, by simp only [List.append_assoc], ?_, ?_⟩
    · rw [bytesOf_append, List.length_append, hstart]
    · rw [hstop, bytesOf_append, List.length_append]
      dsimp only
      omega

/-- What lies inside of a slice is shared, and stands for the same characters. -/
theorem Spells.share? {owner : Slice} (h : Spells buffer s text) (hs : s.Within owner) :
    ∃ t, owner.share? s = some t ∧ Spells buffer t text := by
  by_cases hempty : text = []
  · have hnone := h.start_eq_stop.mpr hempty
    obtain ⟨before, behind, hbuffer, -, -⟩ := h
    subst hempty
    rw [List.append_nil] at hbuffer
    refine ⟨⟨0, 0⟩, if_pos hnone, [], before ++ behind, ?_, rfl, rfl⟩
    rw [List.nil_append, List.nil_append]
    exact hbuffer
  · have hsome : s.start ≠ s.stop := fun heq => hempty (h.start_eq_stop.mp heq)
    refine ⟨s, ?_, h⟩
    rw [Slice.share?, if_neg hsome]
    exact if_pos hs

section Cut

variable {split : List Char → Option (List Char × List Char)}

/-- A slice without the separator is not cut. -/
theorem Spells.cut?_of_none (separator : List Char) (h : Spells buffer s text) (hsplit : split text = none) :
    s.cut? split separator buffer = some none := by
  rw [cut?, h.text?_eq, Option.bind_eq_bind, Option.bind_some, String.toList_ofList, hsplit]
  rfl

/-- A slice is cut into slices for the parts of its characters. -/
theorem Spells.cut?_of_some (separator : List Char) (h : Spells buffer s text)
    (hsplit : split text = some (front, rest)) (htext : text = front ++ (separator ++ rest)) :
    ∃ t u, s.cut? split separator buffer = some (some (t, u)) ∧ Spells buffer t front ∧ t.Within s ∧
      Spells buffer u rest ∧ u.Within s := by
  have hfront := h
  rw [htext] at hfront
  obtain ⟨t, ht, htfront, hts⟩ := hfront.before?
  have hrest := h
  rw [htext, ← List.append_assoc] at hrest
  obtain ⟨u, hu, hurest, hus⟩ := hrest.from?
  refine ⟨t, u, ?_, htfront, hts, hurest, hus⟩
  rw [bytesOf_append, List.length_append] at hu
  rw [cut?, h.text?_eq, Option.bind_eq_bind, Option.bind_some, String.toList_ofList, hsplit]
  dsimp only
  rw [ht, hu]
  rfl

end Cut

end Slice

end GelClient.Text
