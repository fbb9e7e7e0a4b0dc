import GelClient.Proofs.Packet.Append
import GelClient.Proofs.Packet.Read
import GelClient.Proofs.Utf8
import Mathlib.Data.List.Forall2

/-!
# What is written is read

`Conveys write read a` says that a writing action brings a value to a reading action: it writes some
bytes, wherever it stands, and from these bytes the reading action takes `a`, whatever follows them. The
fields of packets are conveyed one by one, and sequences and counted lists from their parts, so that
nobody has to name the bytes in between.
-/

namespace GelClient

open Packet (Put PutM Get GetM)
open Packet.PutM (IsUniform)
open Packet.GetM (Reads)

namespace Packet

namespace Get

/-- Bytes that are a text are read as this text. -/
theorem reads_utf8 (text : String) : Reads (utf8 (Utf8.encode text)) [] text := by
  rw [utf8, Utf8.decode_encode]
  exact GetM.reads_pure text

/-- A text is read from behind its length. -/
theorem reads_text {text : String} (h : (Utf8.encode text).length < 2 ^ 31) :
    Reads Get.text (BigEndian.encode 4 (Utf8.encode text).length ++ Utf8.encode text) text :=
  (reads_block h).bind_nil (reads_utf8 text)

/-- A negative length is an absent value. -/
theorem reads_block?_of_neg {length : Int32} (h : length < 0) :
    Reads block? (BigEndian.encode 4 length.toUInt32.toNat) none := by
  refine (reads_int32 length).bind_nil ?_
  rw [if_pos h]
  exact GetM.reads_pure none

end Get

namespace Put

/-- Bytes that a length can count are written behind their length, as one piece. -/
theorem block_of_isOpen {w : Writer} (hw : w.IsOpen) {bytes : Bytes} (h : bytes.length < 2 ^ 32) :
    block bytes w = .ok () (w.append (BigEndian.encode 4 bytes.length ++ bytes)) := by
  rw [block, Actions.bind_of_ok (PutM.reserve_of_isOpen hw _), if_pos h, emit, emit,
    Actions.modify_bind_apply, Actions.modify_apply, Writer.append_append]

end Put

/-- What is written one item after the other is one piece for each item. -/
theorem exists_pieces_of_forM {ε ι κ : Type} {write : ι → PutM ε PUnit} {bytes : κ → Bytes}
    {related : ι → κ → Prop} {items : List ι} {b : Bytes} (hu : ∀ i ∈ items, IsUniform (write i))
    (hwrite : ∀ i ∈ items, ∀ p, (write i).bytes? = .ok p → ∃ k, related i k ∧ p = bytes k)
    (h : (items.forM write).bytes? = .ok b) :
    ∃ pieces, List.Forall₂ related items pieces ∧ b = pieces.flatMap bytes := by
  induction items generalizing b with
  | nil =>
    rw [List.forM, PutM.bytes?_pure] at h
    cases h
    exact ⟨[], .nil, rfl⟩
  | cons i items ih =>
    obtain ⟨hui, hus⟩ := List.forall_mem_cons.mp hu
    obtain ⟨hi, hitems⟩ := List.forall_mem_cons.mp hwrite
    rw [List.forM, PutM.bytes?_bind_eq_ok hui (PutM.isUniform_forM items hus)] at h
    obtain ⟨p, q, hp, hq, rfl⟩ := h
    obtain ⟨k, hk, rfl⟩ := hi p hp
    obtain ⟨pieces, hpieces, rfl⟩ := ih hus hitems hq
    exact ⟨k :: pieces, .cons hk hpieces, rfl⟩

/-- Items written one after the other are read one after the other, if each of them is read back. -/
theorem reads_times_of_forM {ε ε' α β : Type} {items : List α} {write : α → PutM ε PUnit}
    {read : GetM ε' β} {image : α → β} {b : Bytes} (hu : ∀ a ∈ items, IsUniform (write a))
    (hr : ∀ a ∈ items, ∀ p, (write a).bytes? = .ok p → Reads read p (image a))
    (h : (items.forM write).bytes? = .ok b) :
    Reads (GetM.times items.length read) b (items.map image) := by
  obtain ⟨pieces, hpieces, rfl⟩ : ∃ pieces : List (Bytes × β),
      List.Forall₂ (fun a piece => Reads read piece.1 piece.2 ∧ image a = piece.2) items pieces ∧
        b = pieces.flatMap (·.1) :=
    exists_pieces_of_forM hu (fun a ha p hp => ⟨(p, image a), ⟨hr a ha p hp, rfl⟩, rfl⟩) h
  have hlist : items.map image = pieces.map (·.2) := by
    rw [← List.forall₂_eq_eq_eq]
    exact List.rel_map (fun a piece hpiece => hpiece.2) hpieces
  have hflip : List.Forall₂ (fun piece a => Reads read piece.1 piece.2 ∧ image a = piece.2) pieces items :=
    hpieces.flip
  rw [hlist, hpieces.length_eq]
  exact GetM.reads_times ((List.forall₂_and_left pieces items).mp hflip).1

/-- Writing brings a value to the reader, in some bytes that nothing around them changes. -/
def Conveys {ε ε' α : Type} (write : PutM ε Unit) (read : GetM ε' α) (a : α) : Prop :=
  IsUniform write ∧ ∃ b, write.bytes? = .ok b ∧ Reads read b a

namespace Conveys

variable {ε ε' α β γ : Type} {write rest : PutM ε Unit} {read : GetM ε' α} {f : α → GetM ε' β} {a : α}
  {b : β}

/-- One piece of bytes is conveyed if it is read. -/
theorem of_raw {bytes : Bytes} (h : Reads read bytes a) : Conveys (Put.raw bytes) read a :=
  ⟨PutM.isUniform_raw bytes, bytes, PutM.bytes?_raw bytes, h⟩

/-- What is written one after the other is read one after the other. -/
theorem bind (h : Conveys write read a) (hf : Conveys rest (f a) b) :
    Conveys (do write; rest) (read >>= f) b := by
  obtain ⟨hu, p, hp, hr⟩ := h
  obtain ⟨hu', q, hq, hr'⟩ := hf
  exact ⟨hu.bind fun _ => hu', p ++ q, PutM.bytes?_bind hu hu' hp hq, hr.bind hr'⟩

/-- A value may be converted after the reading. -/
theorem bind_pure {f : α → β} (h : Conveys write read a) :
    Conveys write (read >>= fun a => Pure.pure (f a)) (f a) := by
  obtain ⟨hu, p, hp, hr⟩ := h
  exact ⟨hu, p, hp, hr.bind_pure⟩

/-- A value may be checked after the reading. -/
theorem bind_nil (h : Conveys write read a) (hf : Reads (f a) [] b) :
    Conveys write (read >>= f) b := by
  obtain ⟨hu, p, hp, hr⟩ := h
  exact ⟨hu, p, hp, hr.bind_nil hf⟩

/-- A field of a packet is conveyed in a layer above the packets. -/
theorem lift [OfPacketError ε'] {read : Get α} (h : Conveys write read a) :
    Conveys write (liftM read : GetM ε' α) a := by
  obtain ⟨hu, p, hp, hr⟩ := h
  exact ⟨hu, p, hp, hr.lift⟩

/-- Items are conveyed one after the other if each of them is. -/
theorem times {items : List α} {item : α → PutM ε Unit} (h : ∀ a ∈ items, Conveys (item a) read a) :
    Conveys (items.forM item) (GetM.times items.length read) items := by
  have hu : ∀ a ∈ items, IsUniform (item a) := fun a ha => (h a ha).1
  have hr : ∀ a ∈ items, ∀ p, (item a).bytes? = .ok p → Reads read p a := by
    intro a ha p hp
    obtain ⟨-, q, hq, hr⟩ := h a ha
    obtain rfl := Except.ok.inj (hq.symm.trans hp)
    exact hr
  have hbytes : ∃ b, (items.forM item).bytes? = .ok b := by
    clear hr
    induction items with
    | nil => exact ⟨[], rfl⟩
    | cons a items ih =>
      have hus : ∀ x ∈ items, IsUniform (item x) := fun x hx => hu x (List.mem_cons_of_mem a hx)
      obtain ⟨hua, p, hp, -⟩ := h a List.mem_cons_self
      obtain ⟨q, hq⟩ := ih (fun x hx => h x (List.mem_cons_of_mem a hx)) hus
      exact ⟨p ++ q, PutM.bytes?_bind hua (PutM.isUniform_forM items hus) hp hq⟩
  obtain ⟨b, hb⟩ := hbytes
  have hreads : Reads (GetM.times items.length read) b (items.map id) := reads_times_of_forM hu hr hb
  rw [List.map_id] at hreads
  exact ⟨PutM.isUniform_forM items hu, b, hb, hreads⟩

/-- A field of a packet is conveyed from a layer above the packets. -/
theorem lift_write [OfPacketError ε] {write : Put Unit} (h : Conveys write read a) :
    Conveys (liftM write : PutM ε Unit) read a := by
  obtain ⟨hu, p, hp, hr⟩ := h
  exact ⟨hu.lift, p, PutM.bytes?_liftM_eq_ok.mpr hp, hr⟩

/-- Items behind their number are conveyed if the number and each item are. -/
theorem counted [OfPacketError ε] {width : CountWidth} {items : List α} {item : α → PutM ε Unit}
    {count : GetM ε' γ} {size : γ → Nat} {c : γ} (hcount : Conveys (Put.count width items.length) count c)
    (hsize : size c = items.length) (hitems : ∀ a ∈ items, Conveys (item a) read a) :
    Conveys (PutM.counted width items item) (do let n ← count; GetM.times (size n) read) items := by
  refine hcount.lift_write.bind ?_
  rw [hsize]
  exact times hitems

/-- Counted items are conveyed in front of what follows them. -/
theorem counted_bind [OfPacketError ε] {width : CountWidth} {items : List α} {item : α → PutM ε Unit}
    {count : GetM ε' γ} {size : γ → Nat} {c : γ} {f : List α → GetM ε' β}
    (hcount : Conveys (Put.count width items.length) count c) (hsize : size c = items.length)
    (hitems : ∀ a ∈ items, Conveys (item a) read a) (hrest : Conveys rest (f items) b) :
    Conveys (do PutM.counted width items item; rest)
      (do let n ← count; let items ← GetM.times (size n) read; f items) b := by
  have h := (counted hcount hsize hitems).bind hrest
  rwa [bind_assoc] at h

/-- Counted items may be converted after the reading. -/
theorem counted_bind_pure [OfPacketError ε] {width : CountWidth} {items : List α}
    {item : α → PutM ε Unit} {count : GetM ε' γ} {size : γ → Nat} {c : γ} {f : List α → β}
    (hcount : Conveys (Put.count width items.length) count c) (hsize : size c = items.length)
    (hitems : ∀ a ∈ items, Conveys (item a) read a) :
    Conveys (PutM.counted width items item)
      (do let n ← count; let items ← GetM.times (size n) read; return f items) (f items) := by
  have h := (counted hcount hsize hitems).bind_pure (f := f)
  rwa [bind_assoc] at h

end Conveys

/-- Annotations whose number and texts fit their lengths. -/
structure AnnotationsFit (items : List (String × String)) : Prop where
  length_lt : items.length < 2 ^ 16
  text_lt : ∀ a ∈ items, (Utf8.encode a.1).length < 2 ^ 31 ∧ (Utf8.encode a.2).length < 2 ^ 31

/-- Attributes whose number and values fit their lengths. -/
structure AttributesFit (items : List (UInt16 × Bytes)) : Prop where
  length_lt : items.length < 2 ^ 16
  value_lt : ∀ a ∈ items, a.2.length < 2 ^ 31

/-- Texts that fit their lengths, as does their number. -/
structure TextsFit (items : List String) : Prop where
  length_lt : items.length < 2 ^ 32
  text_lt : ∀ s ∈ items, (Utf8.encode s).length < 2 ^ 31

namespace Put

/-- A number of two bytes is conveyed. -/
theorem conveys_uint16 (n : UInt16) : Conveys (uint16 n) Get.uint16 n := .of_raw (Get.reads_uint16 n)

/-- A number of four bytes is conveyed. -/
theorem conveys_uint32 (n : UInt32) : Conveys (uint32 n) Get.uint32 n := .of_raw (Get.reads_uint32 n)

/-- A number of eight bytes is conveyed. -/
theorem conveys_uint64 (n : UInt64) : Conveys (uint64 n) Get.uint64 n := .of_raw (Get.reads_uint64 n)

/-- An identifier is conveyed. -/
theorem conveys_uuid (id : Uuid) : Conveys (uuid id) Get.uuid id :=
  ⟨(PutM.isUniform_raw _).bind fun _ => PutM.isUniform_raw _, id.toBytes, PutM.bytes?_uuid id,
    Get.reads_uuid id⟩

/-- A count of two bytes is conveyed. -/
theorem conveys_count_two {n : Nat} (h : n < 2 ^ 16) :
    Conveys (count .two n) Get.uint16 (UInt16.ofNat n) := by
  rw [count, if_pos h]
  exact conveys_uint16 _

/-- A count of four bytes is conveyed. -/
theorem conveys_count_four {n : Nat} (h : n < 2 ^ 32) :
    Conveys (count .four n) Get.uint32 (UInt32.ofNat n) := by
  rw [count, if_pos h]
  exact conveys_uint32 _

/-- Bytes behind their length are conveyed to whatever reads them. -/
theorem conveys_block_of_reads {ε α : Type} {read : GetM ε α} {a : α} {bytes : Bytes}
    (h : bytes.length < 2 ^ 32) (hr : Reads read (BigEndian.encode 4 bytes.length ++ bytes) a) :
    Conveys (block bytes) read a := by
  refine ⟨fun w hw => ?_, _, PutM.bytes?_eq_ok.mpr ⟨_, block_of_isOpen Writer.isOpen_empty h, ?_⟩, hr⟩
  · rw [block_of_isOpen hw h, block_of_isOpen Writer.isOpen_empty h, PutM.behind, Writer.toBytes_append,
      Writer.toBytes_empty, List.nil_append]
  · rw [Writer.toBytes_append, Writer.toBytes_empty, List.nil_append]

/-- Bytes that must be present are conveyed. -/
theorem conveys_block {bytes : Bytes} (h : bytes.length < 2 ^ 31) :
    Conveys (block bytes) Get.block bytes :=
  conveys_block_of_reads (by omega) (Get.reads_block h)

/-- A text is conveyed. -/
theorem conveys_text {s : String} (h : (Utf8.encode s).length < 2 ^ 31) :
    Conveys (text s) Get.text s :=
  conveys_block_of_reads (by omega) (Get.reads_text h)

/-- Writes pairs of texts behind their number. -/
def annotations (items : List (String × String)) : Put Unit :=
  PutM.counted .two items fun a => do
    text a.1
    text a.2

/-- Writes values, each behind its key, behind their number. -/
def attributes (items : List (UInt16 × Bytes)) : Put Unit :=
  PutM.counted .two items fun a => do
    uint16 a.1
    block a.2

/-- Writes texts behind their number. -/
def texts (items : List String) : Put Unit :=
  PutM.counted .four items text

/-- Annotations are conveyed. -/
theorem conveys_annotations {items : List (String × String)} (h : AnnotationsFit items) :
    Conveys (annotations items) Get.annotations items :=
  .counted (conveys_count_two h.length_lt) (UInt16.toNat_ofNat_of_lt' h.length_lt) fun a ha =>
    (conveys_text (h.text_lt a ha).1).bind (conveys_text (h.text_lt a ha).2).bind_pure

/-- Attributes are conveyed. -/
theorem conveys_attributes {items : List (UInt16 × Bytes)} (h : AttributesFit items) :
    Conveys (attributes items) Get.attributes items :=
  .counted (conveys_count_two h.length_lt) (UInt16.toNat_ofNat_of_lt' h.length_lt) fun a ha =>
    (conveys_uint16 a.1).bind (conveys_block (h.value_lt a ha)).bind_pure

/-- Texts are conveyed. -/
theorem conveys_texts {items : List String} (h : TextsFit items) :
    Conveys (texts items) Get.texts items :=
  .counted (conveys_count_four h.length_lt) (UInt32.toNat_ofNat_of_lt' h.length_lt) fun s hs =>
    conveys_text (h.text_lt s hs)

end Put

end Packet

end GelClient
