import GelClient.Proofs.Codec.Compound
import GelClient.Proofs.Packet.Outcome
import Mathlib.Data.List.Nodup
import Mathlib.Data.List.Perm.Subperm

/-!
# Payloads of input shapes

The payload of an input shape is a list of elements, each behind its position in the shape, and behind the
number of them. `SparseEntry` is an element of such a list, and `decode_sparsePayload` what the reader
makes of any list: it refuses lists longer than the shape and positions outside of it, and otherwise the
outcome is that of the elements.

The writer puts one element there for each field that it is given. Fields of different names are at
different positions, and then there are no more of them than elements. Two fields of one name are both
written, so a list can be too long for the reader of the same shape.
-/

namespace GelClient

open Packet (Put PutM Get GetM Reader)
open Packet.PutM (IsUniform)
open Packet.GetM (Reads HasOutcome)

/-- An element of the payload of an input shape: its position, and its own payload unless it is absent. -/
structure SparseEntry where
  index : Nat
  payload : Option Bytes

namespace Codec

variable {c : Codec} {v : Value} {b : Bytes}

/-- The bytes of an element of a container: its payload behind the length, or the length -1. -/
def elementBytes : Option Bytes → Bytes
  | none => BigEndian.encode 4 (-1 : Int32).toUInt32.toNat
  | some p => BigEndian.encode 4 p.length ++ p

/-- The value of an element of a container. -/
def decodeElement (c : Codec) : Option Bytes → Except CodecError Value
  | none => .ok .nothing
  | some p => c.decode p

/-- An element is what its codec makes of its payload, absent without one. -/
theorem hasOutcome_getElementWith (c : Codec) {payload : Option Bytes}
    (h : ∀ p ∈ payload, p.length < 2 ^ 31) :
    HasOutcome (getElementWith c.get) (elementBytes payload) (c.decodeElement payload) := by
  cases payload with
  | none => exact Get.reads_window?_none.lift.bind_nil (GetM.reads_pure _)
  | some p =>
    rw [elementBytes, ← List.append_nil (BigEndian.encode 4 p.length ++ p)]
    exact (Get.reads_window? (h p rfl)).lift.bind_hasOutcome (GetM.hasOutcome_onReader c.get p)

/-- A written element is some payload behind its length, or the length -1. -/
theorem exists_elementBytes_of_putElement (h : (c.putElement v).bytes? = .ok b) :
    ∃ payload, (∀ p ∈ payload, p.length < 2 ^ 31) ∧ b = elementBytes payload := by
  by_cases hv : v.isNothing
  · rw [putElement, putElementWith, if_pos hv, Put.null, PutM.bytes?_liftM_eq_ok] at h
    obtain rfl := Except.ok.inj ((PutM.bytes?_raw _).symm.trans h)
    exact ⟨none, by simp, rfl⟩
  · obtain ⟨_, p, -, -, -, hlength, rfl⟩ := exists_of_putElement (Bool.eq_false_iff.mpr hv) h
    exact ⟨some p, fun q hq => Option.some.inj hq ▸ hlength, rfl⟩

/-- The reader of a position takes the element there, if there is one. -/
theorem getSparse_eq (shape : ObjectShape) (i : Nat) (outOfRange : CodecError) :
    getSparse shape i outOfRange =
      match shape[i]? with
      | some e => do return (e.name, ← getElementWith e.codec.get)
      | none => throw outOfRange := by
  induction shape generalizing i with
  | nil => simp only [getSparse, List.getElem?_nil]
  | cons e shape ih =>
    cases i with
    | zero => simp only [getSparse, List.getElem?_cons_zero]
    | succ i => simp only [getSparse, ih, List.getElem?_cons_succ]

end Codec

namespace SparseEntry

/-- The position and the length of the payload fit their words. -/
structure Fits (entry : SparseEntry) : Prop where
  index_lt : entry.index < 2 ^ 31
  length_lt : ∀ p ∈ entry.payload, p.length < 2 ^ 31

/-- The bytes of an element behind its position. -/
def toBytes (entry : SparseEntry) : Bytes :=
  BigEndian.encode 4 entry.index ++ Codec.elementBytes entry.payload

/-- The name and the value of an element under a shape. -/
def decode (shape : ObjectShape) (entry : SparseEntry) : Except CodecError (String × Value) :=
  match shape[entry.index]? with
  | some e => (e.codec.decodeElement entry.payload).map fun v => (e.name, v)
  | none => .error (.invalidIndex (Int32.ofNat entry.index) shape.length)

end SparseEntry

namespace Codec

/-- Reads an element of a sparse payload. -/
def getSparseEntry (shape : ObjectShape) : GetM CodecError (String × Value) := do
  let index ← Get.int32
  if index < 0 then throw (.invalidIndex index shape.length)
  getSparse shape index.toNatClampNeg (.invalidIndex index shape.length)

/-- An element of a sparse payload is read as its codec does. -/
theorem hasOutcome_getSparseEntry (shape : ObjectShape) {entry : SparseEntry} (h : entry.Fits) :
    HasOutcome (getSparseEntry shape) entry.toBytes (entry.decode shape) := by
  refine (Get.reads_count h.index_lt).lift.bind_hasOutcome ?_
  simp only [if_neg (Get.not_ofNat_lt_zero h.index_lt), Int32.toNatClampNeg_ofNat_of_lt h.index_lt,
    getSparse_eq, SparseEntry.decode]
  cases shape[entry.index]? with
  | some e => exact (hasOutcome_getElementWith e.codec h.length_lt).bind_pure fun v => (e.name, v)
  | none => exact GetM.hasOutcome_throw _

/-- The payload of an input shape with the given elements. -/
def sparsePayload (entries : List SparseEntry) : Bytes :=
  BigEndian.encode 4 entries.length ++ entries.flatMap SparseEntry.toBytes

/-- A sparse payload is refused if it lists more elements than the shape has. Otherwise it has the outcome
of its elements, up to the first error. -/
theorem decode_sparsePayload (shape : ObjectShape) {entries : List SparseEntry} (hn : entries.length < 2 ^ 31)
    (h : ∀ entry ∈ entries, entry.Fits) :
    (sparseObject shape).decode (sparsePayload entries) =
      if shape.length < entries.length then .error (.arityMismatch shape.length entries.length)
      else (entries.mapM (SparseEntry.decode shape)).map .object := by
  refine GetM.HasOutcome.runOn_eq ?_
  rw [Codec.get]
  refine (Get.reads_count hn).lift.bind_hasOutcome ?_
  simp only [Int32.toNatClampNeg_ofNat_of_lt hn, Get.not_ofNat_lt_zero hn, false_or,
    Int32.toInt_ofNat_of_lt hn]
  split
  · exact GetM.hasOutcome_throw _
  · exact (HasOutcome.times fun entry hentry => hasOutcome_getSparseEntry shape (h entry hentry)).bind_pure _

/-- The value of a known name is written with the codec at its position. -/
theorem exists_putSparse_eq {shape : ObjectShape} {name : String} {i : Nat} (v : Value)
    (h : shape.position? name = some i) :
    ∃ e, shape[i]? = some e ∧ e.name = name ∧ putSparse shape name v = e.codec.putElement v := by
  induction shape generalizing i with
  | nil => cases h
  | cons e shape ih =>
    rw [ObjectShape.position?_cons] at h
    by_cases he : e.name == name
    · rw [if_pos he] at h
      cases h
      refine ⟨e, rfl, beq_iff_eq.mp he, ?_⟩
      simp only [putSparse, if_pos he, putElement]
    · rw [if_neg he] at h
      obtain ⟨j, hj, rfl⟩ := Option.map_eq_some_iff.mp h
      obtain ⟨d, hd, hname, hput⟩ := ih hj
      refine ⟨d, hd, hname, ?_⟩
      simp only [putSparse, if_neg he, hput]

/-- The element is what is written for a field, at the position of its name, with the codec there. -/
structure Lists (shape : ObjectShape) (f : String × Value) (entry : SparseEntry) : Prop where
  fits : entry.Fits
  position : shape.position? f.1 = some entry.index
  element : ∃ e, shape[entry.index]? = some e ∧ e.name = f.1 ∧
    (e.codec.putElement f.2).bytes? = .ok (elementBytes entry.payload)

variable {shape : ObjectShape} {fields : List (String × Value)} {entries : List SparseEntry}

/-- A field whose name is known is written as an element at its position. -/
theorem exists_lists_of_putSparseEntry {f : String × Value} {i : Nat} (hi : shape.position? f.1 = some i)
    (h : (putSparseEntry shape f).bytes? = .ok b) : ∃ entry, Lists shape f entry ∧ b = entry.toBytes := by
  obtain ⟨e, he, hname, hput⟩ := exists_putSparse_eq f.2 hi
  rw [putSparseEntry, hi, Option.getD_some, hput] at h
  have hu : IsUniform (e.codec.putElement f.2) :=
    isUniform_putElementWith f.2 (isUniform_putAs e.codec true f.2)
  obtain ⟨hindex, own, hown, rfl⟩ := (PutM.bytes?_signedCount_bind_eq_ok hu).mp h
  obtain ⟨payload, hlength, rfl⟩ := exists_elementBytes_of_putElement hown
  exact ⟨⟨i, payload⟩, ⟨⟨hindex, hlength⟩, hi, e, he, hname, hown⟩, rfl⟩

/-- The payload of an input shape lists an element for each of the fields, in their order. -/
theorem exists_listed_of_encode (hv : fields? v = some fields) (h : (sparseObject shape).encode v = .ok b) :
    ∃ entries, List.Forall₂ (Lists shape) fields entries ∧ entries.length < 2 ^ 31 ∧
      b = sparsePayload entries := by
  rw [encode, put] at h
  simp only [putAs, hv] at h
  split at h
  · cases h
  next hknown =>
    have hu : ∀ f ∈ fields, IsUniform (putSparseEntry shape f) :=
      fun f _ => isUniform_putSparseEntry shape (fun e _ => isUniform_putAs e.codec) f
    obtain ⟨hn, p, hp, rfl⟩ := (PutM.bytes?_signedCount_bind_eq_ok (PutM.isUniform_forM fields hu)).mp h
    have hwritten : ∀ f ∈ fields, ∀ q, (putSparseEntry shape f).bytes? = .ok q →
        ∃ entry : SparseEntry, Lists shape f entry ∧ q = entry.toBytes := by
      intro f hf q hq
      obtain ⟨i, hi⟩ := exists_position?_of_known hknown hf
      exact exists_lists_of_putSparseEntry hi hq
    obtain ⟨entries, hentries, rfl⟩ := Packet.exists_pieces_of_forM hu hwritten hp
    exact ⟨entries, hentries, hentries.length_eq ▸ hn, by rw [sparsePayload, hentries.length_eq]⟩

/-- Each element is what is written for some field. -/
theorem exists_lists_of_mem (h : List.Forall₂ (Lists shape) fields entries) {entry : SparseEntry}
    (hentry : entry ∈ entries) : ∃ f, Lists shape f entry := by
  induction h with
  | nil => cases hentry
  | cons hf _ ih =>
    cases hentry with
    | head => exact ⟨_, hf⟩
    | tail _ hmem => exact ih hmem

/-- Items that determine those of a list without repetitions do not repeat. -/
private theorem nodup_of_map_eq_some {α β : Type} {as : List α} {bs : List β} {g : α → Option β}
    (h : as.map g = bs.map some) (hbs : bs.Nodup) : as.Nodup := by
  have hsome : (bs.map some).Nodup := List.Nodup.map (fun _ _ => Option.some.inj) hbs
  rw [← h] at hsome
  exact List.Nodup.of_map g hsome

/-- Elements are at different positions just if the fields have different names. -/
theorem nodup_index_iff (h : List.Forall₂ (Lists shape) fields entries) :
    (entries.map (·.index)).Nodup ↔ (fields.map (·.1)).Nodup := by
  have hindex : (fields.map (·.1)).map shape.position? = (entries.map (·.index)).map some := by
    rw [List.map_map, List.map_map, ← List.forall₂_eq_eq_eq]
    exact List.rel_map (fun f entry hf => hf.position) h
  have hname : (entries.map (·.index)).map (fun i => shape[i]?.map (·.name)) =
      (fields.map (·.1)).map some := by
    rw [List.map_map, List.map_map, eq_comm, ← List.forall₂_eq_eq_eq]
    refine List.rel_map (fun f entry hf => ?_) h
    obtain ⟨e, he, hname, -⟩ := hf.element
    rw [Function.comp_apply, Function.comp_apply, he, Option.map_some, hname]
  exact ⟨nodup_of_map_eq_some hindex, nodup_of_map_eq_some hname⟩

/-- There are not more elements at different positions than the shape has. -/
private theorem length_le_of_nodup (h : List.Forall₂ (Lists shape) fields entries)
    (hnodup : (entries.map (·.index)).Nodup) : entries.length ≤ shape.length := by
  have hrange : entries.map (·.index) ⊆ List.range shape.length := by
    intro i hi
    obtain ⟨entry, hentry, rfl⟩ := List.mem_map.mp hi
    obtain ⟨f, hf⟩ := exists_lists_of_mem h hentry
    obtain ⟨e, he, -⟩ := hf.element
    exact List.mem_range.mpr (List.getElem?_eq_some_iff.mp he).1
  have hle := (List.subperm_of_subset hnodup hrange).length_le
  rwa [List.length_map, List.length_range] at hle

/-- The bytes `b` are the payload of an input shape for the fields, with the given elements. -/
structure IsSparsePayload (shape : ObjectShape) (fields : List (String × Value)) (b : Bytes)
    (entries : List SparseEntry) : Prop where
  /-- There is an element for each field, in the same order. -/
  listed : List.Forall₂ (Lists shape) fields entries
  bytes : b = sparsePayload entries
  nodup_iff : (entries.map (·.index)).Nodup ↔ (fields.map (·.1)).Nodup
  length_le : (fields.map (·.1)).Nodup → entries.length ≤ shape.length
  /-- The reader of the shape has an objection of its own only to the number of elements. -/
  decode : (sparseObject shape).decode b =
    if shape.length < entries.length then .error (.arityMismatch shape.length entries.length)
    else (entries.mapM (SparseEntry.decode shape)).map .object
  /-- Otherwise it fails only where the codec of an element cannot read the payload of this element. -/
  failure : entries.length ≤ shape.length → ∀ err, (sparseObject shape).decode b = .error err →
    ∃ entry ∈ entries, ∃ e p, shape[entry.index]? = some e ∧ entry.payload = some p ∧
      e.codec.decode p = .error err

/-- Converting a value changes no error. -/
private theorem eq_error_of_map {ε α β : Type} {x : Except ε α} {g : α → β} {err : ε} (h : x.map g = .error err) :
    x = .error err := by
  cases x with
  | error e =>
    cases h
    rfl
  | ok a => cases h

/-- A list of outcomes fails as one of them does. -/
theorem exists_of_mapM_error {ε α β : Type} {g : α → Except ε β} {as : List α} {err : ε}
    (h : as.mapM g = .error err) : ∃ a ∈ as, g a = .error err := by
  induction as with
  | nil => cases h
  | cons a as ih =>
    rw [List.mapM_cons] at h
    cases ha : g a with
    | error e =>
      rw [ha] at h
      cases h
      exact ⟨a, List.mem_cons_self, ha⟩
    | ok b =>
      cases has : as.mapM g with
      | error e =>
        rw [ha, has] at h
        cases h
        obtain ⟨a', hmem, ha'⟩ := ih has
        exact ⟨a', List.mem_cons_of_mem a hmem, ha'⟩
      | ok bs =>
        rw [ha, has] at h
        cases h

/-- An element of a shape fails as its codec does on its payload. -/
theorem exists_of_decode_entry_error {f : String × Value} {entry : SparseEntry} {err : CodecError}
    (hf : Lists shape f entry) (h : entry.decode shape = .error err) :
    ∃ e p, shape[entry.index]? = some e ∧ entry.payload = some p ∧ e.codec.decode p = .error err := by
  obtain ⟨e, he, -⟩ := hf.element
  rw [SparseEntry.decode, he] at h
  cases hp : entry.payload with
  | none =>
    rw [hp] at h
    cases h
  | some p =>
    rw [hp] at h
    exact ⟨e, p, he, rfl, eq_error_of_map h⟩

/-- What an input shape writes lists an element for each of the fields. If their names are different, the
elements are at different positions and not more than the shape has, and the reader of the shape takes
every one of them; else it refuses a list that is longer than the shape. -/
theorem exists_isSparsePayload_of_encode {shape : ObjectShape} {v : Value} {fields : List (String × Value)}
    {b : Bytes} (hv : fields? v = some fields) (h : (sparseObject shape).encode v = .ok b) :
    ∃ entries, IsSparsePayload shape fields b entries := by
  obtain ⟨entries, hlisted, hn, rfl⟩ := exists_listed_of_encode hv h
  have hfits : ∀ entry ∈ entries, entry.Fits := by
    intro entry hentry
    obtain ⟨f, hf⟩ := exists_lists_of_mem hlisted hentry
    exact hf.fits
  have hnodup := nodup_index_iff hlisted
  have hdecode := decode_sparsePayload shape hn hfits
  have hlength (hnames : (fields.map (·.1)).Nodup) : entries.length ≤ shape.length :=
    length_le_of_nodup hlisted (hnodup.mpr hnames)
  refine ⟨entries, hlisted, rfl, hnodup, hlength, hdecode, fun hle err herr => ?_⟩
  rw [hdecode, if_neg (Nat.not_lt.mpr hle)] at herr
  obtain ⟨entry, hentry, hfails⟩ := exists_of_mapM_error (eq_error_of_map herr)
  obtain ⟨f, hf⟩ := exists_lists_of_mem hlisted hentry
  exact ⟨entry, hentry, exists_of_decode_entry_error hf hfails⟩

/-- An input shape with two elements. -/
def profileShape : ObjectShape := [⟨"name", .scalar .str, none, 0⟩, ⟨"age", .scalar .int32, none, 0⟩]

/-- Both of them, in another order and without a name. -/
def profile : List (String × Value) := [("age", .int32 3), ("name", .nothing)]

/-- The payload of the profile. -/
def profileBytes : Bytes := [0, 0, 0, 2, 0, 0, 0, 1, 0, 0, 0, 4, 0, 0, 0, 3, 0, 0, 0, 0, 255, 255, 255, 255]

/-- The profile is listed in the order of its fields and read back. -/
theorem exists_isSparsePayload_of_encode_profile :
    (sparseObject profileShape).encode (.namedTuple profile) = .ok profileBytes ∧
      (∃ entries, IsSparsePayload profileShape profile profileBytes entries) ∧
      (sparseObject profileShape).decode profileBytes = .ok (.object profile) := by
  have hwritten : (sparseObject profileShape).encode (.namedTuple profile) = .ok profileBytes := by rfl
  exact ⟨hwritten, exists_isSparsePayload_of_encode rfl hwritten, by rfl⟩

/-- The payload of an input shape is not well formed in general: a field that is given twice is written
twice, and the reader of a shape with one element does not take two. -/
theorem not_decode_of_encode_sparseObject :
    ¬∀ (shape : ObjectShape) (v : Value) (b : Bytes), (shape.map (·.name)).Nodup →
      (sparseObject shape).encode v = .ok b →
        ∀ expected found, (sparseObject shape).decode b ≠ .error (.arityMismatch expected found) := by
  intro h
  have hwritten : (sparseObject [⟨"age", .scalar .int32, none, 0⟩]).encode
      (.object [("age", .int32 1), ("age", .int32 2)]) =
        .ok [0, 0, 0, 2, 0, 0, 0, 0, 0, 0, 0, 4, 0, 0, 0, 1, 0, 0, 0, 0, 0, 0, 0, 4, 0, 0, 0, 2] := by rfl
  exact h _ _ _ (by simp) hwritten 1 2 (by rfl)

end Codec

end GelClient
