import GelClient.Proofs.Packet.Need
import GelClient.Schema.Descriptor
import Mathlib.Algebra.Group.Nat.Defs

/-!
# The layout of descriptor streams

Both dialects are written down here as grammars, each a relation between a value and the bytes that may
stand for it. Fields that no descriptor keeps may hold anything: whether the schema defines a type, whether
a shape is free of ephemeral types, the position of its type, the positions of the sources of its elements,
and all ancestors but those of a scalar. In the second dialect anything may stand behind a descriptor within
its length, too.

Every reading action needs exactly the bytes of its grammar. So a stream of laid out descriptors is parsed
to these descriptors, and it cannot be cut between two of them without being cut at a boundary.
-/

namespace GelClient

open Packet (Get GetM)
open Packet.GetM (Reads ReadsAll Needs FailsOn)

/-- The byte of an operation between types. -/
def TypeOperation.toByte : TypeOperation → UInt8
  | .union => 1
  | .intersection => 2

/-- An operation is found by its byte. -/
@[simp]
theorem TypeOperation.ofByte?_toByte (op : TypeOperation) : ofByte? op.toByte = some op := by
  cases op <;> decide

namespace Layout

/-- A position in two bytes. -/
def position (n : UInt16) : Bytes := BigEndian.encode 2 n.toNat

/-- A position is laid out in its two bytes. -/
def IsPosition (n : UInt16) (p : Bytes) : Prop := p = position n

/-- A dimension is laid out in four bytes. -/
def IsDimension (n : Int32) (p : Bytes) : Prop := p = BigEndian.encode 4 n.toUInt32.toNat

/-- A text is laid out behind its length, which is not negative. -/
inductive IsText : String → Bytes → Prop
  | intro {s : String} (h : (Utf8.encode s).length < 2 ^ 31) :
    IsText s (BigEndian.encode 4 (Utf8.encode s).length ++ Utf8.encode s)

/-- Items are laid out one after the other behind their number. -/
inductive IsCounted {α : Type} (item : α → Bytes → Prop) : List α → Bytes → Prop
  | intro (pieces : List (α × Bytes)) (hlength : pieces.length < 2 ^ 16)
    (hpieces : ∀ piece ∈ pieces, item piece.1 piece.2) :
    IsCounted item (pieces.map (·.1)) (BigEndian.encode 2 pieces.length ++ pieces.flatMap (·.2))

/-- An element of a named tuple is laid out as its name and its position. -/
inductive IsNamedElement : String × UInt16 → Bytes → Prop
  | intro {name : String} {p : Bytes} (n : UInt16) (hname : IsText name p) :
    IsNamedElement (name, n) (p ++ position n)

/-- An element of a shape is laid out as its fields, and as the position of its source if it has one. -/
inductive IsElement (withSource : Bool) : ShapeDescriptor → Bytes → Prop
  | intro {name : String} {p : Bytes} (flags : UInt32) (c : Cardinality) (n : UInt16) (source : Bytes)
    (hname : IsText name p) (hsource : source.length = if withSource then 2 else 0) :
    IsElement withSource ⟨flags, some c, name, n⟩
      (BigEndian.encode 4 flags.toNat ++ ([c.toByte] ++ (p ++ (position n ++ source))))

/-- The name of a type is laid out in front of whether the schema defines the type. -/
inductive IsTypeName : String → Bytes → Prop
  | intro {name : String} {p : Bytes} (schemaDefined : UInt8) (hname : IsText name p) :
    IsTypeName name (p ++ [schemaDefined])

/-- The name of a type is laid out in front of its ancestors. -/
inductive IsHead : String → List UInt16 → Bytes → Prop
  | intro {name : String} {ancestors : List UInt16} {p q : Bytes} (hname : IsTypeName name p)
    (hancestors : IsCounted IsPosition ancestors q) : IsHead name ancestors (p ++ q)

/-- The payloads of the first dialect, by the type bytes of their descriptors. -/
inductive IsFirstPayload : UInt8 → DescriptorKind → Bytes → Prop
  | set (n : UInt16) : IsFirstPayload 0 (.set n) (position n)
  | objectShape {elements : List ShapeDescriptor} {p : Bytes} (h : IsCounted (IsElement false) elements p) :
    IsFirstPayload 1 (.objectShape elements) p
  | baseScalar : IsFirstPayload 2 .baseScalar []
  | scalar (base : UInt16) : IsFirstPayload 3 (.scalar (some base) []) (position base)
  | tuple {elements : List UInt16} {p : Bytes} (h : IsCounted IsPosition elements p) :
    IsFirstPayload 4 (.tuple elements) p
  | namedTuple {elements : List (String × UInt16)} {p : Bytes} (h : IsCounted IsNamedElement elements p) :
    IsFirstPayload 5 (.namedTuple elements) p
  | array {dimensions : List Int32} {p : Bytes} (n : UInt16) (h : IsCounted IsDimension dimensions p) :
    IsFirstPayload 6 (.array n dimensions) (position n ++ p)
  | enumeration {members : List String} {p : Bytes} (h : IsCounted IsText members p) :
    IsFirstPayload 7 (.enumeration members) p
  | inputShape {elements : List ShapeDescriptor} {p : Bytes} (h : IsCounted (IsElement false) elements p) :
    IsFirstPayload 8 (.inputShape elements) p
  | range (n : UInt16) : IsFirstPayload 9 (.range n) (position n)
  | note {type : UInt8} {text : String} {p : Bytes} (htype : 0x80 ≤ type) (h : IsText text p) :
    IsFirstPayload type .note p

/-- The payloads of the second dialect with the names of their types, by the type bytes. -/
inductive IsSecondPayload : UInt8 → Option String → DescriptorKind → Bytes → Prop
  | set (n : UInt16) : IsSecondPayload 0 none (.set n) (position n)
  | objectShape {elements : List ShapeDescriptor} {p : Bytes} (ephemeralFree : UInt8) (type : UInt16)
    (h : IsCounted (IsElement true) elements p) :
    IsSecondPayload 1 none (.objectShape elements) ([ephemeralFree] ++ (position type ++ p))
  | scalar {name : String} {ancestors : List UInt16} {p : Bytes} (h : IsHead name ancestors p) :
    IsSecondPayload 3 (some name) (.scalar none ancestors) p
  | tuple {name : String} {ancestors elements : List UInt16} {p q : Bytes} (hhead : IsHead name ancestors p)
    (h : IsCounted IsPosition elements q) : IsSecondPayload 4 (some name) (.tuple elements) (p ++ q)
  | namedTuple {name : String} {ancestors : List UInt16} {elements : List (String × UInt16)} {p q : Bytes}
    (hhead : IsHead name ancestors p) (h : IsCounted IsNamedElement elements q) :
    IsSecondPayload 5 (some name) (.namedTuple elements) (p ++ q)
  | array {name : String} {ancestors : List UInt16} {dimensions : List Int32} {p q : Bytes} (n : UInt16)
    (hhead : IsHead name ancestors p) (h : IsCounted IsDimension dimensions q) :
    IsSecondPayload 6 (some name) (.array n dimensions) (p ++ (position n ++ q))
  | enumeration {name : String} {ancestors : List UInt16} {members : List String} {p q : Bytes}
    (hhead : IsHead name ancestors p) (h : IsCounted IsText members q) :
    IsSecondPayload 7 (some name) (.enumeration members) (p ++ q)
  | inputShape {elements : List ShapeDescriptor} {p : Bytes} (h : IsCounted (IsElement false) elements p) :
    IsSecondPayload 8 none (.inputShape elements) p
  | range {name : String} {ancestors : List UInt16} {p : Bytes} (n : UInt16)
    (hhead : IsHead name ancestors p) : IsSecondPayload 9 (some name) (.range n) (p ++ position n)
  | objectType {name : String} {p : Bytes} (h : IsTypeName name p) :
    IsSecondPayload 10 (some name) .objectType p
  | compound {name : String} {components : List UInt16} {p q : Bytes} (op : TypeOperation)
    (hname : IsTypeName name p) (h : IsCounted IsPosition components q) :
    IsSecondPayload 11 (some name) (.compound op components) (p ++ ([op.toByte] ++ q))
  | multirange {name : String} {ancestors : List UInt16} {p : Bytes} (n : UInt16)
    (hhead : IsHead name ancestors p) : IsSecondPayload 12 (some name) (.multirange n) (p ++ position n)

/-- A descriptor of the first dialect: its type byte, its identifier and its payload. -/
inductive IsFirst : Descriptor → Bytes → Prop
  | intro {type : UInt8} {kind : DescriptorKind} {p : Bytes} (id : Uuid) (h : IsFirstPayload type kind p) :
    IsFirst ⟨id, none, kind⟩ ([type] ++ (id.toBytes ++ p))

/-- What the length of a descriptor of the second dialect covers. Annotations have no identifier. -/
inductive IsSecondBody : Descriptor → Bytes → Prop
  | typed {type : UInt8} {name : Option String} {kind : DescriptorKind} {p : Bytes} (id : Uuid)
    (h : IsSecondPayload type name kind p) : IsSecondBody ⟨id, name, kind⟩ ([type] ++ (id.toBytes ++ p))
  | note : IsSecondBody ⟨Uuid.nil, none, .note⟩ [0x7F]

/-- A descriptor of the second dialect stands behind its length, which may cover more bytes than it has. -/
inductive IsSecond : Descriptor → Bytes → Prop
  | intro {d : Descriptor} {body : Bytes} (extra : Bytes) (hbody : IsSecondBody d body)
    (hlength : (body ++ extra).length < 2 ^ 32) :
    IsSecond d (BigEndian.encode 4 (body ++ extra).length ++ (body ++ extra))

end Layout

/-- The bytes that a descriptor may have in a version of the protocol. -/
def Descriptor.IsLaidOut (version : ProtocolVersion) (d : Descriptor) (p : Bytes) : Prop :=
  if 2 ≤ version.major then Layout.IsSecond d p else Layout.IsFirst d p

namespace Layout

/-- A position needs its bytes. -/
theorem needs_position (n : UInt16) : Needs Descriptor.position (position n) n :=
  (Get.needs_uint16 n).lift

/-- A position needs the bytes that it is laid out in. -/
theorem IsPosition.needs {n : UInt16} {p : Bytes} (h : IsPosition n p) :
    Needs Descriptor.position p n :=
  h ▸ needs_position n

/-- A dimension needs the bytes that it is laid out in. -/
theorem IsDimension.needs {n : Int32} {p : Bytes} (h : IsDimension n p) :
    Needs (liftM Get.int32 : Descriptor.Part Int32) p n :=
  h ▸ (Get.needs_int32 n).lift

/-- A text needs the bytes that it is laid out in. -/
theorem IsText.needs {s : String} {p : Bytes} (h : IsText s p) :
    Needs (liftM Get.text : Descriptor.Part String) p s := by
  obtain ⟨hlength⟩ := h
  exact (Get.needs_text hlength).lift

/-- A counted list needs the bytes that it is laid out in if its items do. -/
theorem IsCounted.needs {α : Type} {item : α → Bytes → Prop} {read : Descriptor.Part α} {items : List α}
    {p : Bytes} (h : IsCounted item items p) (hitem : ∀ {a p}, item a p → Needs read p a) :
    Needs (Descriptor.many read) p items := by
  obtain ⟨pieces, hlength, hpieces⟩ := h
  have hcount : (UInt16.ofNat pieces.length).toNat = pieces.length := UInt16.toNat_ofNat_of_lt' hlength
  have hnumber := Get.needs_uint16 (UInt16.ofNat pieces.length)
  rw [hcount] at hnumber
  refine hnumber.lift.bind ?_
  rw [hcount]
  exact Needs.times fun piece hmem => hitem (hpieces piece hmem)

/-- An element of a named tuple needs the bytes that it is laid out in. -/
theorem IsNamedElement.needs {e : String × UInt16} {p : Bytes} (h : IsNamedElement e p) :
    Needs Descriptor.namedElement p e := by
  obtain ⟨n, hname⟩ := h
  exact hname.needs.bind (needs_position n).bind_pure

/-- The multiplicity of an element needs its byte. -/
theorem needs_cardinality (c : Cardinality) : Needs Descriptor.cardinality [c.toByte] (some c) := by
  refine (Get.needs_uint8 c.toByte).lift.bind_nil ?_
  rw [Cardinality.ofByte?_toByte]
  exact GetM.reads_pure (some c)

/-- The operation of a compound type needs its byte. -/
theorem needs_operation (op : TypeOperation) : Needs Descriptor.operation [op.toByte] op := by
  refine (Get.needs_uint8 op.toByte).lift.bind_nil ?_
  rw [TypeOperation.ofByte?_toByte]
  exact GetM.reads_pure op

/-- An element of a shape needs the bytes that it is laid out in. -/
theorem IsElement.needs {withSource : Bool} {e : ShapeDescriptor} {p : Bytes}
    (h : IsElement withSource e p) : Needs (Descriptor.shapeElement withSource) p e := by
  obtain ⟨flags, c, n, source, hname, hsource⟩ := h
  refine (Get.needs_uint32 flags).lift.bind ?_
  refine (needs_cardinality c).bind ?_
  refine hname.needs.bind ?_
  refine (needs_position n).bind ?_
  cases withSource with
  | false =>
    obtain rfl : source = [] := List.eq_nil_of_length_eq_zero hsource
    exact .of_reads_nil (GetM.reads_pure _)
  | true =>
    have hskip := Get.needs_skip source
    rw [hsource] at hskip
    exact hskip.lift.bind_pure

/-- The name of a type needs the bytes that it is laid out in. -/
theorem IsTypeName.needs {name : String} {p : Bytes} (h : IsTypeName name p) :
    Needs Descriptor.typeName p name := by
  obtain ⟨schemaDefined, hname⟩ := h
  exact hname.needs.bind (Get.needs_bool schemaDefined).lift.bind_pure

/-- The head of a type needs the bytes that it is laid out in. -/
theorem IsHead.needs {name : String} {ancestors : List UInt16} {p : Bytes} (h : IsHead name ancestors p) :
    Needs Descriptor.typeNameAndAncestors p (name, ancestors) := by
  obtain ⟨hname, hancestors⟩ := h
  exact hname.needs.bind (hancestors.needs IsPosition.needs).bind_pure

/-- The head of a type and its payload need what they are laid out in. -/
theorem IsHead.needs_named {name : String} {ancestors : List UInt16} {p q : Bytes}
    {payload : Descriptor.Part DescriptorKind} {kind : DescriptorKind} (h : IsHead name ancestors p)
    (hpayload : Needs payload q kind) : Needs (Descriptor.named payload) (p ++ q) (some name, kind) :=
  h.needs.bind hpayload.bind_pure

/-- The payload of an array needs its element and its dimensions. -/
theorem needs_arrayKind (n : UInt16) {dimensions : List Int32} {p : Bytes}
    (h : IsCounted IsDimension dimensions p) :
    Needs Descriptor.arrayKind (position n ++ p) (.array n dimensions) :=
  (needs_position n).bind (h.needs IsDimension.needs).bind_pure

/-- All high type bytes of the first dialect are those of annotations. -/
private theorem firstDialectKind_of_high {type : UInt8} (h : 0x80 ≤ type) :
    Descriptor.firstDialectKind type = do
      let _ ← (liftM Get.text : Descriptor.Part String)
      return .note := by
  have hne : ∀ low : UInt8, low < 0x80 → type ≠ low := by
    rintro low hlow rfl
    exact absurd h (UInt8.not_le.mpr hlow)
  rw [Descriptor.firstDialectKind, if_neg (hne 0 (by decide)), if_neg (hne 1 (by decide)),
    if_neg (hne 2 (by decide)), if_neg (hne 3 (by decide)), if_neg (hne 4 (by decide)),
    if_neg (hne 5 (by decide)), if_neg (hne 6 (by decide)), if_neg (hne 7 (by decide)),
    if_neg (hne 8 (by decide)), if_neg (hne 9 (by decide)), if_pos h]

/-- A payload of the first dialect needs the bytes that it is laid out in. -/
theorem IsFirstPayload.needs {type : UInt8} {kind : DescriptorKind} {p : Bytes}
    (h : IsFirstPayload type kind p) : Needs (Descriptor.firstDialectKind type) p kind := by
  cases h with
  | set n => exact (needs_position n).bind_pure
  | objectShape h => exact (h.needs IsElement.needs).bind_pure
  | baseScalar => exact .of_reads_nil (GetM.reads_pure _)
  | scalar base => exact (needs_position base).bind_pure
  | tuple h => exact (h.needs IsPosition.needs).bind_pure
  | namedTuple h => exact (h.needs IsNamedElement.needs).bind_pure
  | array n h => exact needs_arrayKind n h
  | enumeration h => exact (h.needs IsText.needs).bind_pure
  | inputShape h => exact (h.needs IsElement.needs).bind_pure
  | range n => exact (needs_position n).bind_pure
  | note htype h =>
    rw [firstDialectKind_of_high htype]
    exact h.needs.bind_pure

/-- A payload of the second dialect needs the bytes that it is laid out in. -/
theorem IsSecondPayload.needs {type : UInt8} {name : Option String} {kind : DescriptorKind} {p : Bytes}
    (h : IsSecondPayload type name kind p) :
    Needs (Descriptor.secondDialectKind type) p (name, kind) := by
  cases h with
  | set n => exact (needs_position n).bind_pure
  | objectShape ephemeralFree type h =>
    refine (Get.needs_bool ephemeralFree).lift.bind ?_
    exact (needs_position type).bind (h.needs IsElement.needs).bind_pure
  | scalar h => exact h.needs.bind_pure
  | tuple hhead h => exact hhead.needs_named (h.needs IsPosition.needs).bind_pure
  | namedTuple hhead h => exact hhead.needs_named (h.needs IsNamedElement.needs).bind_pure
  | array n hhead h => exact hhead.needs_named (needs_arrayKind n h)
  | enumeration hhead h => exact hhead.needs_named (h.needs IsText.needs).bind_pure
  | inputShape h => exact (h.needs IsElement.needs).bind_pure
  | range n hhead => exact hhead.needs_named (needs_position n).bind_pure
  | objectType h => exact h.needs.bind_pure
  | compound op hname h =>
    exact hname.needs.bind ((needs_operation op).bind (h.needs IsPosition.needs).bind_pure)
  | multirange n hhead => exact hhead.needs_named (needs_position n).bind_pure

/-- A descriptor of the first dialect needs the bytes that it is laid out in. -/
theorem IsFirst.needs {d : Descriptor} {p : Bytes} (h : IsFirst d p) : Needs Descriptor.firstDialect p d := by
  obtain ⟨id, hpayload⟩ := h
  rename_i type kind payload
  refine (Get.needs_uint8 type).lift.bind ?_
  exact (Get.needs_uuid id).lift.bind hpayload.needs.bind_pure

/-- No payload of the second dialect has the type byte of annotations. -/
theorem IsSecondPayload.type_ne {type : UInt8} {name : Option String} {kind : DescriptorKind} {p : Bytes}
    (h : IsSecondPayload type name kind p) : type ≠ 0x7F := by
  cases h <;> decide

/-- A descriptor of the second dialect is read from its own bytes. -/
theorem IsSecondBody.reads {d : Descriptor} {p : Bytes} (h : IsSecondBody d p) :
    Reads Descriptor.secondDialect p d := by
  cases h with
  | typed id hpayload =>
    rename_i type name kind payload
    refine (Get.needs_uint8 type).reads.lift.bind ?_
    rw [if_neg hpayload.type_ne]
    exact (Get.reads_uuid id).lift.bind hpayload.needs.reads.bind_pure
  | note => exact (Get.needs_uint8 0x7F).reads.lift.bind_nil (GetM.reads_pure _)

/-- A descriptor of the second dialect needs all that its length covers. -/
theorem IsSecond.needs {d : Descriptor} {p : Bytes} (h : IsSecond d p) :
    Needs Descriptor.secondDialectScoped p d := by
  obtain ⟨extra, hbody, hlength⟩ := h
  rename_i body
  have hcount : (UInt32.ofNat (body ++ extra).length).toNat = (body ++ extra).length :=
    UInt32.toNat_ofNat_of_lt' hlength
  have hnumber := Get.needs_uint32 (UInt32.ofNat (body ++ extra).length)
  rw [hcount] at hnumber
  refine hnumber.lift.bind ?_
  rw [hcount]
  exact (Get.needs_window (body ++ extra)).lift.bind_nil (hbody.reads.onReader extra)

end Layout

namespace Descriptor

open Layout

/-- A descriptor needs the bytes that it is laid out in. -/
theorem IsLaidOut.needs {version : ProtocolVersion} {d : Descriptor} {p : Bytes}
    (h : IsLaidOut version d p) : Needs (one version) p d := by
  rw [IsLaidOut] at h
  rw [one]
  split at h
  next hmajor => exact if_pos hmajor ▸ h.needs
  next hmajor => exact if_neg hmajor ▸ h.needs

/-- No descriptor is laid out in nothing. -/
theorem IsLaidOut.ne_nil {version : ProtocolVersion} {d : Descriptor} {p : Bytes}
    (h : IsLaidOut version d p) : p ≠ [] := by
  rw [IsLaidOut] at h
  split at h
  next =>
    obtain ⟨extra, hbody, -⟩ := h
    simp [BigEndian.encode]
  next =>
    obtain ⟨id, -⟩ := h
    simp

/-- The stream of descriptors, each with its own bytes. -/
def stream (pieces : List (Descriptor × Bytes)) : Bytes := pieces.flatMap (·.2)

/-- A stream starts with the bytes of its first descriptor. -/
theorem stream_cons (piece : Descriptor × Bytes) (pieces : List (Descriptor × Bytes)) :
    stream (piece :: pieces) = piece.2 ++ stream pieces := rfl

/-- Laid out descriptors are read to the end of their stream, behind those already found. -/
theorem readsAll_untilEnd {version : ProtocolVersion} {pieces : List (Descriptor × Bytes)}
    (h : ∀ piece ∈ pieces, IsLaidOut version piece.1 piece.2) (found : List Descriptor) {bound : Nat}
    (hbound : (stream pieces).length ≤ bound) :
    ReadsAll (untilEnd version bound found) (stream pieces) (found.reverse ++ pieces.map (·.1)) := by
  induction pieces generalizing found bound with
  | nil =>
    rw [List.map_nil, List.append_nil]
    cases bound with
    | zero => exact (GetM.reads_pure found.reverse).readsAll
    | succ bound => exact GetM.readsAll_unlessEmpty_nil found.reverse _
  | cons piece pieces ih =>
    obtain ⟨hpiece, hpieces⟩ := List.forall_mem_cons.mp h
    have hpos : 0 < piece.2.length := List.length_pos_iff.mpr hpiece.ne_nil
    have hlength : piece.2.length + (stream pieces).length ≤ bound := by
      rwa [stream_cons, List.length_append] at hbound
    obtain ⟨bound, rfl⟩ : ∃ b, bound = b + 1 := ⟨bound - 1, by omega⟩
    have hrest := ih hpieces (piece.1 :: found) (show (stream pieces).length ≤ bound by omega)
    rw [List.reverse_cons, List.append_assoc] at hrest
    have hne : piece.2 ++ stream pieces ≠ [] := fun heq => hpiece.ne_nil (List.append_eq_nil_iff.mp heq).1
    exact (hpiece.needs.reads.bind_readsAll hrest).unlessEmpty found.reverse hne

/-- A stream that breaks off inside of a descriptor is not read to its end. -/
theorem failsOn_untilEnd {version : ProtocolVersion} {pieces : List (Descriptor × Bytes)}
    (h : ∀ piece ∈ pieces, IsLaidOut version piece.1 piece.2) (found : List Descriptor) {bound : Nat}
    {front : Bytes} (n : Nat) (hbound : front.length ≤ bound) (hfront : front <+: stream pieces)
    (hcut : ∀ k, front ≠ stream (pieces.take k)) :
    FailsOn (untilEnd version bound found) ⟨front, n⟩ := by
  have hne : front ≠ [] := hcut 0
  induction pieces generalizing found bound front n with
  | nil => exact absurd (List.prefix_nil.mp hfront) hne
  | cons piece pieces ih =>
    obtain ⟨hpiece, hpieces⟩ := List.forall_mem_cons.mp h
    have hpos : 0 < front.length := List.length_pos_iff.mpr hne
    obtain ⟨bound, rfl⟩ : ∃ b, bound = b + 1 := ⟨bound - 1, by omega⟩
    have hstep : untilEnd version (bound + 1) found ⟨front, n⟩ =
        (one version >>= fun d => untilEnd version bound (d :: found)) ⟨front, n⟩ := by
      have hfull : (Packet.Reader.mk front n).isEmpty = false := by simp [Packet.Reader.isEmpty, hne]
      rw [untilEnd, Actions.get_bind_apply, hfull]
      rfl
    rw [FailsOn, hstep]
    rw [stream_cons] at hfront
    obtain ⟨hshort, hneq⟩ | ⟨part, hpart, rfl⟩ := Packet.prefix_append hfront
    · exact (hpiece.needs.fails n hshort hneq).bind _
    · have hpartcut : ∀ k, part ≠ stream (pieces.take k) := by
        rintro k rfl
        exact hcut (k + 1) rfl
      have hlength : part.length ≤ bound := by
        have hpiecepos : 0 < piece.2.length := List.length_pos_iff.mpr hpiece.ne_nil
        rw [List.length_append] at hbound
        omega
      obtain ⟨e, s, hfail⟩ :=
        ih hpieces (piece.1 :: found) (n + piece.2.length) hlength hpart hpartcut (hpartcut 0)
      exact ⟨e, s, (Actions.bind_of_ok (hpiece.needs.reads part n)).trans hfail⟩

/-- A stream is parsed to the descriptors that are laid out in it, all of them and in order, and no front of
it that ends inside of a descriptor is parsed at all. -/
theorem parse_stream {version : ProtocolVersion} (pieces : List (Descriptor × Bytes))
    (h : ∀ piece ∈ pieces, IsLaidOut version piece.1 piece.2) :
    parse version (stream pieces) = .ok (pieces.map (·.1)) ∧
      ∀ front, front <+: stream pieces → (∀ k, front ≠ stream (pieces.take k)) →
        ∃ e, parse version front = .error e := by
  constructor
  · exact (readsAll_untilEnd h [] (Nat.le_refl _)).runOn_eq
  · intro front hfront hcut
    obtain ⟨e, s, hfail⟩ := failsOn_untilEnd h [] 0 (Nat.le_refl _) hfront hcut
    have hfail : untilEnd version front.length [] (Packet.Reader.ofBytes front) = .error e s := hfail
    exact ⟨e, by rw [parse, GetM.runOn, hfail]⟩

/-- The scalar `str`, the shape of an object with an identifier of this type, and an annotation, in the second
dialect. The length of the shape covers two bytes that stand behind it. -/
def userPieces : List (Descriptor × Bytes) :=
  [(⟨⟨0, 0x101⟩, some "str", .scalar none []⟩,
      [0, 0, 0, 27, 3] ++ (Uuid.mk 0 0x101).toBytes ++ [0, 0, 0, 3, 115, 116, 114, 1, 0, 0]),
    (⟨⟨0, 0xC1⟩, none, .objectShape [⟨0, some .one, "id", 0⟩]⟩,
      [0, 0, 0, 39, 1] ++ (Uuid.mk 0 0xC1).toBytes ++
        [1, 255, 255, 0, 1, 0, 0, 0, 0, 0x41, 0, 0, 0, 2, 105, 100, 0, 0, 0, 7, 9, 9]),
    (⟨Uuid.nil, none, .note⟩, [0, 0, 0, 3, 0x7F, 5, 6])]

/-- The three descriptors are laid out in their bytes. -/
private theorem isLaidOut_userPieces : ∀ piece ∈ userPieces, IsLaidOut ⟨2, 0⟩ piece.1 piece.2 := by
  have hstr : IsText "str" _ := .intro (by decide)
  have hid : IsText "id" _ := .intro (by decide)
  have hnone : IsCounted IsPosition [] _ := .intro [] (by decide) (by simp)
  have helement : IsElement true ⟨0, some .one, "id", 0⟩ _ := .intro 0 .one 0 [0, 7] hid rfl
  have helements : IsCounted (IsElement true) [⟨0, some .one, "id", 0⟩] _ :=
    .intro [(_, _)] (by simp) (by simpa using helement)
  have hscalar : IsSecond _ _ :=
    .intro [] (.typed ⟨0, 0x101⟩ (.scalar (.intro (.intro 1 hstr) hnone))) (by decide)
  have hshape : IsSecond _ _ :=
    .intro [9, 9] (.typed ⟨0, 0xC1⟩ (.objectShape 1 0xFFFF helements)) (by decide)
  have hnote : IsSecond _ _ := .intro [5, 6] .note (by decide)
  simp only [userPieces, List.forall_mem_cons]
  exact ⟨hscalar, hshape, hnote, by simp⟩

/-- The three descriptors are parsed, and a stream that breaks off inside of the second one is not. -/
theorem parse_stream_user :
    (∀ piece ∈ userPieces, IsLaidOut ⟨2, 0⟩ piece.1 piece.2) ∧
      parse ⟨2, 0⟩ (stream userPieces) = .ok (userPieces.map (·.1)) ∧
      ∃ e, parse ⟨2, 0⟩ ((stream userPieces).take 40) = .error e := by
  obtain ⟨hparse, hcut⟩ := parse_stream userPieces isLaidOut_userPieces
  refine ⟨isLaidOut_userPieces, hparse, hcut _ (List.take_prefix 40 _) ?_⟩
  intro k heq
  have hlength := congrArg List.length heq
  match k with
  | 0 | 1 | 2 => exact absurd hlength (by decide)
  | k + 3 =>
    have hall : userPieces.take (k + 3) = userPieces := List.take_of_length_le (Nat.le_add_left 3 k)
    rw [hall] at hlength
    exact absurd hlength (by decide)

end Descriptor

end GelClient
