import GelClient.Codec.Decode
import GelClient.Proofs.Codec.Normal
import GelClient.Proofs.Codec.Uniform
import GelClient.Proofs.Packet.Convey
import Mathlib.Algebra.Group.Nat.Defs

/-!
# Values survive the wire

What a codec writes for a value it reads back, up to the last byte, as the normal form of the value.
The writer and the reader are separate functions. They are matched piece by piece: scalars, elements
behind their length, intervals, rows of elements, and at the end codecs by their tree.
-/

namespace GelClient

open Packet (Put PutM Get GetM Reader)
open Packet.PutM (IsUniform)
open Packet.GetM (Reads ReadsAll)

namespace Scalar

/-- What is written of a text is read back. -/
theorem readsAll_restText (text : String) :
    ReadsAll restText (Utf8.encode text) text := by
  intro n
  exact ⟨_, by simp [restText, Bind.bind, EStateM.bind, Get.rest, Get.utf8]; rfl, rfl⟩

/-- A document is read back; an empty one is none. -/
theorem readsAll_getJson (text : String) :
    ReadsAll getJson (BigEndian.encode 1 jsonFormat.toNat ++ Utf8.encode text)
      (Value.json text).normalScalar := by
  refine ReadsAll.unlessEmpty Value.nothing (by simp [BigEndian.encode]) ?_
  refine (Get.reads_uint8 jsonFormat).lift.bind_readsAll ?_
  by_cases ht : text = ""
  · subst ht
    exact GetM.readsAll_unlessEmpty_nil Value.nothing _
  · have hbytes : Utf8.encode text ≠ [] := fun h => ht (Utf8.eq_empty_of_encode_eq_nil h)
    simp only [Value.normalScalar, if_neg ht]
    exact ReadsAll.unlessEmpty Value.nothing hbytes (readsAll_restText text).lift.bind_pure

/-- A value that is written as one piece is read back as one piece. -/
theorem readsAll_piece {α : Type} {write : Put Unit} {read : Get α} {p b : Bytes} {a : α}
    (wrap : α → Value) (hw : write.bytes? = .ok p) (hr : Reads read p a)
    (h : (liftM write : PutM CodecError Unit).bytes? = .ok b) :
    ReadsAll (do return wrap (← read) : GetM CodecError Value) b (wrap a) := by
  rw [PutM.bytes?_liftM_eq_ok, hw, Except.ok.injEq] at h
  exact h ▸ hr.lift.bind_pure.readsAll

/-- What a scalar writes it reads back. -/
theorem readsAll_get {s : Scalar} {v : Value} {b : Bytes} (h : (s.put v).bytes? = .ok b) :
    ReadsAll s.get b v.normalScalar := by
  have hraw (bytes : Bytes) : IsUniform (liftM (Put.raw bytes) : PutM CodecError Unit) :=
    (PutM.isUniform_raw bytes).lift
  unfold put at h
  split at h
  case h_1 id => exact readsAll_piece .uuid (PutM.bytes?_uuid id) (Get.reads_uuid id) h
  case h_2 text =>
    rw [PutM.bytes?_liftM_eq_ok, PutM.bytes?_raw, Except.ok.injEq] at h
    exact h ▸ (readsAll_restText text).lift.bind_pure
  case h_3 payload =>
    rw [PutM.bytes?_liftM_eq_ok, PutM.bytes?_raw, Except.ok.injEq] at h
    exact h ▸ (Get.readsAll_rest payload).lift.bind_pure
  case h_4 n => exact readsAll_piece .int16 (PutM.bytes?_raw _) (Get.reads_int16 n) h
  case h_5 n => exact readsAll_piece .int32 (PutM.bytes?_raw _) (Get.reads_int32 n) h
  case h_6 n => exact readsAll_piece .int64 (PutM.bytes?_raw _) (Get.reads_int64 n) h
  case h_7 bits => exact readsAll_piece .float32 (PutM.bytes?_raw _) (Get.reads_uint32 bits) h
  case h_8 bits => exact readsAll_piece .float64 (PutM.bytes?_raw _) (Get.reads_uint64 bits) h
  case h_9 n => exact (Decimal.reads_get h).bind_pure.readsAll
  case h_10 b => exact readsAll_piece .bool (PutM.bytes?_raw _) (Get.reads_bool b) h
  case h_11 t => exact readsAll_piece (.datetime ⟨·⟩) (PutM.bytes?_raw _) (Get.reads_int64 t.micros) h
  case h_12 t =>
    exact readsAll_piece (.localDatetime ⟨·⟩) (PutM.bytes?_raw _) (Get.reads_int64 t.micros) h
  case h_13 t => exact readsAll_piece (.localDate ⟨·⟩) (PutM.bytes?_raw _) (Get.reads_int32 t.days) h
  case h_14 t => exact readsAll_piece (.localTime ⟨·⟩) (PutM.bytes?_raw _) (Get.reads_int64 t.micros) h
  case h_15 t =>
    obtain rfl := Except.ok.inj ((PutM.bytes?_three _ _ _).symm.trans h)
    have hskip : Reads (liftM (Get.skip 8) : GetM CodecError Unit)
        (BigEndian.encode 4 0 ++ BigEndian.encode 4 0) () :=
      (Get.reads_skip (BigEndian.encode 4 0 ++ BigEndian.encode 4 0)).lift
    exact ((Get.reads_int64 t.micros).lift.bind hskip.bind_pure).readsAll
  case h_16 text =>
    obtain ⟨p, hp, rfl⟩ := (PutM.bytes?_raw_bind_eq_ok (hraw _)).mp h
    rw [PutM.bytes?_liftM_eq_ok, PutM.bytes?_raw, Except.ok.injEq] at hp
    exact hp ▸ readsAll_getJson text
  case h_17 n => exact (BigInt.reads_get h).bind_pure.readsAll
  case h_18 t =>
    obtain rfl := Except.ok.inj ((PutM.bytes?_three _ _ _).symm.trans h)
    refine ((Get.reads_int64 t.micros).lift.bind ?_).readsAll
    exact (Get.reads_int32 t.days).lift.bind (Get.reads_int32 t.months).lift.bind_pure
  case h_19 t =>
    obtain rfl := Except.ok.inj ((PutM.bytes?_three _ _ _).symm.trans h)
    refine ((Get.reads_skip (BigEndian.encode 8 0)).lift.bind ?_).readsAll
    exact (Get.reads_int32 t.days).lift.bind (Get.reads_int32 t.months).lift.bind_pure
  case h_20 n => exact readsAll_piece .memory (PutM.bytes?_raw _) (Get.reads_int64 n) h
  case h_21 => simp at h

end Scalar

namespace Codec

/-- Whatever the codec writes for the value, it reads back to the last byte as the normal form. -/
def RoundTrips (c : Codec) (v : Value) : Prop :=
  ∀ pick b, (putAs pick c v).bytes? = .ok b → ReadsAll c.get b (c.normal v)

variable {c : Codec} {v : Value} {b : Bytes}

/-- Scalars read back what they write. -/
theorem roundTrips_scalar (s : Scalar) (v : Value) : RoundTrips (.scalar s) v := by
  intro pick b h
  rw [putAs] at h
  rw [get_scalar, normal]
  exact s.readsAll_get h

/-- A present value is read back from its own bytes. -/
theorem RoundTrips.reads_block (hc : RoundTrips c v) {pick : Bool}
    (h : (PutM.withLength (putAs pick c v)).bytes? = .ok b) :
    Reads (getBlockWith c.get) b (c.normal v) := by
  obtain ⟨p, hp, hlength, rfl⟩ := (PutM.bytes?_withLength_eq_ok (isUniform_putAs c pick v)).mp h
  exact (Get.reads_block hlength).lift.bind_nil (hc pick p hp).onReader

/-- An absent element is read back from the marker. -/
theorem reads_absent (h : (liftM Put.null : PutM CodecError Unit).bytes? = .ok b) :
    Reads (getElementWith c.get) b .nothing := by
  rw [Put.null, PutM.bytes?_liftM_eq_ok] at h
  obtain rfl := Except.ok.inj ((PutM.bytes?_raw _).symm.trans h)
  exact Get.reads_window?_none.lift.bind_nil (GetM.reads_pure _)

/-- An element of a container is read back from its own bytes, and an absent one from the marker. -/
theorem RoundTrips.reads_element (hc : RoundTrips c v)
    (h : (putElementWith c (putAs true c) v).bytes? = .ok b) :
    Reads (getElementWith c.get) b (c.normal v) := by
  by_cases hv : v.isNothing
  · rw [putElementWith, if_pos hv] at h
    rw [Value.isNothing_iff.mp hv, normal_nothing]
    exact reads_absent h
  · rw [putElementWith, if_neg hv, putPresent] at h
    split at h
    · obtain ⟨p, hp, hlength, rfl⟩ := (PutM.bytes?_withLength_eq_ok (isUniform_putAs c true v)).mp h
      exact (Get.reads_window? hlength).lift.bind_nil (hc true p hp).onReader
    · simp at h

/-- A bound of an interval is read back from its own bytes. -/
theorem RoundTrips.reads_bound (hc : RoundTrips c v)
    (h : (putBoundWith c (fun pick => putAs pick c) v).bytes? = .ok b) :
    Reads (getBlockWith c.get) b (c.normal v) := by
  unfold putBoundWith putPresent at h
  split at h
  · exact hc.reads_block h
  · split at h
    · exact hc.reads_block h
    · simp at h

/-- The flags of an interval tell which bounds it has and which of them belong to it. -/
private theorem rangeFlags_bits {r : Range Value} (h : r.isEmpty = false) :
    rangeFlags r &&& 0x01 = 0 ∧ (rangeFlags r &&& 0x02 != 0) = r.includesLower ∧
      (rangeFlags r &&& 0x04 != 0) = r.includesUpper ∧ (rangeFlags r &&& 0x08 != 0) = r.lower.isNone ∧
      (rangeFlags r &&& 0x10 != 0) = r.upper.isNone := by
  simp only [rangeFlags, h, Bool.false_eq_true, if_false]
  cases r.includesLower <;> cases r.includesUpper <;> cases r.lower.isNone <;>
    cases r.upper.isNone <;> decide

/-- A bound that an interval may lack is read back. -/
theorem reads_getBoundWith {o : Option Value} (hc : ∀ w ∈ o.toList, RoundTrips c w)
    (h : (o.forM (putBoundWith c fun pick => putAs pick c)).bytes? = .ok b) :
    Reads (getBoundWith c.get o.isNone) b (o.map c.normal) := by
  cases o with
  | none =>
    obtain rfl := Except.ok.inj (PutM.bytes?_pure.symm.trans h)
    exact GetM.reads_pure none
  | some w => exact ((hc w (by simp)).reads_bound h).bind_pure

/-- An interval is read back from its flags and its bounds. -/
theorem reads_getRangeWith {r : Range Value} (hc : ∀ w ∈ bounds r, RoundTrips c w)
    (h : (putRangeWith (putBoundWith c fun pick => putAs pick c) r).bytes? = .ok b) :
    Reads (getRangeWith c.get) b (normalRange c.normal r) := by
  have hbound (o : Option Value) : IsUniform (o.forM (putBoundWith c fun pick => putAs pick c)) :=
    isUniform_forM_option o fun w => isUniform_putBoundWith w fun pick => isUniform_putAs c pick w
  unfold putRangeWith at h
  by_cases hr : r.isEmpty
  · simp only [if_pos hr] at h
    obtain ⟨p, hp, rfl⟩ := (PutM.bytes?_raw_bind_eq_ok (PutM.isUniform_pure ())).mp h
    obtain rfl := Except.ok.inj (PutM.bytes?_pure.symm.trans hp)
    have hflags : rangeFlags r = 0x01 := if_pos hr
    rw [normalRange, if_pos hr, hflags]
    exact (Get.reads_uint8 0x01).lift.bind (GetM.reads_pure _)
  · simp only [if_neg hr] at h
    obtain ⟨p, hp, rfl⟩ := (PutM.bytes?_raw_bind_eq_ok ((hbound r.lower).bind fun _ => hbound r.upper)).mp h
    obtain ⟨l, u, hl, hu, rfl⟩ := (PutM.bytes?_bind_eq_ok (hbound r.lower) (hbound r.upper)).mp hp
    have hlower := reads_getBoundWith (fun w hw => hc w (by simp [bounds, hr, hw])) hl
    have hupper := reads_getBoundWith (fun w hw => hc w (by simp [bounds, hr, hw])) hu
    obtain ⟨hempty, hinl, hinu, hnol, hnou⟩ := rangeFlags_bits (Bool.eq_false_iff.mpr hr)
    rw [normalRange, if_neg hr]
    refine (Get.reads_uint8 (rangeFlags r)).lift.bind ?_
    simp only [hempty, ne_eq, not_true_eq_false, if_false, hinl, hinu, hnol, hnou]
    refine hlower.bind (hupper.bind_nil ?_)
    rw [show r.isEmpty = false from Bool.eq_false_iff.mpr hr]
    exact GetM.reads_pure _

/-- A row of elements, each behind a reserved word, is read back if its first element and the rest
of it are. -/
theorem reads_row {α : Type} {element rest : PutM CodecError Unit} {item : GetM CodecError Value}
    {next : Value → GetM CodecError α} {w : Value} {a : α} (he : IsUniform element) (hu : IsUniform rest)
    (hitem : ∀ p, element.bytes? = .ok p → Reads item p w)
    (hnext : ∀ p, rest.bytes? = .ok p → Reads (next w) p a)
    (h : (do Put.int32 0; element; rest : PutM CodecError Unit).bytes? = .ok b) :
    Reads (do Get.skip 4; let v ← item; next v : GetM CodecError α) b a := by
  have hskip : Reads (liftM (Get.skip 4) : GetM CodecError Unit)
      (BigEndian.encode 4 (0 : Int32).toUInt32.toNat) () :=
    (Get.reads_skip (BigEndian.encode 4 0)).lift
  obtain ⟨p, hp, rfl⟩ := (PutM.bytes?_raw_bind_eq_ok (he.bind fun _ => hu)).mp h
  obtain ⟨q, r, hq, hr, rfl⟩ := (PutM.bytes?_bind_eq_ok he hu).mp hp
  exact hskip.bind ((hitem q hq).bind (hnext r hr))

/-- The items of a tuple are read back. -/
theorem reads_getItems {cs : List Codec} {vs : List Value} (hlength : vs.length = cs.length)
    (hc : ∀ c v, (c, v) ∈ cs.zip vs → RoundTrips c v) (h : (putEach cs vs).bytes? = .ok b) :
    Reads (getItems cs) b (normalEach cs vs) := by
  induction cs generalizing vs b with
  | nil =>
    simp only [putEach] at h
    obtain rfl := Except.ok.inj (PutM.bytes?_pure.symm.trans h)
    simp only [getItems, normalEach]
    exact GetM.reads_pure []
  | cons c cs ih =>
    cases vs with
    | nil => simp at hlength
    | cons v vs =>
      have hrest (p : Bytes) (hp : (putEach cs vs).bytes? = .ok p) :
          Reads (getItems cs) p (normalEach cs vs) :=
        ih (by simpa using hlength) (fun d w hw => hc d w (by simp [hw])) hp
      simp only [putEach] at h
      simp only [getItems, normalEach]
      refine reads_row (isUniform_putElementWith v (isUniform_putAs c true v)) ?_
        (fun p hp => (hc c v (by simp)).reads_element hp) (fun p hp => (hrest p hp).bind_pure) h
      exact isUniform_putEach cs (fun d _ => isUniform_putAs d) vs

/-- The fields of a named tuple are read back in the order of the codec. -/
theorem reads_getNamed {codecs : List (String × Codec)} {fields : List (String × Value)}
    (hc : ∀ name c v, (name, c) ∈ codecs → Value.lookup name fields = some v → RoundTrips c v)
    (h : (putNamed codecs fields).bytes? = .ok b) :
    Reads (getNamed codecs) b (normalNamed codecs fields) := by
  induction codecs generalizing b with
  | nil =>
    simp only [putNamed] at h
    obtain rfl := Except.ok.inj (PutM.bytes?_pure.symm.trans h)
    simp only [getNamed, normalNamed]
    exact GetM.reads_pure []
  | cons f codecs ih =>
    obtain ⟨name, c⟩ := f
    have hrest (p : Bytes) (hp : (putNamed codecs fields).bytes? = .ok p) :
        Reads (getNamed codecs) p (normalNamed codecs fields) :=
      ih (fun n d w hd hw => hc n d w (by simp [hd]) hw) hp
    simp only [putNamed] at h
    simp only [getNamed, normalNamed]
    split at h
    · simp at h
    next v hv =>
      rw [hv, Option.getD_some]
      refine reads_row (isUniform_putElementWith v (isUniform_putAs c true v)) ?_
        (fun p hp => (hc name c v (by simp) hv).reads_element hp) (fun p hp => (hrest p hp).bind_pure) h
      exact isUniform_putNamed codecs (fun f _ => isUniform_putAs f.2) fields

/-- A supplied value is the first one of its name. -/
theorem lookup_of_supplied? {fields : List (String × Value)} {name : String}
    (h : supplied? fields name = some v) : Value.lookup name fields = some v :=
  (Option.filter_eq_some_iff.mp h).1

/-- What is not supplied is absent or has no first value. -/
theorem lookup_of_supplied?_none {fields : List (String × Value)} {name : String}
    (h : supplied? fields name = none) : (Value.lookup name fields).getD .nothing = .nothing := by
  cases hl : Value.lookup name fields with
  | none => rfl
  | some v => simpa [supplied?, hl, Value.isNothing_iff] using h

/-- The elements of an object are read back in the order of its shape. -/
theorem reads_getShape {shape : List (ShapeElement Codec)} {fields : List (String × Value)}
    (hc : ∀ e ∈ shape, ∀ v, Value.lookup e.name fields = some v → RoundTrips e.codec v)
    (h : (putShape shape fields).bytes? = .ok b) :
    Reads (getShape shape) b (normalShape shape fields) := by
  induction shape generalizing b with
  | nil =>
    simp only [putShape] at h
    obtain rfl := Except.ok.inj (PutM.bytes?_pure.symm.trans h)
    simp only [getShape, normalShape]
    exact GetM.reads_pure []
  | cons e shape ih =>
    have hus : IsUniform (putShape shape fields) :=
      isUniform_putShape shape (fun e _ => isUniform_putAs e.codec) fields
    have hrest (p : Bytes) (hp : (putShape shape fields).bytes? = .ok p) :
        Reads (getShape shape) p (normalShape shape fields) :=
      ih (fun d hd w hw => hc d (by simp [hd]) w hw) hp
    simp only [putShape] at h
    simp only [getShape, normalShape]
    split at h
    next v hv =>
      have hl := lookup_of_supplied? hv
      rw [hl, Option.getD_some]
      exact reads_row (isUniform_putElementWith v (isUniform_putAs e.codec true v)) hus
        (fun p hp => (hc e (by simp) v hl).reads_element hp) (fun p hp => (hrest p hp).bind_pure) h
    next hv =>
      rw [lookup_of_supplied?_none hv, normal_nothing]
      split at h
      · exact reads_row (PutM.isUniform_raw _).lift hus (fun p hp => reads_absent hp)
          (fun p hp => (hrest p hp).bind_pure) h
      · refine reads_row (PutM.isUniform_throw _) hus (fun p hp => ?_)
          (fun p hp => (hrest p hp).bind_pure) h
        simp at hp

/-- An element of an input shape is read back at the position of the first element of its name. -/
theorem reads_getSparse {shape : List (ShapeElement Codec)} {name : String} {index : Nat}
    (outOfRange : CodecError) (hi : ObjectShape.position? shape name = some index)
    (hc : ∀ e, shape.find? (·.name == name) = some e → RoundTrips e.codec v)
    (h : (putSparse shape name v).bytes? = .ok b) :
    Reads (getSparse shape index outOfRange) b (name, normalSparse shape name v) := by
  induction shape generalizing index with
  | nil => simp [ObjectShape.position?] at hi
  | cons e shape ih =>
    rw [ObjectShape.position?_cons] at hi
    simp only [putSparse] at h
    by_cases he : e.name == name
    · rw [if_pos he, Option.some.injEq] at hi
      subst hi
      rw [if_pos he] at h
      simp only [getSparse, normalSparse, if_pos he]
      rw [← beq_iff_eq.mp he]
      exact ((hc e (by simp [he])).reads_element h).bind_pure
    · rw [if_neg he] at h hi
      obtain ⟨i, hp, rfl⟩ := Option.map_eq_some_iff.mp hi
      simp only [getSparse, normalSparse, if_neg he]
      exact ih hp (fun d hd => hc d (by simpa [he] using hd)) h

/-- A count that must be the expected one is read back. -/
theorem reads_getCount {n : Nat} (h : n < 2 ^ 31) : Reads (getCount n) (BigEndian.encode 4 n) () := by
  refine (Get.reads_count h).lift.bind_nil ?_
  simp only [Int32.toInt_ofNat_of_lt h, ne_eq, not_true_eq_false, if_false]
  exact GetM.reads_pure ()

/-- An action that has a packet for itself reads it to the end. -/
theorem readsAll_getWhole {α : Type} {payload : GetM CodecError α} {a : α} (h : ReadsAll payload b a) :
    ReadsAll (getWhole payload) b a := by
  intro n
  obtain ⟨r, hr, -⟩ := h n
  refine ⟨{}, ?_, rfl⟩
  change GetM.onReader ⟨b, n⟩ payload {} = .ok a {}
  simp only [GetM.onReader, hr]

/-- The header of an array without items. -/
theorem reads_getArrayCount_zero :
    Reads getArrayCount (BigEndian.encode 4 0 ++ (BigEndian.encode 4 0 ++ BigEndian.encode 4 0)) 0 := by
  have hskip : Reads (liftM (Get.skip 8) : GetM CodecError Unit)
      (BigEndian.encode 4 0 ++ BigEndian.encode 4 0) () :=
    (Get.reads_skip (BigEndian.encode 4 0 ++ BigEndian.encode 4 0)).lift
  exact (Get.reads_int32 0).lift.bind (hskip.bind_nil (GetM.reads_pure 0))

/-- The header of an array with `n` items: one dimension, from 1 to `n`. -/
def arrayHeader (n : Nat) : Bytes :=
  BigEndian.encode 4 1 ++ (BigEndian.encode 4 0 ++ (BigEndian.encode 4 0 ++
    (BigEndian.encode 4 n ++ BigEndian.encode 4 1)))

/-- The items of an array are written behind its header, if a signed number can count them. -/
theorem bytes?_arrayHeader {n : Nat} {items : PutM CodecError Unit} (hu : IsUniform items)
    (h : (do
      Put.int32 1; Put.int32 0; Put.int32 0; PutM.signedCount n; Put.int32 1
      items : PutM CodecError Unit).bytes? = .ok b) :
    n < 2 ^ 31 ∧ ∃ p, items.bytes? = .ok p ∧ b = arrayHeader n ++ p := by
  have hraw (bytes : Bytes) : IsUniform (liftM (Put.raw bytes) : PutM CodecError Unit) :=
    (PutM.isUniform_raw bytes).lift
  have hitems := (hraw (BigEndian.encode 4 1)).bind fun _ => hu
  have hcount := (PutM.isUniform_signedCount n).bind fun _ => hitems
  have hzero := (hraw (BigEndian.encode 4 0)).bind fun _ => hcount
  obtain ⟨p₁, h₁, rfl⟩ := (PutM.bytes?_raw_bind_eq_ok ((hraw _).bind fun _ => hzero)).mp h
  obtain ⟨p₂, h₂, rfl⟩ := (PutM.bytes?_raw_bind_eq_ok hzero).mp h₁
  obtain ⟨p₃, h₃, rfl⟩ := (PutM.bytes?_raw_bind_eq_ok hcount).mp h₂
  obtain ⟨hn, p₄, h₄, rfl⟩ := (PutM.bytes?_signedCount_bind_eq_ok hitems).mp h₃
  obtain ⟨p, hp, rfl⟩ := (PutM.bytes?_raw_bind_eq_ok hu).mp h₄
  refine ⟨hn, p, hp, ?_⟩
  simp only [arrayHeader, List.append_assoc]
  rfl

/-- The number of items is read back from the header of an array. -/
theorem reads_getArrayCount {n : Nat} (h0 : 0 < n) (h : n < 2 ^ 31) :
    Reads getArrayCount (arrayHeader n) n := by
  have hskip : Reads (liftM (Get.skip 8) : GetM CodecError Unit)
      (BigEndian.encode 4 0 ++ BigEndian.encode 4 0) () :=
    (Get.reads_skip (BigEndian.encode 4 0 ++ BigEndian.encode 4 0)).lift
  have hbounds : ¬ Int32.ofNat n < 1 := by
    rw [Int32.lt_iff_toInt_lt, Int32.toInt_ofNat_of_lt h]
    simp
    omega
  have hcount : ((Int32.ofNat n).toInt - (1 : Int32).toInt + 1).toNat = n := by
    rw [Int32.toInt_ofNat_of_lt h]
    simp
  have hbytes : arrayHeader n = BigEndian.encode 4 1 ++ ((BigEndian.encode 4 0 ++ BigEndian.encode 4 0) ++
      (BigEndian.encode 4 n ++ BigEndian.encode 4 1)) := by
    simp only [arrayHeader, List.append_assoc]
  rw [hbytes]
  refine (Get.reads_int32 1).lift.bind (hskip.bind ?_)
  refine (Get.reads_count h).lift.bind ((Get.reads_int32 1).lift.bind_nil ?_)
  simp only [if_neg hbounds, hcount]
  exact GetM.reads_pure n

/-- An array is read back if its items are. -/
theorem roundTrips_array {item : Codec} {v : Value}
    (hc : ∀ d w, Hands (.array item) v d w → RoundTrips d w) : RoundTrips (.array item) v := by
  intro pick b h
  simp only [putAs] at h
  split at h
  · obtain rfl := Except.ok.inj ((PutM.bytes?_three _ _ _).symm.trans h)
    simp only [get, normal, List.map_nil]
    exact (reads_getArrayCount_zero.bind_nil (GetM.reads_pure []).bind_pure).readsAll
  next items hne =>
    have hitem (w : Value) : IsUniform (putElementWith item (putAs true item) w) :=
      isUniform_putElementWith w (isUniform_putAs item true w)
    obtain ⟨hn, p, hp, rfl⟩ := bytes?_arrayHeader (PutM.isUniform_forM items fun w _ => hitem w) h
    have hread := Packet.reads_times_of_forM (fun w _ => hitem w)
      (fun w hw q hq => (hc item w (.item hw)).reads_element hq) hp
    have hheader := reads_getArrayCount (List.length_pos_iff.mpr fun h0 => hne h0) hn
    simp only [get, normal]
    exact (hheader.bind hread.bind_pure).readsAll
  · simp at h

/-- An interval is read back if its bounds are. -/
theorem roundTrips_range {bound : Codec} {v : Value}
    (hc : ∀ d w, Hands (.range bound) v d w → RoundTrips d w) : RoundTrips (.range bound) v := by
  intro pick b h
  simp only [putAs] at h
  split at h
  next r =>
    simp only [get, normal]
    exact (reads_getRangeWith (fun w hw => hc bound w (.bound hw)) h).bind_pure.readsAll
  · simp at h

/-- Several intervals are read back if their bounds are. -/
theorem roundTrips_multirange {bound : Codec} {v : Value}
    (hc : ∀ d w, Hands (.multirange bound) v d w → RoundTrips d w) :
    RoundTrips (.multirange bound) v := by
  intro pick b h
  simp only [putAs] at h
  split at h
  next rs =>
    have hrange (r : Range Value) :
        IsUniform (putRangeWith (putBoundWith bound fun pick => putAs pick bound) r) :=
      isUniform_putRangeWith r fun w => isUniform_putBoundWith w fun pick => isUniform_putAs bound pick w
    have hranges := PutM.isUniform_forM rs fun r _ => PutM.isUniform_withLength (hrange r)
    obtain ⟨hn, p, hp, rfl⟩ := (PutM.bytes?_signedCount_bind_eq_ok hranges).mp h
    have hread : Reads (GetM.times rs.length (getBlockWith (getRangeWith bound.get))) p
        (rs.map (normalRange bound.normal)) := by
      refine Packet.reads_times_of_forM (fun r _ => PutM.isUniform_withLength (hrange r)) ?_ hp
      intro r hr q hq
      obtain ⟨own, hown, hlength, rfl⟩ := (PutM.bytes?_withLength_eq_ok (hrange r)).mp hq
      have hone := reads_getRangeWith (fun w hw => hc bound w (.piece hr hw)) hown
      exact (Get.reads_block hlength).lift.bind_nil hone.readsAll.onReader
    simp only [get, normal]
    refine ((Get.reads_count hn).lift.bind ?_).readsAll
    rw [Int32.toNatClampNeg_ofNat_of_lt hn]
    exact hread.bind_pure
  · simp at h

/-- A tuple is read back if its items are. -/
theorem roundTrips_tuple {codecs : List Codec} {v : Value}
    (hc : ∀ d w, Hands (.tuple codecs) v d w → RoundTrips d w) : RoundTrips (.tuple codecs) v := by
  intro pick b h
  simp only [putAs] at h
  split at h
  next items =>
    have hus : IsUniform (putEach codecs items) :=
      isUniform_putEach codecs (fun d _ => isUniform_putAs d) items
    unfold putCounted at h
    by_cases hlength : items.length = codecs.length
    · simp only [hlength, ne_eq, not_true_eq_false, if_false] at h
      obtain ⟨hn, p, hp, rfl⟩ := (PutM.bytes?_signedCount_bind_eq_ok hus).mp h
      have hitems := reads_getItems hlength (fun d w hw => hc d w (.component hw)) hp
      simp only [get, normal]
      exact ((reads_getCount hn).bind hitems.bind_pure).readsAll
    · simp only [ne_eq, hlength, not_false_eq_true, if_true] at h
      split at h <;> simp at h
  · simp at h

/-- A named tuple is read back if its fields are. -/
theorem roundTrips_namedTuple {codecs : List (String × Codec)} {v : Value}
    (hc : ∀ d w, Hands (.namedTuple codecs) v d w → RoundTrips d w) :
    RoundTrips (.namedTuple codecs) v := by
  intro pick b h
  simp only [putAs] at h
  split at h
  next fields hf =>
    split at h
    · simp at h
    · have hus : IsUniform (putNamed codecs fields) :=
        isUniform_putNamed codecs (fun f _ => isUniform_putAs f.2) fields
      obtain ⟨hn, p, hp, rfl⟩ := (PutM.bytes?_signedCount_bind_eq_ok hus).mp h
      have hfields := reads_getNamed (fun name d w hd hw => hc d w (.named hf hd hw)) hp
      simp only [get, normal, hf]
      exact ((reads_getCount hn).bind hfields.bind_pure).readsAll
  · simp at h

/-- An object is read back if its elements are. -/
theorem roundTrips_object {shape : ObjectShape} {v : Value}
    (hc : ∀ d w, Hands (.object shape) v d w → RoundTrips d w) : RoundTrips (.object shape) v := by
  intro pick b h
  simp only [putAs] at h
  split at h
  next fields hf =>
    have hus : IsUniform (putShape shape fields) :=
      isUniform_putShape shape (fun e _ => isUniform_putAs e.codec) fields
    obtain ⟨hn, p, hp, rfl⟩ := (PutM.bytes?_signedCount_bind_eq_ok hus).mp h
    have hfields := reads_getShape (fun e he w hw => hc e.codec w (.element hf he hw)) hp
    simp only [get, normal, hf]
    exact readsAll_getWhole ((reads_getCount hn).bind hfields.bind_pure).readsAll
  · simp at h

/-- A field whose name is known has a position. -/
theorem exists_position?_of_known {shape : ObjectShape} {fields : List (String × Value)}
    (h : (fields.find? fun f => (shape.position? f.1).isNone) = none) {f : String × Value} (hf : f ∈ fields) :
    ∃ i, shape.position? f.1 = some i :=
  Option.ne_none_iff_exists'.mp (by simpa using List.find?_eq_none.mp h f hf)

/-- An input shape is read back if the supplied elements are and there are not more of them than the
shape has. -/
theorem roundTrips_sparseObject {shape : ObjectShape} {v : Value}
    (hlength : ∀ fields, fields? v = some fields → fields.length ≤ shape.length)
    (hc : ∀ d w, Hands (.sparseObject shape) v d w → RoundTrips d w) :
    RoundTrips (.sparseObject shape) v := by
  intro pick b h
  simp only [putAs] at h
  split at h
  next fields hf =>
    split at h
    · simp at h
    next hknown =>
      have hu : ∀ f ∈ fields, IsUniform (putSparseEntry shape f) :=
        fun f _ => isUniform_putSparseEntry shape (fun e _ => isUniform_putAs e.codec) f
      obtain ⟨hn, p, hp, rfl⟩ := (PutM.bytes?_signedCount_bind_eq_ok (PutM.isUniform_forM fields hu)).mp h
      simp only [get, normal, hf]
      refine ((Get.reads_count hn).lift.bind ?_).readsAll
      have hcount : ¬ (Int32.ofNat fields.length < 0 ∨ shape.length < fields.length) :=
        not_or.mpr ⟨Get.not_ofNat_lt_zero hn, Nat.not_lt.mpr (hlength fields hf)⟩
      simp only [Int32.toNatClampNeg_ofNat_of_lt hn, if_neg hcount]
      refine (Packet.reads_times_of_forM hu (fun f hmem q hq => ?_) hp).bind_pure
      obtain ⟨i, hi⟩ := exists_position?_of_known hknown hmem
      rw [putSparseEntry, hi, Option.getD_some] at hq
      obtain ⟨hsmall, own, hown, rfl⟩ := (PutM.bytes?_signedCount_bind_eq_ok
        (isUniform_putSparse shape (fun e _ => isUniform_putAs e.codec) f.1 f.2)).mp hq
      refine (Get.reads_count hsmall).lift.bind ?_
      simp only [if_neg (Get.not_ofNat_lt_zero hsmall), Int32.toNatClampNeg_ofNat_of_lt hsmall]
      exact reads_getSparse _ hi (fun e he => hc e.codec f.2 (.supplied hf hmem he)) hown
  · simp at h

/-- A member of an enumeration is read back from its name. -/
theorem roundTrips_enumeration (members : List String) (v : Value) :
    RoundTrips (.enumeration members) v := by
  intro pick b h
  have hmember {name : String}
      (h : (if members.contains name then liftM (Put.raw (Utf8.encode name))
        else throw (.invalidValue (.notEnumMember name)) : PutM CodecError Unit).bytes? = .ok b) :
      ReadsAll (get (.enumeration members)) b (Value.enumMember name) := by
    split at h
    next hname =>
      rw [PutM.bytes?_liftM_eq_ok, PutM.bytes?_raw, Except.ok.injEq] at h
      simp only [get, ← h]
      refine (Scalar.readsAll_restText name).lift.bind ?_
      rw [if_pos hname]
      exact GetM.reads_pure _
    · simp at h
  simp only [putAs] at h
  split at h
  · exact hmember h
  · exact hmember h
  · simp at h

/-- Codecs without the type without data, sets and compounds read back what they write, if no input
shape is given more fields than it has elements. -/
theorem IsPlain.roundTrips (hc : IsPlain c) : ∀ v, NoneOverfull c v → RoundTrips c v := by
  induction hc with
  | scalar s =>
    intro v _
    exact roundTrips_scalar s v
  | array _ ih =>
    intro v hv
    refine roundTrips_array fun d w hd => ?_
    cases hd with
    | item hw => exact ih w (hv.of_hands (.item hw))
  | range _ ih =>
    intro v hv
    refine roundTrips_range fun d w hd => ?_
    cases hd with
    | bound hw => exact ih w (hv.of_hands (.bound hw))
  | multirange _ ih =>
    intro v hv
    refine roundTrips_multirange fun d w hd => ?_
    cases hd with
    | piece hr hw => exact ih w (hv.of_hands (.piece hr hw))
  | tuple _ ih =>
    intro v hv
    refine roundTrips_tuple fun d w hd => ?_
    cases hd with
    | component hw => exact ih d (List.of_mem_zip hw).1 w (hv.of_hands (.component hw))
  | namedTuple _ ih =>
    intro v hv
    refine roundTrips_namedTuple fun d w hd => ?_
    cases hd with
    | named hf hd hw => exact ih (_, d) hd w (hv.of_hands (.named hf hd hw))
  | object _ ih =>
    intro v hv
    refine roundTrips_object fun d w hd => ?_
    cases hd with
    | element hf he hw => exact ih _ he w (hv.of_hands (.element hf he hw))
  | sparseObject _ ih =>
    intro v hv
    refine roundTrips_sparseObject (fun fields hf => hv _ _ _ (.here _ _) hf) fun d w hd => ?_
    cases hd with
    | supplied hf hw he => exact ih _ (List.mem_of_find?_eq_some he) w (hv.of_hands (.supplied hf hw he))
  | enumeration members =>
    intro v _
    exact roundTrips_enumeration members v

/-- What a codec writes for a value on an empty packet it reads back to the last byte, as the normal
form of the value. -/
theorem get_of_encode {c : Codec} {v : Value} {b : Bytes} (hc : IsPlain c) (hv : NoneOverfull c v)
    (h : c.encode v = .ok b) : ∃ r, c.get (Reader.ofBytes b) = .ok (c.normal v) r ∧ r.rest = [] :=
  hc.roundTrips v hv false b h 0

/-- A price of zero with two fraction digits. -/
def zeroPrice (negative : Bool) : Decimal :=
  { negative, integral := [0], fraction := [0, 0], canonical_integral := rfl }

/-- The update of an article: its price and any of its labels. -/
def articleCodec : Codec :=
  .object [⟨"price", .scalar .decimal, none, 0⟩,
    ⟨"labels", .sparseObject [⟨"color", .enumeration ["red", "blue"], none, 0⟩,
      ⟨"sizes", .array (.scalar .int16), none, 0⟩], none, 0⟩]

/-- An update whose fields come in another order, with one field too many and a label as a text. -/
def article : Value :=
  .namedTuple [("labels", .namedTuple [("color", .str "blue")]), ("other", .bool true),
    ("price", .decimal (zeroPrice true))]

/-- The payload of the update. -/
def articleBytes : Bytes :=
  [0, 0, 0, 2, 0, 0, 0, 0, 0, 0, 0, 8, 0, 0, 0, 0, 0, 0, 0, 2,
    0, 0, 0, 0, 0, 0, 0, 16, 0, 0, 0, 1, 0, 0, 0, 0, 0, 0, 0, 4, 98, 108, 117, 101]

/-- The update is read back in declared order, without the sign of its price. -/
theorem get_of_encode_article :
    articleCodec.encode article = .ok articleBytes ∧
      ∃ r, articleCodec.get (Reader.ofBytes articleBytes) =
          .ok (.object [("price", .decimal (zeroPrice false)),
            ("labels", .object [("color", .enumMember "blue")])]) r ∧ r.rest = [] := by
  have hplain : articleCodec.IsPlain :=
    .object (by simp [IsPlain.scalar, IsPlain.array, IsPlain.enumeration, IsPlain.sparseObject])
  have hfull : articleCodec.NoneOverfull article := by
    refine noneOverfull_of_hands (fun _ _ h => by cases h) fun d w hd => ?_
    cases hd with
    | element hf he hw =>
      cases hf
      simp only [List.mem_cons, List.not_mem_nil, or_false] at he
      obtain rfl | rfl := he
      · exact noneOverfull_of_hands (fun _ _ h => by cases h) fun d w hd => by cases hd
      · cases hw
        refine noneOverfull_of_hands (fun shape fields h hf => ?_) fun d w hd => ?_
        · cases h
          cases hf
          decide
        · cases hd with
          | supplied hf hw he =>
            cases hf
            obtain ⟨rfl, rfl⟩ := Prod.mk.inj (List.mem_singleton.mp hw)
            cases he
            exact noneOverfull_of_hands (fun _ _ h => by cases h) fun d w hd => by cases hd
  have hbytes : articleCodec.encode article = .ok articleBytes := by rfl
  have hnormal : articleCodec.normal article = .object [("price", .decimal (zeroPrice false)),
      ("labels", .object [("color", .enumMember "blue")])] := by rfl
  rw [← hnormal]
  exact ⟨hbytes, get_of_encode hplain hfull hbytes⟩

end Codec

end GelClient
