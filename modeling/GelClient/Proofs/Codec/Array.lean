import GelClient.Proofs.Codec.Sparse
import Mathlib.Algebra.Group.Nat.Defs

/-!
# Payloads of arrays and sets

An array is a header with two bounds and an element for each position between them, and a set is laid out
in the same way. What the codec of the container makes of such a payload is what the codec of the elements
makes of each of them, in their order and up to the first error: `ReadsPayloads` says so for every payload
and every pair of bounds, and also what becomes of payloads without positions.

An array inside of a set has an envelope around it. `SetElement` is such an element, with the arrays that
the reader takes out of their envelopes and the envelopes that it refuses.
-/

namespace GelClient

open Packet (Get GetM Reader)
open Packet.GetM (Reads HasOutcome)

/-- An element of an array as it stands in the payload. -/
inductive ArrayElement where
  /-- No value, which a negative length says. -/
  | absent (length : Int32)
  /-- The payload of a value, behind its length. -/
  | present (payload : Bytes)

namespace ArrayElement

/-- The length of an element is one that the format has. -/
def Fits : ArrayElement → Prop
  | absent length => length < 0
  | present payload => payload.length < 2 ^ 31

instance : DecidablePred Fits
  | absent length => inferInstanceAs (Decidable (length < 0))
  | present payload => inferInstanceAs (Decidable (payload.length < 2 ^ 31))

/-- The bytes of an element. -/
def toBytes : ArrayElement → Bytes
  | absent length => BigEndian.encode 4 length.toUInt32.toNat
  | present payload => BigEndian.encode 4 payload.length ++ payload

/-- The value that a codec finds in an element. -/
def decode (item : Codec) : ArrayElement → Except CodecError Value
  | absent _ => .ok .nothing
  | present payload => item.decode payload

end ArrayElement

/-- An element of a set of arrays as it stands in the payload. -/
inductive SetElement where
  /-- No envelope, which a negative length says. -/
  | absent (length : Int32)
  /-- An envelope with one element: a reserved word, the element, and bytes that nobody reads. -/
  | enveloped (reserved : UInt32) (element : ArrayElement) (extra : Bytes)
  /-- An envelope that counts its elements otherwise, whatever it holds. -/
  | miscounted (elements : Int32) (content : Bytes)

namespace SetElement

/-- What stands behind the length of an envelope. -/
def envelope : SetElement → Bytes
  | absent _ => []
  | enveloped reserved element extra =>
    BigEndian.encode 4 (1 : Int32).toUInt32.toNat ++
      (BigEndian.encode 4 reserved.toNat ++ element.toBytes) ++ extra
  | miscounted elements content => BigEndian.encode 4 elements.toUInt32.toNat ++ content

/-- The lengths of an element are ones that the format has. -/
def Fits : SetElement → Prop
  | absent length => length < 0
  | enveloped reserved element extra =>
    element.Fits ∧ (enveloped reserved element extra).envelope.length < 2 ^ 31
  | miscounted elements content => elements ≠ 1 ∧ (miscounted elements content).envelope.length < 2 ^ 31

instance : DecidablePred Fits
  | absent length => inferInstanceAs (Decidable (length < 0))
  | enveloped _ element _ => inferInstanceAs (Decidable (element.Fits ∧ _ < 2 ^ 31))
  | miscounted elements _ => inferInstanceAs (Decidable (elements ≠ 1 ∧ _ < 2 ^ 31))

/-- The bytes of an element. -/
def toBytes : SetElement → Bytes
  | absent length => BigEndian.encode 4 length.toUInt32.toNat
  | e => BigEndian.encode 4 e.envelope.length ++ e.envelope

/-- The value that the codec of the arrays finds in an element. -/
def decode (item : Codec) : SetElement → Except CodecError Value
  | absent _ => .ok .nothing
  | enveloped _ element _ => element.decode item
  | miscounted elements _ => .error (.invalidEnvelope elements)

end SetElement

namespace Codec

/-- The front of every header: the number of dimensions, and two words without meaning in one. -/
def dimensionBytes (dimensions : Int32) (reserved : UInt64) : Bytes :=
  BigEndian.encode 4 dimensions.toUInt32.toNat ++ BigEndian.encode 8 reserved.toNat

/-- The bounds of the only dimension. -/
def boundBytes (upper lower : Int32) : Bytes :=
  BigEndian.encode 4 upper.toUInt32.toNat ++ BigEndian.encode 4 lower.toUInt32.toNat

/-- The reader reads payloads of containers whose elements are of the type `ι`. An element that `fits` has
the bytes `toBytes` and the value `outcome`, and `wrap` makes a container of the values. -/
structure ReadsPayloads {ι : Type} (read : Bytes → Except CodecError Value) (wrap : List Value → Value)
    (fits : ι → Prop) (toBytes : ι → Bytes) (outcome : ι → Except CodecError Value) : Prop where
  /-- The elements at the positions from any lower bound on give the values of the container, or the first
  error among them. -/
  elements : ∀ (reserved : UInt64) (lower : Int32) (es : List ι), es ≠ [] → (∀ e ∈ es, fits e) →
    lower.toInt + es.length - 1 ≤ Int32.maxValue.toInt → ∀ more,
      read (dimensionBytes 1 reserved ++ (boundBytes (Int32.ofInt (lower.toInt + es.length - 1)) lower ++
        es.flatMap toBytes) ++ more) = (es.mapM outcome).map wrap
  empty : ∀ reserved more, read (dimensionBytes 0 reserved ++ more) = .ok (wrap [])
  dimensions : ∀ d reserved more, d ≠ 0 → d ≠ 1 →
    read (dimensionBytes d reserved ++ more) = .error (.unsupportedDimensions d.toInt)
  bounds : ∀ reserved upper lower more, upper < lower →
    read (dimensionBytes 1 reserved ++ boundBytes upper lower ++ more) = .error (.invalidBounds lower upper)

/-- The words without meaning are passed over. -/
theorem reads_skip_reserved (reserved : UInt64) :
    Reads (liftM (Get.skip 8) : GetM CodecError Unit) (BigEndian.encode 8 reserved.toNat) () :=
  (Get.reads_skip (BigEndian.encode 8 reserved.toNat)).lift

/-- Zero dimensions have no positions. -/
theorem reads_getArrayCount_empty (reserved : UInt64) : Reads getArrayCount (dimensionBytes 0 reserved) 0 :=
  (Get.reads_int32 0).lift.bind ((reads_skip_reserved reserved).bind_nil (GetM.reads_pure 0))

/-- Other numbers of dimensions than zero and one are refused. -/
theorem hasOutcome_getArrayCount_dimensions {d : Int32} (h0 : d ≠ 0) (h1 : d ≠ 1) (reserved : UInt64) :
    HasOutcome getArrayCount (dimensionBytes d reserved) (.error (.unsupportedDimensions d.toInt)) := by
  refine (Get.reads_int32 d).lift.bind_hasOutcome ?_
  rw [← List.append_nil (BigEndian.encode 8 reserved.toNat)]
  refine (reads_skip_reserved reserved).bind_hasOutcome ?_
  simp only [if_neg h0, if_pos h1]
  exact GetM.hasOutcome_throw _

/-- Bounds give the number of positions between them, if there are any. -/
theorem hasOutcome_getArrayCount_bounds (reserved : UInt64) (upper lower : Int32) :
    HasOutcome getArrayCount (dimensionBytes 1 reserved ++ boundBytes upper lower)
      (if upper < lower then .error (.invalidBounds lower upper)
      else .ok (upper.toInt - lower.toInt + 1).toNat) := by
  rw [dimensionBytes, List.append_assoc]
  refine (Get.reads_int32 1).lift.bind_hasOutcome ((reads_skip_reserved reserved).bind_hasOutcome ?_)
  refine (Get.reads_int32 upper).lift.bind_hasOutcome ?_
  rw [← List.append_nil (BigEndian.encode 4 lower.toUInt32.toNat)]
  refine (Get.reads_int32 lower).lift.bind_hasOutcome ?_
  split
  · exact GetM.hasOutcome_throw _
  · exact GetM.reads_pure _

/-- A codec that reads the number of positions and then its elements reads payloads of these elements. -/
theorem readsPayloads_of_hasOutcome {ι : Type} {c : Codec} {element : GetM CodecError Value}
    {wrap : List Value → Value} {fits : ι → Prop} {toBytes : ι → Bytes} {outcome : ι → Except CodecError Value}
    (hget : c.get = do
      let count ← getArrayCount
      return wrap (← GetM.times count element))
    (h : ∀ e, fits e → HasOutcome element (toBytes e) (outcome e)) :
    ReadsPayloads c.decode wrap fits toBytes outcome where
  elements reserved lower es hne hfits hlast more := by
    have hpos : 0 < es.length := List.length_pos_iff.mpr hne
    have hlower := lower.le_toInt
    have hupper : (Int32.ofInt (lower.toInt + es.length - 1)).toInt = lower.toInt + es.length - 1 :=
      Int32.toInt_ofInt_of_le (by omega) (by rw [Int32.toInt_maxValue] at hlast; omega)
    have hcount := hasOutcome_getArrayCount_bounds reserved (Int32.ofInt (lower.toInt + es.length - 1)) lower
    have hordered : ¬ Int32.ofInt (lower.toInt + es.length - 1) < lower := by
      rw [Int32.lt_iff_toInt_lt, hupper]
      omega
    have hnumber : (lower.toInt + es.length - 1 - lower.toInt + 1).toNat = es.length := by omega
    rw [if_neg hordered, hupper, hnumber] at hcount
    have hitems := (HasOutcome.times fun e he => h e (hfits e he)).bind_pure wrap
    rw [decode, hget, ← List.append_assoc (dimensionBytes 1 reserved)]
    exact (Reads.bind_hasOutcome hcount hitems).runOn_append more
  empty reserved more := by
    have hitems : Reads (do return wrap (← GetM.times 0 element) : GetM CodecError Value) [] (wrap []) :=
      (GetM.reads_pure []).bind_pure
    rw [decode, hget]
    exact ((reads_getArrayCount_empty reserved).bind_nil hitems).runOn_append more
  dimensions d reserved more h0 h1 := by
    have hfails := (hasOutcome_getArrayCount_dimensions h0 h1 reserved).bind_error
      (fun count => do return wrap (← GetM.times count element)) []
    rw [List.append_nil] at hfails
    rw [decode, hget]
    exact hfails.runOn_append more
  bounds reserved upper lower more hlt := by
    have hcount := hasOutcome_getArrayCount_bounds reserved upper lower
    rw [if_pos hlt] at hcount
    have hfails := hcount.bind_error (fun count => do return wrap (← GetM.times count element)) []
    rw [List.append_nil] at hfails
    rw [decode, hget]
    exact hfails.runOn_append more

/-- An element is read as its codec does, up to the end of its payload. -/
theorem hasOutcome_arrayElement (item : Codec) {e : ArrayElement} (h : e.Fits) :
    HasOutcome (getElementWith item.get) e.toBytes (e.decode item) := by
  cases e with
  | absent length => exact (Get.reads_block?_of_neg h).bind_pure.lift.bind_nil (GetM.reads_pure _)
  | present payload =>
    have hfits : ∀ p ∈ some payload, p.length < 2 ^ 31 := by
      intro p hp
      rwa [← Option.some.inj hp]
    exact hasOutcome_getElementWith item hfits

/-- Reads the content of an envelope. -/
def getEnvelope (payload : GetM CodecError Value) : GetM CodecError Value := do
  let elements ← Get.int32
  if elements ≠ 1 then throw (.invalidEnvelope elements)
  Get.skip 4
  getElementWith payload

/-- An envelope is read from exactly the bytes that its length counts. -/
theorem hasOutcome_getEnvelopedWith (payload : GetM CodecError Value) {envelope : Bytes}
    (h : envelope.length < 2 ^ 31) :
    HasOutcome (getEnvelopedWith payload) (BigEndian.encode 4 envelope.length ++ envelope)
      (GetM.runOn envelope (getEnvelope payload)) := by
  refine (Get.reads_count h).lift.bind_hasOutcome ?_
  rw [if_neg (Get.not_ofNat_lt_zero h), Int32.toNatClampNeg_ofNat_of_lt h]
  have hwindow : Reads (Get.window envelope.length) envelope (Reader.ofBytes envelope) :=
    (Get.reads_raw envelope).bind_pure
  have hcontent := GetM.hasOutcome_onReader (getEnvelope payload) envelope
  have hall := hwindow.lift.bind_hasOutcome (f := fun own => GetM.onReader own (getEnvelope payload)) hcontent
  rw [List.append_nil] at hall
  exact hall

/-- An envelope that counts one element has the outcome of this element, behind a reserved word. -/
theorem hasOutcome_getEnvelope (item : Codec) (reserved : UInt32) {e : ArrayElement} (h : e.Fits) :
    HasOutcome (getEnvelope item.get)
      (BigEndian.encode 4 (1 : Int32).toUInt32.toNat ++ (BigEndian.encode 4 reserved.toNat ++ e.toBytes))
      (e.decode item) := by
  have hskip : Reads (liftM (Get.skip 4) : GetM CodecError Unit) (BigEndian.encode 4 reserved.toNat) () :=
    (Get.reads_skip (BigEndian.encode 4 reserved.toNat)).lift
  exact (Get.reads_int32 1).lift.bind_hasOutcome (hskip.bind_hasOutcome (hasOutcome_arrayElement item h))

/-- An envelope with another count is refused, whatever it holds. -/
theorem hasOutcome_getEnvelope_miscounted (payload : GetM CodecError Value) {elements : Int32}
    (h : elements ≠ 1) :
    HasOutcome (getEnvelope payload) (BigEndian.encode 4 elements.toUInt32.toNat)
      (.error (.invalidEnvelope elements)) := by
  rw [← List.append_nil (BigEndian.encode 4 elements.toUInt32.toNat)]
  refine (Get.reads_int32 elements).lift.bind_hasOutcome ?_
  rw [if_pos h]
  exact GetM.hasOutcome_throw _

/-- An element of a set of arrays is read as the codec of the arrays does, if its envelope is in order. -/
theorem hasOutcome_setElement (item : Codec) {e : SetElement} (h : e.Fits) :
    HasOutcome (getEnvelopedWith item.get) e.toBytes (e.decode item) := by
  cases e with
  | absent length =>
    have hneg : length < 0 := h
    refine (Get.reads_int32 length).lift.bind_nil ?_
    rw [if_pos hneg]
    exact GetM.reads_pure _
  | enveloped reserved element extra =>
    have hcontent := (hasOutcome_getEnvelope item reserved h.1).runOn_append extra
    rw [SetElement.decode, ← hcontent]
    exact hasOutcome_getEnvelopedWith item.get h.2
  | miscounted elements content =>
    have hcontent := (hasOutcome_getEnvelope_miscounted item.get h.1).runOn_append content
    rw [SetElement.decode, ← hcontent]
    exact hasOutcome_getEnvelopedWith item.get h.2

/-- The number of positions does not leave the range of signed words of eight bytes, in which it is
counted, for any bounds. -/
private theorem toInt_positions (upper lower : Int32) :
    (upper.toInt64 - lower.toInt64 + 1).toInt = upper.toInt - lower.toInt + 1 := by
  have hupper := upper.le_toInt
  have hupper' := upper.toInt_lt
  have hlower := lower.le_toInt
  have hlower' := lower.toInt_lt
  rw [Int64.toInt_add, Int64.toInt_sub, Int32.toInt_toInt64, Int32.toInt_toInt64, Int64.toInt_one,
    Int.bmod_eq_of_le (n := upper.toInt - lower.toInt) (by omega) (by omega),
    Int.bmod_eq_of_le (by omega) (by omega)]

/-- Arrays are read element by element, for every lower bound and every number of elements up to the last
position that there is. Sets are read in the same way, and if they are of arrays, from the envelopes of
these. Payloads without a dimension are empty, and other numbers of dimensions and bounds in the wrong order
are refused. The number of positions is exact for all bounds. -/
theorem readsPayloads_array_set (item : Codec) :
    ReadsPayloads (array item).decode .array ArrayElement.Fits ArrayElement.toBytes
        (ArrayElement.decode item) ∧
      (item.isArray = false → ReadsPayloads (set item).decode .set ArrayElement.Fits ArrayElement.toBytes
        (ArrayElement.decode item)) ∧
      (item.isArray = true → ReadsPayloads (set item).decode .set SetElement.Fits SetElement.toBytes
        (SetElement.decode item)) ∧
      ∀ reserved upper lower, lower ≤ upper →
        Reads getArrayCount (dimensionBytes 1 reserved ++ boundBytes upper lower)
          (upper.toInt64 - lower.toInt64 + 1).toInt.toNat ∧
        (upper.toInt64 - lower.toInt64 + 1).toInt = upper.toInt - lower.toInt + 1 := by
  refine ⟨readsPayloads_of_hasOutcome (by rw [Codec.get]) fun e => hasOutcome_arrayElement item,
    fun h => readsPayloads_of_hasOutcome (by rw [Codec.get, h]; rfl) fun e => hasOutcome_arrayElement item,
    fun h => readsPayloads_of_hasOutcome (by rw [Codec.get, h]; rfl) fun e => hasOutcome_setElement item,
    fun reserved upper lower h => ⟨?_, toInt_positions upper lower⟩⟩
  have hcount := hasOutcome_getArrayCount_bounds reserved upper lower
  rw [if_neg (Int32.not_lt.mpr h)] at hcount
  rwa [toInt_positions]

/-- The elements at the last two positions that there are: an array in an envelope with bytes behind it, and
no envelope. -/
def lastElements : List SetElement :=
  [.enveloped 7 (.present ([0, 0, 0, 1, 0, 0, 0, 0, 0, 0, 0, 0, 0, 0, 0, 1, 0, 0, 0, 1] ++
    [0, 0, 0, 2, 0, 5])) [8, 9], .absent (-2)]

/-- A set of arrays is read from its last two positions. -/
theorem readsPayloads_array_set_lastElements :
    (array (.scalar .int16)).isArray = true ∧ (∀ e ∈ lastElements, e.Fits) ∧
      (Int32.maxValue - 1).toInt + lastElements.length - 1 ≤ Int32.maxValue.toInt ∧
      (set (array (.scalar .int16))).decode (dimensionBytes 1 0 ++
        (boundBytes Int32.maxValue (Int32.maxValue - 1) ++ lastElements.flatMap SetElement.toBytes) ++ []) =
          .ok (.set [.array [.int16 5], .nothing]) := by
  have hfits : ∀ e ∈ lastElements, e.Fits := by decide
  have hlast : (Int32.maxValue - 1).toInt + lastElements.length - 1 ≤ Int32.maxValue.toInt := by decide
  have hread := ((readsPayloads_array_set (array (.scalar .int16))).2.2.1 rfl).elements 0
    (Int32.maxValue - 1) lastElements (by decide) hfits hlast []
  exact ⟨rfl, hfits, hlast, hread⟩

end Codec

end GelClient
