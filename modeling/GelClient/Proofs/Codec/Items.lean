import GelClient.Proofs.Codec.Record
import GelClient.Proofs.Codec.Sparse
import GelClient.Proofs.Packet.Cost
import Mathlib.Algebra.Group.Nat.Defs

/-!
# Items and the bytes that carry them

Headers of arrays, sets and multiranges announce up to 2 ^ 32 items, and containers nest. What is read does
not follow the announcement: each item stands behind a length word of its own, so a result has no more items,
at all depths together, than its payload has words of four bytes. The proof charges the word to the item and
follows the tree of the codec; the bytes behind the word are left for what is inside of the item.
-/

namespace GelClient

open Packet (Get GetM Reader)
open Packet.GetM (Pays pays_pure pays_throw pays_throw_bind)

namespace Value

mutual

/-- How many items the arrays, sets and multiranges in a value have, at all depths together. -/
def itemCount : Value → Nat
  | array items | set items => items.length + itemCounts items
  | range r => rangeItemCount r
  | multirange rs => rs.length + rangeItemCounts rs
  | tuple items => itemCounts items
  | namedTuple fields | object fields => fieldItemCounts fields
  | _ => 0

/-- The items in several values. -/
def itemCounts : List Value → Nat
  | [] => 0
  | v :: vs => itemCount v + itemCounts vs

/-- The items in the values of fields. -/
def fieldItemCounts : List (String × Value) → Nat
  | [] => 0
  | (_, v) :: fields => itemCount v + fieldItemCounts fields

/-- The items in a bound. -/
def boundItemCount : Option Value → Nat
  | none => 0
  | some v => itemCount v

/-- The items in the bounds of an interval. -/
def rangeItemCount : Range Value → Nat
  | ⟨lower, upper, _, _, _⟩ => boundItemCount lower + boundItemCount upper

/-- The items in the bounds of several intervals. -/
def rangeItemCounts : List (Range Value) → Nat
  | [] => 0
  | r :: rs => rangeItemCount r + rangeItemCounts rs

end

/-- Items that cost a word each, besides what is in them. -/
private theorem sum_itemCount (items : List Value) :
    (items.map fun v => 4 + 4 * v.itemCount).sum = 4 * (items.length + itemCounts items) := by
  induction items with
  | nil => rfl
  | cons v items ih =>
    rw [List.map_cons, List.sum_cons, ih, List.length_cons, itemCounts]
    omega

/-- Fields cost what is in their values. -/
private theorem sum_fieldItemCount (fields : List (String × Value)) :
    (fields.map fun f => 4 * f.2.itemCount).sum = 4 * fieldItemCounts fields := by
  induction fields with
  | nil => rfl
  | cons f fields ih =>
    rw [List.map_cons, List.sum_cons, ih, fieldItemCounts]
    omega

/-- Intervals that cost a word each, besides what is in their bounds. -/
private theorem sum_rangeItemCount (rs : List (Range Value)) :
    (rs.map fun r => 4 + 4 * rangeItemCount r).sum = 4 * (rs.length + rangeItemCounts rs) := by
  induction rs with
  | nil => rfl
  | cons r rs ih =>
    rw [List.map_cons, List.sum_cons, ih, List.length_cons, rangeItemCounts]
    omega

end Value

open Value (itemCount itemCounts fieldItemCounts boundItemCount rangeItemCount rangeItemCounts)

/-- A group of a record is not given back. -/
theorem pays_getGroup : Pays 0 getGroup fun _ => 0 := by
  refine Get.pays_uint16.free.lift.bind fun group => ?_
  dsimp only
  split
  · exact pays_pure (Nat.le_refl _)
  · exact pays_throw _

/-- The groups of a record are not given back. -/
theorem pays_getGroups (present : Nat) (start : Int) (count : Nat) :
    Pays 0 (getGroups present start count) fun _ => 0 := by
  rw [getGroups]
  generalize ([] : List Nat) = found
  induction count generalizing found start with
  | zero => exact pays_pure (Nat.le_refl _)
  | succ count ih =>
    have hat : Pays 0 (getAt present start) fun _ => 0 := by
      rw [getAt]
      split
      · exact pays_getGroup
      · exact pays_pure (Nat.le_refl _)
    rw [getGroupsFrom_succ]
    exact hat.bind fun group => ih (start + 1) (group :: found)

/-- The header of a record is not given back. -/
theorem pays_getHeader : Pays 0 getHeader fun _ => 0 := by
  refine Get.pays_uint16.free.lift.bind fun present => ?_
  refine Get.pays_int16.free.lift.bind fun weight => ?_
  refine Get.pays_uint16.free.lift.bind fun sign => ?_
  exact Get.pays_uint16.free.lift.bind_pure fun _ => Nat.le_refl _

namespace Scalar

/-- A text up to the end of a payload takes all of it. -/
theorem pays_restText : Pays 0 restText fun _ => 0 := Get.pays_rest.bind Get.pays_utf8

/-- A document takes bytes and has no items. -/
theorem pays_getJson : Pays 0 getJson fun v => 4 * v.itemCount := by
  refine GetM.pays_get.bind fun r => ?_
  split
  · exact pays_pure (Nat.le_refl _)
  · refine Get.pays_uint8.free.lift.bind fun format => ?_
    split
    · exact pays_throw_bind _ _
    · refine GetM.pays_get.bind fun r => ?_
      split
      · exact pays_pure (Nat.le_refl _)
      · exact pays_restText.lift.bind_pure fun _ => Nat.le_refl _

/-- A scalar has no items. -/
theorem pays_get (s : Scalar) : Pays 0 s.get fun v => 4 * v.itemCount := by
  cases s with
  | uuid => exact Get.pays_uuid.free.lift.bind_pure fun _ => Nat.le_refl _
  | str => exact pays_restText.lift.bind_pure fun _ => Nat.le_refl _
  | bytes => exact Get.pays_rest.free.lift.bind_pure fun _ => Nat.le_refl _
  | int16 => exact Get.pays_int16.free.lift.bind_pure fun _ => Nat.le_refl _
  | int32 | localDate => exact Get.pays_int32.free.lift.bind_pure fun _ => Nat.le_refl _
  | int64 | datetime | localDatetime | localTime | memory =>
    exact Get.pays_int64.free.lift.bind_pure fun _ => Nat.le_refl _
  | float32 => exact Get.pays_uint32.free.lift.bind_pure fun _ => Nat.le_refl _
  | float64 => exact Get.pays_uint64.free.lift.bind_pure fun _ => Nat.le_refl _
  | decimal =>
    have hdecimal : Pays 0 Decimal.get fun _ => 0 := by
      refine pays_getHeader.bind fun header => ?_
      refine (pays_getGroups header.present _ _).bind fun integral => ?_
      exact (pays_getGroups header.present _ _).bind_pure fun _ => Nat.le_refl _
    exact hdecimal.bind_pure fun _ => Nat.le_refl _
  | bool => exact Get.pays_bool.free.lift.bind_pure fun _ => Nat.le_refl _
  | duration =>
    refine Get.pays_int64.free.lift.bind fun micros => ?_
    exact (Get.pays_skip 8).free.lift.bind_pure fun _ => Nat.le_refl _
  | json => exact pays_getJson
  | bigint =>
    have hinteger : Pays 0 BigInt.get fun _ => 0 := by
      refine pays_getHeader.bind fun header => ?_
      exact (pays_getGroups header.present _ _).bind_pure fun _ => Nat.le_refl _
    exact hinteger.bind_pure fun _ => Nat.le_refl _
  | relativeDuration =>
    refine Get.pays_int64.free.lift.bind fun micros => ?_
    refine Get.pays_int32.free.lift.bind fun days => ?_
    exact Get.pays_int32.free.lift.bind_pure fun _ => Nat.le_refl _
  | dateDuration =>
    refine (Get.pays_skip 8).free.lift.bind fun _ => ?_
    refine Get.pays_int32.free.lift.bind fun days => ?_
    exact Get.pays_int32.free.lift.bind_pure fun _ => Nat.le_refl _

end Scalar

namespace Codec

variable {payload : GetM CodecError Value}

/-- What the codec reads has four bytes for each of its items. -/
def PaysForItems (c : Codec) : Prop := Pays 0 c.get fun v => 4 * v.itemCount

/-- An element has a word of its own, besides the bytes for its items. -/
theorem pays_getElementWith (h : Pays 0 payload fun v => 4 * v.itemCount) :
    Pays 0 (getElementWith payload) fun v => 4 + 4 * v.itemCount := by
  refine Get.pays_window?.lift.bind fun own => ?_
  cases own with
  | none => exact pays_pure (Nat.le_refl _)
  | some own => exact (h.onReader own).mono fun v => by simp only [Option.elim_some]; omega

/-- What stands behind its length has a word of its own, besides the bytes for its content. -/
theorem pays_getBlockWith {α : Type} {payload : GetM CodecError α} {cost : α → Nat}
    (h : Pays 0 payload cost) : Pays 0 (getBlockWith payload) fun a => 4 + cost a := by
  refine Get.pays_block.lift.bind fun bytes => ?_
  exact (h.onReader (Reader.ofBytes bytes)).mono fun a => by simp only [Reader.ofBytes]; omega

/-- The bound of an interval has the bytes for its items. -/
theorem pays_getBoundWith (h : Pays 0 payload fun v => 4 * v.itemCount) (isInfinite : Bool) :
    Pays 0 (getBoundWith payload isInfinite) fun o => 4 * boundItemCount o := by
  rw [getBoundWith]
  split
  · exact pays_pure (Nat.le_refl _)
  · refine (pays_getBlockWith h).bind_pure fun v => ?_
    rw [boundItemCount]
    omega

/-- An interval has the bytes for the items in its bounds. -/
theorem pays_getRangeWith (h : Pays 0 payload fun v => 4 * v.itemCount) :
    Pays 0 (getRangeWith payload) fun r => 4 * rangeItemCount r := by
  refine Get.pays_uint8.free.lift.bind fun flags => ?_
  split
  · exact pays_pure (Nat.le_refl _)
  · refine (pays_getBoundWith h _).bind fun lower => ?_
    have hupper : Pays (4 * boundItemCount lower) (getBoundWith payload (flags &&& 0x10 != 0))
        fun upper => 4 * (boundItemCount lower + boundItemCount upper) :=
      (pays_getBoundWith h _).mono fun upper => by omega
    exact hupper.bind_pure fun upper => by simp only [rangeItemCount, Nat.le_refl]

/-- The header of an array or a set is not given back. -/
theorem pays_getArrayCount : Pays 0 getArrayCount fun _ => 0 := by
  refine Get.pays_int32.free.lift.bind fun dimensions => ?_
  refine (Get.pays_skip 8).free.lift.bind fun _ => ?_
  split
  · exact pays_pure (Nat.le_refl _)
  · split
    · exact pays_throw_bind _ _
    · refine Get.pays_int32.free.lift.bind fun upper => ?_
      refine Get.pays_int32.free.lift.bind fun lower => ?_
      split
      · exact pays_throw_bind _ _
      · exact pays_pure (Nat.le_refl _)

/-- A count of elements is not given back. -/
theorem pays_getCount (expected : Nat) : Pays 0 (getCount expected) fun _ => 0 := by
  refine Get.pays_int32.free.lift.bind fun found => ?_
  split
  · exact pays_throw _
  · exact pays_pure (Nat.le_refl _)

/-- An array inside of a set has a word of its own, that of its envelope. -/
theorem pays_getEnvelopedWith (h : Pays 0 payload fun v => 4 * v.itemCount) :
    Pays 0 (getEnvelopedWith payload) fun v => 4 + 4 * v.itemCount := by
  refine Get.pays_int32.lift.bind fun length => ?_
  split
  · exact pays_pure (Nat.le_refl _)
  · have hwindow : Pays 4 (Get.window length.toNatClampNeg) fun own => own.rest.length :=
      (Get.pays_window _).mono fun own => by omega
    refine hwindow.lift.bind fun own => Pays.onReader ?_ own
    refine Get.pays_int32.free.lift.bind fun elements => ?_
    split
    · exact pays_throw_bind _ _
    · exact (Get.pays_skip 4).free.lift.bind fun _ => pays_getElementWith h

/-- An action that takes the whole packet for itself has all of its bytes. -/
theorem pays_getWhole {α : Type} {payload : GetM CodecError α} {cost : α → Nat}
    (h : Pays 0 payload cost) : Pays 0 (getWhole payload) cost := by
  have hwhole : Pays 0 (modifyGet fun r => (r, {}) : GetM CodecError Reader) fun own => own.rest.length := by
    intro r own s hr
    cases hr
    exact Nat.le_refl _
  exact hwhole.bind fun own => h.onReader own

/-- An element behind its reserved word, and what is read behind it, have the bytes for the items of both. -/
theorem pays_reservedElement {β γ : Type} {rest : GetM CodecError β} {d : β → Nat} {e : γ → Nat}
    (h : Pays 0 payload fun v => 4 * v.itemCount) (hrest : Pays 0 rest d) (join : Value → β → γ)
    (hjoin : ∀ v b, e (join v b) ≤ 4 * v.itemCount + d b) :
    Pays 0 (do
      Get.skip 4
      let v ← getElementWith payload
      let b ← rest
      return join v b : GetM CodecError γ) e := by
  refine (Get.pays_skip 4).free.lift.bind fun _ => ?_
  refine (pays_getElementWith h).bind fun v => ?_
  have hboth : Pays (4 + 4 * v.itemCount) rest fun b => e (join v b) :=
    hrest.mono fun b => by
      have hcost := hjoin v b
      omega
  exact hboth.bind_pure fun _ => Nat.le_refl _

/-- The elements of a tuple have the bytes for their items. -/
theorem pays_getItems {cs : List Codec} (h : ∀ c ∈ cs, c.PaysForItems) :
    Pays 0 (getItems cs) fun vs => 4 * itemCounts vs := by
  induction cs with
  | nil =>
    rw [getItems]
    exact pays_pure (Nat.le_refl _)
  | cons c cs ih =>
    obtain ⟨hc, hcs⟩ := List.forall_mem_cons.mp h
    rw [getItems]
    refine pays_reservedElement hc (ih hcs) List.cons fun v vs => ?_
    rw [itemCounts]
    omega

/-- The fields of a named tuple have the bytes for their items. -/
theorem pays_getNamed {codecs : List (String × Codec)} (h : ∀ f ∈ codecs, f.2.PaysForItems) :
    Pays 0 (getNamed codecs) fun fields => 4 * fieldItemCounts fields := by
  induction codecs with
  | nil =>
    rw [getNamed]
    exact pays_pure (Nat.le_refl _)
  | cons f codecs ih =>
    obtain ⟨hf, hcodecs⟩ := List.forall_mem_cons.mp h
    rw [getNamed]
    refine pays_reservedElement hf (ih hcodecs) (fun v fields => (f.1, v) :: fields) fun v fields => ?_
    rw [fieldItemCounts]
    omega

/-- The elements of an object have the bytes for their items. -/
theorem pays_getShape {shape : ObjectShape} (h : ∀ e ∈ shape, e.codec.PaysForItems) :
    Pays 0 (getShape shape) fun fields => 4 * fieldItemCounts fields := by
  induction shape with
  | nil =>
    rw [getShape]
    exact pays_pure (Nat.le_refl _)
  | cons e shape ih =>
    obtain ⟨he, hshape⟩ := List.forall_mem_cons.mp h
    rw [getShape]
    refine pays_reservedElement he (ih hshape) (fun v fields => (e.name, v) :: fields) fun v fields => ?_
    rw [fieldItemCounts]
    omega

/-- An element of a sparse object has the bytes for its items. -/
theorem pays_getSparseEntry {shape : ObjectShape} (h : ∀ e ∈ shape, e.codec.PaysForItems) :
    Pays 0 (getSparseEntry shape) fun f => 4 * f.2.itemCount := by
  refine Get.pays_int32.free.lift.bind fun index => ?_
  split
  · exact pays_throw_bind _ _
  · rw [getSparse_eq]
    split
    next e he =>
      have hmem : e ∈ shape := List.mem_of_getElem? he
      exact (pays_getElementWith (h e hmem)).bind_pure fun v => Nat.le_add_left _ _
    next => exact pays_throw _

/-- What a codec reads has four bytes for each of its items, at all depths together. -/
theorem paysForItems (c : Codec) : c.PaysForItems := by
  rw [PaysForItems]
  induction c with
  | null =>
    rw [Codec.get]
    exact pays_pure (Nat.le_refl _)
  | scalar s =>
    rw [Codec.get]
    exact s.pays_get
  | array item ih =>
    rw [Codec.get]
    refine pays_getArrayCount.bind fun count => ?_
    refine ((pays_getElementWith ih).times count).bind_pure fun items => ?_
    simp only [Value.sum_itemCount, itemCount, Nat.le_refl]
  | set item ih =>
    rw [Codec.get]
    refine pays_getArrayCount.bind fun count => ?_
    have helement : Pays 0 (if item.isArray then getEnvelopedWith item.get else getElementWith item.get)
        fun v => 4 + 4 * v.itemCount := by
      split
      · exact pays_getEnvelopedWith ih
      · exact pays_getElementWith ih
    refine (helement.times count).bind_pure fun items => ?_
    simp only [Value.sum_itemCount, itemCount, Nat.le_refl]
  | range bound ih =>
    rw [Codec.get]
    refine (pays_getRangeWith ih).bind_pure fun r => ?_
    simp only [itemCount, Nat.le_refl]
  | multirange bound ih =>
    rw [Codec.get]
    refine Get.pays_int32.free.lift.bind fun count => ?_
    refine ((pays_getBlockWith (pays_getRangeWith ih)).times count.toNatClampNeg).bind_pure fun rs => ?_
    simp only [Value.sum_rangeItemCount, itemCount, Nat.le_refl]
  | tuple cs ih =>
    rw [Codec.get]
    refine (pays_getCount _).bind fun _ => ?_
    refine (pays_getItems ih).bind_pure fun vs => ?_
    simp only [itemCount, Nat.le_refl]
  | namedTuple codecs ih =>
    rw [Codec.get]
    refine (pays_getCount _).bind fun _ => ?_
    refine (pays_getNamed ih).bind_pure fun fields => ?_
    simp only [itemCount, Nat.le_refl]
  | object shape ih =>
    rw [Codec.get]
    refine pays_getWhole ((pays_getCount _).bind fun _ => ?_)
    refine (pays_getShape ih).bind_pure fun fields => ?_
    simp only [itemCount, Nat.le_refl]
  | sparseObject shape ih =>
    rw [Codec.get]
    refine Get.pays_int32.free.lift.bind fun count => ?_
    split
    · exact pays_throw_bind _ _
    · refine ((pays_getSparseEntry ih).times count.toNatClampNeg).bind_pure fun fields => ?_
      simp only [Value.sum_fieldItemCount, itemCount, Nat.le_refl]
  | enumeration members =>
    rw [Codec.get]
    refine Scalar.pays_restText.lift.bind fun name => ?_
    split
    · exact pays_pure (Nat.le_refl _)
    · exact pays_throw _
  | compound operation cs ih =>
    rw [Codec.get]
    refine (pays_getCount _).bind fun _ => ?_
    refine (pays_getItems ih).bind_pure fun vs => ?_
    simp only [itemCount, Nat.le_refl]

/-- A value has no more items, at all depths together, than the payload that it is read from has words of
four bytes, whatever the headers announce. -/
theorem itemCount_le_of_decode {c : Codec} {payload : Bytes} {v : Value} (h : c.decode payload = .ok v) :
    v.itemCount ≤ payload.length / 4 := by
  have hle : 4 * v.itemCount ≤ payload.length := c.paysForItems.le_of_runOn h
  omega

/-- A set of an array in its envelope, whose only item is absent, and of an absent array. -/
def nestedPayload : Bytes :=
  [0, 0, 0, 1, 0, 0, 0, 0, 0, 0, 0, 0, 0, 0, 0, 1, 0, 0, 0, 0] ++
    [0, 0, 0, 36, 0, 0, 0, 1, 0, 0, 0, 0, 0, 0, 0, 24] ++
    [0, 0, 0, 1, 0, 0, 0, 0, 0, 0, 0, 0, 0, 0, 0, 1, 0, 0, 0, 1, 255, 255, 255, 255] ++ [255, 255, 255, 255]

/-- Three items at two depths stay within the sixteen words of their payload. -/
theorem itemCount_le_of_decode_nested :
    (set (array (.scalar .int16))).decode nestedPayload = .ok (.set [.array [.nothing], .nothing]) ∧
      (Value.set [.array [.nothing], .nothing]).itemCount = 3 ∧ 3 ≤ nestedPayload.length / 4 := by
  have hread : (set (array (.scalar .int16))).decode nestedPayload =
      .ok (.set [.array [.nothing], .nothing]) := by rfl
  have hle := itemCount_le_of_decode hread
  have hcount : (Value.set [.array [.nothing], .nothing]).itemCount = 3 := by
    simp only [itemCount, itemCounts, List.length_cons, List.length_nil]
  exact ⟨hread, hcount, hcount ▸ hle⟩

end Codec

end GelClient
