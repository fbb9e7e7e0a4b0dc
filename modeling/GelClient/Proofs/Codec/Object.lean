import GelClient.Codec.Encode
import GelClient.Codec.Object
import GelClient.Proofs.Actions
import GelClient.Proofs.Codec.Arguments

/-!
# Three readers of one object

An object is read step by step by a cursor, at once by its codec, or into the slots of a record. The steps
of the cursor are those that reading at once is made of, so it does not matter when the steps end and the
rest is read at once. The slots are found from the names before there is a payload; the elements come in the
order of the shape and the fields are taken out in the order of the record. Both meet in the names: distinct
elements never share a slot, and what is taken out by one name leaves the slots of the others alone.
-/

namespace GelClient

open Packet (Get GetM Reader)
open Codec (supplied?)

namespace ObjectCursor

variable {c rest : ObjectCursor}

/-- The fields of an object from one that was read and those behind it. -/
def behind (field : ObjectField) (fields : List (String × Value)) : List (String × Value) :=
  (field.name, field.value) :: fields

/-- Reading all elements that are left takes one step and goes on from there. -/
theorem flatten_eq_next (c : ObjectCursor) :
    c.flatten =
      match c.next with
      | (.error e, _) => .error e
      | (.ok none, _) => .ok []
      | (.ok (some field), rest) => rest.flatten.map (behind field) := by
  rw [flatten]
  split
  next h => rw [h]
  next h => rw [h]
  next h =>
    simp only [h]
    rfl

/-- Where an element can be read, the cursor goes behind it. -/
theorem next_of_ok {e : ShapeElement Codec} {reader r : Reader} {field : ObjectField}
    (h : getField e reader = .ok field r) (pending : ObjectShape) :
    next ⟨reader, e :: pending⟩ = (.ok (some field), ⟨r, pending⟩) := by
  simp only [next, h]

/-- An element that cannot be read fails the step. -/
theorem next_of_error {e : ShapeElement Codec} {reader r : Reader} {err : CodecError}
    (h : getField e reader = .error err r) (pending : ObjectShape) :
    next ⟨reader, e :: pending⟩ = (.error err, ⟨r, pending⟩) := by
  simp only [next, h]

/-- Reading elements at once begins with the step that reads one of them. -/
private theorem getShape_cons (e : ShapeElement Codec) (shape : ObjectShape) :
    Codec.getShape (e :: shape) = do
      let field ← getField e
      let fields ← Codec.getShape shape
      return behind field fields := by
  rw [Codec.getShape, getField]
  simp only [bind_assoc, pure_bind]
  rfl

/-- Step by step a cursor reads what is read at once. -/
theorem flatten_eq_getShape (pending : ObjectShape) (reader : Reader) :
    flatten ⟨reader, pending⟩ =
      match Codec.getShape pending reader with
      | .ok fields _ => .ok fields
      | .error e _ => .error e := by
  induction pending generalizing reader with
  | nil => simp only [flatten_eq_next, next, Codec.getShape, Actions.pure_apply]
  | cons e pending ih =>
    rw [flatten_eq_next, getShape_cons]
    cases hfield : getField e reader with
    | error err r => rw [next_of_error hfield, Actions.bind_of_error hfield]
    | ok field r =>
      rw [next_of_ok hfield, Actions.bind_of_ok hfield]
      dsimp only
      rw [ih]
      cases hrest : Codec.getShape pending r with
      | error err s =>
        rw [Actions.bind_of_error hrest]
        rfl
      | ok fields s =>
        rw [Actions.bind_of_ok hrest]
        rfl

/-- A cursor stays where it is when nothing is left. -/
theorem eq_of_next_none (h : c.next = (.ok none, rest)) : rest = c := by
  rw [next] at h
  split at h
  next => exact (Prod.mk.inj h).2.symm
  next =>
    split at h
    · cases h
    · cases h

/-- The next `count` elements, or all if there are fewer, and the cursor behind them. -/
def advance : (count : Nat) → ObjectCursor → Except CodecError (List (String × Value) × ObjectCursor)
  | 0, c => .ok ([], c)
  | count + 1, c =>
    match c.next with
    | (.error e, _) => .error e
    | (.ok none, rest) => advance count rest
    | (.ok (some field), rest) => (advance count rest).map fun step => (behind field step.1, step.2)

/-- Reads up to `count` elements one by one and then all that are left. -/
def flattenAfter (count : Nat) (c : ObjectCursor) : Except CodecError (List (String × Value)) := do
  let (fields, rest) ← c.advance count
  return fields ++ (← rest.flatten)

/-- Reading one more element one by one is a step in front. -/
private theorem flattenAfter_succ (count : Nat) (c : ObjectCursor) :
    c.flattenAfter (count + 1) =
      match c.next with
      | (.error e, _) => .error e
      | (.ok none, rest) => rest.flattenAfter count
      | (.ok (some field), rest) => (rest.flattenAfter count).map (behind field) := by
  rw [flattenAfter, advance]
  split
  next => rfl
  next => rfl
  next field rest hnext =>
    rw [flattenAfter]
    cases rest.advance count with
    | error e => rfl
    | ok step =>
      cases hflatten : step.2.flatten with
      | error e => simp [Except.map, bind, Except.bind, hflatten]
      | ok fields => simp [Except.map, bind, Except.bind, hflatten, pure, Except.pure, behind]

/-- It makes no difference how many elements are read one by one. -/
theorem flattenAfter_eq (count : Nat) (c : ObjectCursor) : c.flattenAfter count = c.flatten := by
  induction count generalizing c with
  | zero => exact bind_pure c.flatten
  | succ count ih =>
    rw [flattenAfter_succ]
    split
    next e rest hnext => rw [flatten_eq_next, hnext]
    next rest hnext => rw [eq_of_next_none hnext, ih]
    next field rest hnext => rw [ih, flatten_eq_next c, hnext]

end ObjectCursor

/-- An action that takes the whole packet for itself gives the same result. -/
theorem Codec.runOn_getWhole {α : Type} (x : GetM CodecError α) (bytes : Bytes) :
    GetM.runOn bytes (getWhole x) = GetM.runOn bytes x := by
  have hwhole : getWhole x (Reader.ofBytes bytes) = GetM.onReader (Reader.ofBytes bytes) x {} := rfl
  rw [GetM.runOn, GetM.runOn, hwhole, GetM.onReader]
  cases x (Reader.ofBytes bytes) <;> rfl

namespace ObjectShape

variable {shape : ObjectShape} {payload : Bytes} {read : List (String × Value)}

/-- Reading an object begins with its count and goes on with a cursor or at once. -/
theorem runOn_getCount (shape : ObjectShape) (payload : Bytes) :
    GetM.runOn payload (do Codec.getCount shape.length; Codec.getShape shape) = shape.decode payload := by
  rw [decode, ObjectCursor.start, GetM.runOn]
  cases hcount : Codec.getCount shape.length (Reader.ofBytes payload) with
  | error e r =>
    rw [Actions.bind_of_error hcount]
    rfl
  | ok u r =>
    rw [Actions.bind_of_ok hcount]
    change _ = ObjectCursor.flatten ⟨r, shape⟩
    rw [ObjectCursor.flatten_eq_getShape]
    cases Codec.getShape shape r <;> rfl

/-- The codec of an object reads its fields and makes an object of them. -/
theorem decode_object (shape : ObjectShape) (payload : Bytes) :
    (Codec.object shape).decode payload = (shape.decode payload).map .object := by
  have hget : (Codec.object shape).get = Codec.getWhole
      ((do Codec.getCount shape.length; Codec.getShape shape) >>= fun fields => pure (.object fields)) := by
    rw [Codec.get]
    simp only [bind_assoc]
  rw [Codec.decode, hget, Codec.runOn_getWhole, GetM.runOn_bind_pure, runOn_getCount]

/-- The fields that are read at once are named as the elements of the shape. -/
theorem names_of_getShape {r s : Reader} (h : Codec.getShape shape r = .ok read s) :
    read.map (·.1) = shape.map (·.name) := by
  induction shape generalizing r read with
  | nil =>
    rw [Codec.getShape] at h
    cases h
    rfl
  | cons e shape ih =>
    rw [Codec.getShape] at h
    obtain ⟨_, _, -, h⟩ := Actions.bind_eq_ok.mp h
    obtain ⟨v, _, -, h⟩ := Actions.bind_eq_ok.mp h
    obtain ⟨fields, _, hfields, h⟩ := Actions.bind_eq_ok.mp h
    cases h
    rw [List.map_cons, List.map_cons, ih hfields]

/-- The fields of an object are named as the elements of its shape. -/
theorem names_of_decode (h : shape.decode payload = .ok read) : read.map (·.1) = shape.map (·.name) := by
  rw [← runOn_getCount, GetM.runOn] at h
  split at h
  next fields s hfields =>
    cases h
    obtain ⟨_, _, -, hshape⟩ := Actions.bind_eq_ok.mp hfields
    exact names_of_getShape hshape
  next => cases h

end ObjectShape

namespace Value

variable {f : String × Value} {name : String}

/-- The first field with a name has its value. -/
private theorem lookup_cons_of_eq (read : List (String × Value)) (h : f.1 = name) :
    lookup name (f :: read) = some f.2 := by
  have hfind : (f :: read).find? (·.1 == name) = some f := List.find?_cons_of_pos (beq_iff_eq.mpr h)
  rw [lookup, hfind, Option.map_some]

/-- A field of another name does not count. -/
private theorem lookup_cons_of_ne (read : List (String × Value)) (h : f.1 ≠ name) :
    lookup name (f :: read) = lookup name read := by
  have hfind : (f :: read).find? (·.1 == name) = read.find? (·.1 == name) :=
    List.find?_cons_of_neg (mt beq_iff_eq.mp h)
  rw [lookup, hfind, lookup]

end Value

namespace ObjectTarget

variable {target : ObjectTarget} {name other : String} {slot : Nat}

/-- The slot of a name is that of a field with this name. -/
theorem name_of_slot? (h : target.slot? name = some slot) :
    ∃ f, target.fields[slot]? = some f ∧ f.name = name := by
  obtain ⟨hlt, hname, -⟩ := List.findIdx?_eq_some_iff_getElem.mp h
  exact ⟨target.fields[slot], List.getElem?_eq_getElem hlt, beq_iff_eq.mp hname⟩

/-- Distinct names have distinct slots. -/
theorem slot?_ne (h : target.slot? name = some slot) (hne : other ≠ name) :
    target.slot? other ≠ some slot := by
  intro hother
  obtain ⟨f, hf, hname⟩ := name_of_slot? h
  obtain ⟨g, hg, hname'⟩ := name_of_slot? hother
  cases hf.symm.trans hg
  exact hne (hname'.symm.trans hname)

/-- Each field has a slot, that of the first one with its name. -/
theorem exists_slot? {f : TargetField} (hf : f ∈ target.fields) : ∃ slot, target.slot? f.name = some slot := by
  refine Option.isSome_iff_exists.mp ?_
  rw [slot?, List.findIdx?_isSome, List.any_eq_true]
  exact ⟨f, hf, beq_self_eq_true f.name⟩

end ObjectTarget

namespace BoundObject

variable {target : ObjectTarget} {shape : ObjectShape} {values : List (Option Value)}
  {read : List (String × Value)} {name : String} {slot : Nat}

/-- The binding of an object codec to a target. -/
def ofShape (target : ObjectTarget) (shape : ObjectShape) : BoundObject where
  target := target
  codec := some (.object shape)
  slots := shape.map fun e => target.slot? e.name

/-- A shape that has the required fields of a target is bound to it. -/
theorem bind_eq (h : ∀ f ∈ target.fields, f.isRequired → f.name ∈ shape.map (·.name)) :
    bind target (.object shape) = .ok (ofShape target shape) := by
  have hnone : target.fields.find? (fun f => f.isRequired && (ObjectShape.position? shape f.name).isNone) =
      none := by
    refine List.find?_eq_none.mpr fun f hf hmissing => ?_
    obtain ⟨hrequired, habsent⟩ := Bool.and_eq_true_iff.mp hmissing
    exact ObjectShape.isNone_position?_iff.mp habsent (h f hf hrequired)
  simp only [bind, hnone, ofShape]

/-- Fields with the slots that a target has for their names. -/
def slotted (target : ObjectTarget) (read : List (String × Value)) : List (Option Nat × Value) :=
  read.map fun f => (target.slot? f.1, f.2)

/-- The slots of the elements are those of the fields that are read. -/
private theorem zip_slots (h : read.map (·.1) = shape.map (·.name)) :
    (ofShape target shape).slots.zip (read.map (·.2)) = slotted target read := by
  have hslots : (ofShape target shape).slots = read.map fun f => target.slot? f.1 := by
    have hmap := congrArg (List.map target.slot?) h
    simp only [List.map_map] at hmap
    exact hmap.symm
  rw [hslots, List.zip_map', slotted]

/-- Slots with the values of their elements, of which the last one stays. -/
def place (values : List (Option Value)) : (elements : List (Option Nat × Value)) → List (Option Value)
  | [] => values
  | (some slot, v) :: rest => place (values.set slot (some v)) rest
  | (none, _) :: rest => place values rest

/-- An element is put where its slot is found, and those behind it have the slots behind. -/
private theorem place_zip_drop (b : BoundObject) (index : Nat) (v : Value) (rest : List Value) :
    place values ((b.slots.drop index).zip (v :: rest)) =
      place (b.put index v values) ((b.slots.drop (index + 1)).zip rest) := by
  rw [put]
  by_cases hlt : index < b.slots.length
  · rw [List.drop_eq_getElem_cons hlt, List.zip_cons_cons, List.getElem?_eq_getElem hlt]
    cases b.slots[index] <;> rfl
  · have hle := Nat.le_of_not_lt hlt
    rw [List.drop_eq_nil_of_le hle, List.drop_eq_nil_of_le (Nat.le_succ_of_le hle),
      List.getElem?_eq_none hle]
    rfl

/-- Filling the slots takes one step and goes on from there. -/
theorem fill_eq_next (b : BoundObject) (index : Nat) (values : List (Option Value)) (c : ObjectCursor) :
    b.fill index values c =
      match c.next with
      | (.error e, _) => .error e
      | (.ok none, _) => .ok values
      | (.ok (some field), rest) => b.fill (index + 1) (b.put index field.value values) rest := by
  rw [fill]
  split
  next h => rw [h]
  next h => rw [h]
  next h => simp only [h]

/-- Step by step the slots are filled with the elements that are left. -/
theorem fill_eq (b : BoundObject) (index : Nat) (values : List (Option Value)) (c : ObjectCursor) :
    b.fill index values c = c.flatten.map fun read =>
      place values ((b.slots.drop index).zip (read.map (·.2))) := by
  obtain ⟨reader, pending⟩ := c
  induction pending generalizing index values reader with
  | nil =>
    rw [fill_eq_next, ObjectCursor.flatten_eq_next]
    simp [ObjectCursor.next, Except.map, place]
  | cons e pending ih =>
    rw [fill_eq_next, ObjectCursor.flatten_eq_next]
    cases hfield : ObjectCursor.getField e reader with
    | error err r =>
      rw [ObjectCursor.next_of_error hfield]
      rfl
    | ok field r =>
      rw [ObjectCursor.next_of_ok hfield]
      dsimp only
      rw [ih]
      cases ObjectCursor.flatten ⟨r, pending⟩ with
      | error err => rfl
      | ok read =>
        simp only [Except.map, ObjectCursor.behind, List.map_cons, place_zip_drop]

/-- A slot that none of the elements has keeps its value. -/
theorem getElem?_place_of_ne {elements : List (Option Nat × Value)} (h : ∀ e ∈ elements, e.1 ≠ some slot) :
    (place values elements)[slot]? = values[slot]? := by
  induction elements generalizing values with
  | nil => rfl
  | cons e elements ih =>
    obtain ⟨he, helements⟩ := List.forall_mem_cons.mp h
    obtain ⟨_ | other, v⟩ := e
    · exact ih helements
    · rw [place, ih helements, List.getElem?_set_ne fun heq => he (congrArg some heq)]

/-- The slot of a name gets the value of the field with the name, if there is one. -/
theorem getElem?_place (hslot : target.slot? name = some slot) (hempty : values[slot]? = some none)
    (hnodup : (read.map (·.1)).Nodup) :
    (place values (slotted target read))[slot]? = some (Value.lookup name read) := by
  induction read generalizing values with
  | nil => exact hempty
  | cons f read ih =>
    obtain ⟨hfresh, hrest⟩ := List.nodup_cons.mp hnodup
    by_cases hname : f.1 = name
    · -- no field behind this one has its name, so none has its slot
      have hothers : ∀ e ∈ slotted target read, e.1 ≠ some slot := by
        intro e he
        obtain ⟨g, hg, rfl⟩ := List.mem_map.mp he
        exact ObjectTarget.slot?_ne hslot fun heq =>
          hfresh (List.mem_map.mpr ⟨g, hg, heq.trans hname.symm⟩)
      have hlt : slot < values.length := (List.getElem?_eq_some_iff.mp hempty).1
      rw [slotted, List.map_cons, hname, hslot, place, ← slotted, getElem?_place_of_ne hothers,
        List.getElem?_set_self hlt, Value.lookup_cons_of_eq read hname]
    · rw [Value.lookup_cons_of_ne read hname, slotted, List.map_cons]
      have hother : target.slot? f.1 ≠ some slot := ObjectTarget.slot?_ne hslot hname
      cases hf : target.slot? f.1 with
      | none => exact ih hempty hrest
      | some other =>
        refine ih ?_ hrest
        rw [List.getElem?_set_ne fun heq => hother (hf.trans (congrArg some heq)), hempty]

end BoundObject

namespace FieldsM

variable {slots : ObjectFields} {name other : String} {slot : Nat}

/-- A field is taken out of its slot, which is empty afterwards. -/
theorem take_eq (h : slots.target.slot? name = some slot) :
    take name slots =
      .ok ((slots.values[slot]?.getD none).filter fun v => !v.isNothing)
        { slots with values := slots.values.set slot none } := by
  rw [take, Actions.get_bind_apply, h]
  rfl

/-- A name without a slot takes nothing. -/
theorem take_of_none (h : slots.target.slot? name = none) : take name slots = .ok none slots := by
  rw [take, Actions.get_bind_apply, h]
  rfl

/-- The slot of a name is the same in other slots of the same target. -/
structure KeepsSlot (name : String) (slots left : ObjectFields) : Prop where
  target_eq : left.target = slots.target
  getElem?_eq : ∀ slot, slots.target.slot? name = some slot → left.values[slot]? = slots.values[slot]?

/-- Taking a field leaves the slots of other names alone. -/
theorem exists_keepsSlot_of_take (hne : other ≠ name) (slots : ObjectFields) :
    ∃ v left, take other slots = .ok v left ∧ KeepsSlot name slots left := by
  cases hother : slots.target.slot? other with
  | none => exact ⟨none, slots, take_of_none hother, rfl, fun _ _ => rfl⟩
  | some slot =>
    refine ⟨_, _, take_eq hother, rfl, fun own hown => ?_⟩
    exact List.getElem?_set_ne fun heq =>
      ObjectTarget.slot?_ne hown hne (hother.trans (congrArg some heq))

/-- Taking any number of fields leaves the slots of other names alone. -/
theorem exists_keepsSlot_of_mapM {earlier : List String} (h : name ∉ earlier) (slots : ObjectFields) :
    ∃ taken left, earlier.mapM take slots = .ok taken left ∧ KeepsSlot name slots left := by
  induction earlier generalizing slots with
  | nil => exact ⟨[], slots, rfl, rfl, fun _ _ => rfl⟩
  | cons other earlier ih =>
    obtain ⟨hne, hearlier⟩ := not_or.mp (mt List.mem_cons.mpr h)
    obtain ⟨v, middle, htake, hmiddle⟩ := exists_keepsSlot_of_take (Ne.symm hne) slots
    obtain ⟨taken, left, hrun, hleft⟩ := ih hearlier middle
    refine ⟨v :: taken, left, ?_, hleft.target_eq.trans hmiddle.target_eq, fun slot hslot => ?_⟩
    · rw [List.mapM_cons, Actions.bind_of_ok htake, Actions.bind_of_ok hrun, Actions.pure_apply]
    · rw [hleft.getElem?_eq slot (hmiddle.target_eq ▸ hslot), hmiddle.getElem?_eq slot hslot]

end FieldsM

/-- The slots of a target hold the fields of an object: the first time that a field of the target is taken
out, behind any others, it has the value that the object has under its name, and none if the object lacks the
name or the value is absent. -/
def ObjectFields.Holds (slots : ObjectFields) (read : List (String × Value)) : Prop :=
  ∀ f ∈ slots.target.fields, ∀ earlier : List String, f.name ∉ earlier →
    ∃ taken left, earlier.mapM FieldsM.take slots = .ok taken left ∧
      ∃ last, FieldsM.take f.name left = .ok (supplied? read f.name) last

/-- What a record makes of its fields. -/
def FieldsM.make {α : Type} (take : FieldsM α) (slots : ObjectFields) : Except CodecError α :=
  match take slots with
  | .ok a _ => .ok a
  | .error e _ => .error e

namespace BoundObject

variable {target : ObjectTarget} {shape : ObjectShape} {payload : Bytes} {read : List (String × Value)}

/-- The slots of a target, filled from an object. -/
def filled (target : ObjectTarget) (read : List (String × Value)) : ObjectFields where
  target := target
  values := place (target.fields.map fun _ => none) (slotted target read)

/-- Slots that are filled from an object with distinct names hold its fields. -/
theorem holds_filled (hnodup : (read.map (·.1)).Nodup) : (filled target read).Holds read := by
  intro f hf earlier hearlier
  obtain ⟨slot, hslot⟩ : ∃ slot, target.slot? f.name = some slot := ObjectTarget.exists_slot? hf
  obtain ⟨taken, left, hrun, hkept⟩ := FieldsM.exists_keepsSlot_of_mapM hearlier (filled target read)
  have hempty : (target.fields.map fun _ => (none : Option Value))[slot]? = some none := by
    obtain ⟨g, hg, -⟩ := ObjectTarget.name_of_slot? hslot
    rw [List.getElem?_map, hg, Option.map_some]
  have hheld : left.values[slot]? = some (Value.lookup f.name read) :=
    (hkept.getElem?_eq slot hslot).trans (getElem?_place hslot hempty hnodup)
  have hown : left.target.slot? f.name = some slot := by rw [hkept.target_eq]; exact hslot
  have htake := FieldsM.take_eq hown
  rw [hheld, Option.getD_some] at htake
  exact ⟨taken, left, hrun, _, htake⟩

/-- A binding fills the slots of its target from what the shape reads. -/
theorem fields_ofShape (target : ObjectTarget) (shape : ObjectShape) (payload : Bytes) :
    (ofShape target shape).fields payload = (shape.decode payload).map (filled target) := by
  change (ObjectCursor.start shape (Reader.ofBytes payload) >>= _) = _
  cases hstart : ObjectCursor.start shape (Reader.ofBytes payload) with
  | error e =>
    rw [ObjectShape.decode, hstart]
    rfl
  | ok cursor =>
    have hdecode : shape.decode payload = cursor.flatten := by
      rw [ObjectShape.decode, hstart]
      rfl
    change ((ofShape target shape).fill 0 (target.fields.map fun _ => none) cursor >>= _) = _
    rw [fill_eq, List.drop_zero, ← hdecode]
    cases hread : shape.decode payload with
    | error e => rfl
    | ok read =>
      have hzip : (ofShape target shape).slots.zip (read.map (·.2)) = slotted target read :=
        zip_slots (ObjectShape.names_of_decode hread)
      rw [Except.map, Except.map, filled, ← hzip]
      rfl

/-- A binding fails as the shape does, or hands the filled slots to the record. -/
theorem decode_ofShape {α : Type} (target : ObjectTarget) (shape : ObjectShape) (payload : Bytes)
    (take : FieldsM α) :
    (ofShape target shape).decode take payload =
      (shape.decode payload).bind fun read => take.make (filled target read) := by
  rw [decode, fields_ofShape]
  cases shape.decode payload with
  | error e => rfl
  | ok read =>
    rw [Except.map, Except.bind, FieldsM.make]
    change (match take (filled target read) with | .ok a _ => _ | .error e _ => _) = _
    cases take (filled target read) <;> rfl

end BoundObject

namespace ObjectShape

/-- An object with distinct names has the same fields, or fails in the same way, for a cursor, however many
elements are taken one by one in front of the rest, and for its codec. A record whose required fields the
object has is bound to it: reading into the record fails in this way, too, or hands the fields over in slots
that hold them. -/
theorem readers_agree {shape : ObjectShape} {target : ObjectTarget} (hnames : (shape.map (·.name)).Nodup)
    (hrequired : ∀ f ∈ target.fields, f.isRequired → f.name ∈ shape.map (·.name)) (payload : Bytes) :
    (∀ count, (ObjectCursor.start shape (Reader.ofBytes payload)).bind (·.flattenAfter count) =
        shape.decode payload) ∧
      (Codec.object shape).decode payload = (shape.decode payload).map .object ∧
      ∃ b, BoundObject.bind target (.object shape) = .ok b ∧
        (∀ e, shape.decode payload = .error e →
          ∀ {α : Type} (take : FieldsM α), b.decode take payload = .error e) ∧
        ∀ read, shape.decode payload = .ok read → read.map (·.1) = shape.map (·.name) ∧
          ∃ slots : ObjectFields, slots.target = target ∧ slots.Holds read ∧
            ∀ {α : Type} (take : FieldsM α), b.decode take payload = take.make slots := by
  refine ⟨fun count => ?_, decode_object shape payload, BoundObject.ofShape target shape,
    BoundObject.bind_eq hrequired, fun e he α take => ?_, fun read hread => ?_⟩
  · simp only [ObjectCursor.flattenAfter_eq]
    rfl
  · rw [BoundObject.decode_ofShape, he, Except.bind]
  · have hsame : read.map (·.1) = shape.map (·.name) := names_of_decode hread
    refine ⟨hsame, BoundObject.filled target read, rfl, BoundObject.holds_filled (hsame ▸ hnames), fun take => ?_⟩
    rw [BoundObject.decode_ofShape, hread, Except.bind]

/-- A record of persons that asks twice for the age, and for a name that persons do not have. -/
def person : ObjectTarget where
  name := "Person"
  fields := [⟨"age", false⟩, ⟨"name", true⟩, ⟨"age", false⟩, ⟨"nick", false⟩]

/-- A person of unknown age. -/
def agelessPerson : Bytes :=
  [0, 0, 0, 2] ++ [0, 0, 0, 0, 0, 0, 0, 3, 103, 101, 108] ++ [0, 0, 0, 0, 255, 255, 255, 255]

/-- A person is read by a cursor after one element, and by a record that takes the age before the name. -/
theorem readers_agree_person :
    (Codec.personShape.map (·.name)).Nodup ∧
      (∀ f ∈ person.fields, f.isRequired → f.name ∈ Codec.personShape.map (·.name)) ∧
      (ObjectCursor.start Codec.personShape (Reader.ofBytes agelessPerson)).bind (·.flattenAfter 1) =
        .ok [("name", .str "gel"), ("age", .nothing)] ∧
      ∃ b, BoundObject.bind person (.object Codec.personShape) = .ok b ∧
        b.decode (["age"].mapM FieldsM.take >>= fun _ => FieldsM.take "name") agelessPerson =
          .ok (some (.str "gel")) := by
  have hnames : (Codec.personShape.map (·.name)).Nodup := by decide
  have hrequired : ∀ f ∈ person.fields, f.isRequired → f.name ∈ Codec.personShape.map (·.name) := by decide
  have hread : Codec.personShape.decode agelessPerson = .ok [("name", .str "gel"), ("age", .nothing)] := by
    rw [← runOn_getCount]
    rfl
  obtain ⟨hsteps, -, b, hb, -, hok⟩ := readers_agree hnames hrequired agelessPerson
  obtain ⟨-, slots, htarget, hholds, hdecode⟩ := hok _ hread
  obtain ⟨taken, left, hrun, last, htake⟩ :=
    hholds ⟨"name", true⟩ (by rw [htarget]; decide) ["age"] (by decide)
  refine ⟨hnames, hrequired, (hsteps 1).trans hread, b, hb, ?_⟩
  rw [hdecode, FieldsM.make, Actions.bind_of_ok hrun, htake]
  rfl

end ObjectShape

end GelClient
