import GelClient.Codec.Decode

/-!
# Reading objects step by step and into records

An `ObjectCursor` reads the elements of an object one after the other. An `ObjectTarget`
describes the record that objects are read into: which fields it takes and which of them must
be part of the shape. Binding a shape to a target finds, once, the slot of each element; decoding
fills the slots and hands them to the target, which takes its fields out of them.
-/

namespace GelClient

open Packet (Get GetM Reader)

/-- The unread part of an object: its bytes, and the elements that are still to come. -/
structure ObjectCursor where
  reader : Reader
  pending : ObjectShape

/-- An element that was read, with the name of its type. -/
structure ObjectField where
  name : String
  value : Value
  typeName : String

namespace ObjectCursor

/-- A cursor at the first element; the object must have as many elements as its shape. -/
def start (shape : ObjectShape) (payload : Reader) : Except CodecError ObjectCursor :=
  match Codec.getCount shape.length payload with
  | .ok _ reader => .ok { reader, pending := shape }
  | .error e _ => .error e

/-- Whether elements are left. -/
def hasRemaining (c : ObjectCursor) : Bool := !c.pending.isEmpty

/-- Reads one element, behind its reserved word. -/
def getField (e : ShapeElement Codec) : GetM CodecError ObjectField := do
  Get.skip 4
  let value ← e.codec.getElement
  return { name := e.name, value, typeName := e.codec.typeName }

/-- Reads the next element, none at the end. An element that cannot be read counts as read. -/
def next (c : ObjectCursor) : Except CodecError (Option ObjectField) × ObjectCursor :=
  match c.pending with
  | [] => (.ok none, c)
  | e :: rest =>
    match getField e c.reader with
    | .ok field reader => (.ok (some field), { reader, pending := rest })
    | .error err reader => (.error err, { reader, pending := rest })

/-- A step that reads an element leaves one element less. -/
theorem length_pending_lt_of_next {c rest : ObjectCursor} {field : ObjectField}
    (h : c.next = (.ok (some field), rest)) : rest.pending.length < c.pending.length := by
  obtain ⟨reader, pending⟩ := c
  cases pending with
  | nil => cases h
  | cons e pending =>
    rw [next] at h
    dsimp only at h
    split at h
    next => cases h; exact Nat.lt_succ_self _
    next => cases h

/-- Reads the elements that are left, one after the other. -/
def flatten (c : ObjectCursor) : Except CodecError (List (String × Value)) :=
  match h : c.next with
  | (.error e, _) => .error e
  | (.ok none, _) => .ok []
  | (.ok (some field), rest) =>
    have : rest.pending.length < c.pending.length := length_pending_lt_of_next h
    rest.flatten.map fun fields => (field.name, field.value) :: fields
termination_by c.pending.length

end ObjectCursor

/-- The fields of an object with the given shape. -/
def ObjectShape.decode (shape : ObjectShape) (payload : Bytes) :
    Except CodecError (List (String × Value)) := do
  (← ObjectCursor.start shape (Reader.ofBytes payload)).flatten

/-- A field of a record that objects are read into. -/
structure TargetField where
  name : String
  isRequired : Bool
  deriving DecidableEq, Repr

/-- A record that objects are read into. -/
structure ObjectTarget where
  name : String
  fields : List TargetField
  deriving DecidableEq, Repr

namespace ObjectTarget

/-- The slot of the first field with the given name. -/
def slot? (target : ObjectTarget) (name : String) : Option Nat :=
  target.fields.findIdx? (·.name == name)

/-- A mapping error of this target. -/
def fails (target : ObjectTarget) (fault : MappingFault) : CodecError :=
  .typeMapping target.name fault

end ObjectTarget

/-- The values read for a target, by slot. A value that was taken out leaves its slot empty. -/
structure ObjectFields where
  target : ObjectTarget
  values : List (Option Value)

/-- An action that takes fields out of their slots. -/
abbrev FieldsM := EStateM CodecError ObjectFields

namespace FieldsM

/-- Takes the value of a field; none if it is absent or was taken before. -/
def take (name : String) : FieldsM (Option Value) := do
  let fields ← get
  match fields.target.slot? name with
  | none => return none
  | some slot =>
    set { fields with values := fields.values.set slot none }
    return (fields.values[slot]?.getD none).filter fun v => !v.isNothing

/-- Fails with a mapping error of the target. -/
def fail {α : Type} (fault : MappingFault) : FieldsM α := do
  throw ((← get).target.fails fault)

/-- Takes the value of a field that must be present. -/
def required (name : String) : FieldsM Value := do
  match ← take name with
  | some v => return v
  | none => fail (.fieldMissing name)

/-- Takes the text of a field that must be present. -/
def requiredText (name : String) : FieldsM String := do
  match ← required name with
  | .str text => return text
  | v => fail (.fieldNotText name v.kind)

/-- Takes the value of a field and converts it, if it is present. -/
def takeAs {α : Type} (name : String) (convert : Value → Option α) : FieldsM (Option α) := do
  match ← take name with
  | none => return none
  | some v =>
    match convert v with
    | some a => return some a
    | none => fail (.fieldNotConvertible name v.kind)

end FieldsM

/-- An object codec bound to a target: the codec, as long as its owner keeps it, and the slot of
each element. -/
structure BoundObject where
  target : ObjectTarget
  codec : Option Codec
  slots : List (Option Nat)

namespace BoundObject

/-- Binds a codec to a target, whose required fields must be part of the shape. -/
def bind (target : ObjectTarget) (codec : Codec) : Except CodecError BoundObject :=
  match codec with
  | .object shape =>
    match target.fields.find? fun f => f.isRequired && (ObjectShape.position? shape f.name).isNone with
    | some field => .error (target.fails (.fieldNotInShape field.name))
    | none => .ok { target, codec, slots := shape.map fun e => target.slot? e.name }
  | codec => .error (target.fails (.notAnObject codec.typeName))

/-- The binding after the owner of the codec dropped it. -/
def dropCodec (b : BoundObject) : BoundObject := { b with codec := none }

/-- Puts a value into the slot of the element with the given index, if it has one. -/
def put (b : BoundObject) (index : Nat) (v : Value) (values : List (Option Value)) :
    List (Option Value) :=
  match b.slots[index]? with
  | some (some slot) => values.set slot (some v)
  | _ => values

/-- Reads the elements that are left into their slots, one after the other. The next one has the
given index. -/
def fill (b : BoundObject) (index : Nat) (values : List (Option Value)) (c : ObjectCursor) :
    Except CodecError (List (Option Value)) :=
  match h : c.next with
  | (.error e, _) => .error e
  | (.ok none, _) => .ok values
  | (.ok (some field), rest) =>
    have : rest.pending.length < c.pending.length := ObjectCursor.length_pending_lt_of_next h
    b.fill (index + 1) (b.put index field.value values) rest
termination_by c.pending.length

/-- The values of an object in the slots of the target. -/
def fields (b : BoundObject) (payload : Bytes) : Except CodecError ObjectFields :=
  match b.codec.bind Codec.shape? with
  | none => .error (b.target.fails .codecDropped)
  | some shape => do
    let cursor ← ObjectCursor.start shape (Reader.ofBytes payload)
    let values ← b.fill 0 (b.target.fields.map fun _ => none) cursor
    return { target := b.target, values }

/-- Reads an object into the record that `take` makes of its fields. -/
def decode {α : Type} (b : BoundObject) (take : FieldsM α) (payload : Bytes) :
    Except CodecError α := do
  match take (← b.fields payload) with
  | .ok a _ => return a
  | .error e _ => throw e

end BoundObject

end GelClient
