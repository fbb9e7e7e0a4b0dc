import GelClient.Codec.Basic

/-!
# Writing values

The payload of a value under a codec. Elements of a container stand behind their length, and an
absent element is the length -1 alone. What an element of a compound type is written with is the
member that takes it, so the payload of a compound as an element is the payload of that member;
on its own a compound is written as an envelope with one element for each of its members.
-/

namespace GelClient

open Packet (Put PutM)

namespace Codec

/-- Writes a present value behind its length with the codec that takes it. -/
def putPresent (c : Codec) (payload : Value → PutM CodecError Unit) (v : Value) :
    PutM CodecError Unit :=
  match c.resolve? v with
  | some _ => PutM.withLength (payload v)
  | none => throw (.typeMismatch c.typeName v.kind)

/-- Writes an element of a container behind its length, and an absent one as the length -1. -/
def putElementWith (c : Codec) (payload : Value → PutM CodecError Unit) (v : Value) :
    PutM CodecError Unit :=
  if v.isNothing then Put.null else putPresent c payload v

/-- Writes a bound of an interval behind its length. A bound that is the absent value is given
to the codec as it is. -/
def putBoundWith (c : Codec) (payload : (pick : Bool) → Value → PutM CodecError Unit) (v : Value) :
    PutM CodecError Unit :=
  if v.isNothing then PutM.withLength (payload false v) else putPresent c (payload true) v

/-- The flags of an interval: empty, with either bound, and without either bound. -/
def rangeFlags (r : Range Value) : UInt8 :=
  if r.isEmpty then 0x01
  else
    (if r.includesLower then 0x02 else 0) ||| (if r.includesUpper then 0x04 else 0)
      ||| (if r.lower.isNone then 0x08 else 0) ||| (if r.upper.isNone then 0x10 else 0)

/-- Writes an interval: its flags and the bounds that it has. -/
def putRangeWith (bound : Value → PutM CodecError Unit) (r : Range Value) :
    PutM CodecError Unit := do
  Put.uint8 (rangeFlags r)
  if r.isEmpty then return
  r.lower.forM bound
  r.upper.forM bound

/-- The fields of an object or of a named tuple. -/
def fields? : Value → Option (List (String × Value))
  | .object fields | .namedTuple fields => some fields
  | _ => none

/-- The first field with the given name that holds a present value. -/
def supplied? (fields : List (String × Value)) (name : String) : Option Value :=
  (Value.lookup name fields).filter fun v => !v.isNothing

/-- Writes a count of elements, which must be the expected one, and then the elements. Another count is
only named if it fits four bytes. -/
def putCounted (expected found : Nat) (elements : PutM CodecError Unit) :
    PutM CodecError Unit := do
  if found ≠ expected then
    if found < 2 ^ (31 : Nat) then throw (.arityMismatch expected found) else throw (.packet (.tooLarge found))
  PutM.signedCount found
  elements

mutual

/-- Writes the payload of a value. With `pick`, a compound is written as the member that takes
the value. -/
def putAs (pick : Bool) : Codec → Value → PutM CodecError Unit
  | .null, _ => Put.int32 0
  | .scalar s, v => s.put v
  | .array item, v =>
    match v with
    | .array [] => do
      Put.int32 0
      Put.int32 0
      Put.int32 0
    | .array items => do
      Put.int32 1
      Put.int32 0
      Put.int32 0
      PutM.signedCount items.length
      Put.int32 1
      items.forM (putElementWith item (putAs true item))
    | v => throw (.typeMismatch "array" v.kind)
  | .set _, _ => throw (.invalidValue .setNotSendable)
  | .range bound, v =>
    match v with
    | .range r => putRangeWith (putBoundWith bound fun pick => putAs pick bound) r
    | v => throw (.typeMismatch "range" v.kind)
  | .multirange bound, v =>
    match v with
    | .multirange rs => do
      PutM.signedCount rs.length
      rs.forM fun r =>
        PutM.withLength (putRangeWith (putBoundWith bound fun pick => putAs pick bound) r)
    | v => throw (.typeMismatch "multirange" v.kind)
  | .tuple codecs, v =>
    match v with
    | .tuple items => putCounted codecs.length items.length (putEach codecs items)
    | v => throw (.typeMismatch "tuple" v.kind)
  | .namedTuple codecs, v =>
    match fields? v with
    | some fields =>
      match fields.find? fun f => !codecs.any (·.1 == f.1) with
      | some (name, _) => throw (.unknownArgument name)
      | none => do
        PutM.signedCount codecs.length
        putNamed codecs fields
    | none => throw (.typeMismatch "named tuple" v.kind)
  | .object shape, v =>
    match fields? v with
    | some fields => do
      PutM.signedCount shape.length
      putShape shape fields
    | none => throw (.typeMismatch "object" v.kind)
  | .sparseObject shape, v =>
    match fields? v with
    | some fields =>
      match fields.find? fun f => (ObjectShape.position? shape f.1).isNone with
      | some (name, _) => throw (.unknownArgument name)
      | none => do
        PutM.signedCount fields.length
        fields.forM fun f => do
          PutM.signedCount ((ObjectShape.position? shape f.1).getD 0)
          putSparse shape f.1 f.2
    | none => throw (.typeMismatch "object" v.kind)
  | .enumeration members, v =>
    match v with
    | .enumMember name | .str name =>
      if members.contains name then Put.raw (Utf8.encode name)
      else throw (.invalidValue (.notEnumMember name))
    | v => throw (.typeMismatch "enum" v.kind)
  | .compound _ members, v =>
    if pick then putFirst members v
    else match v with
    | .tuple items | .array items =>
      putCounted members.length items.length (putEach members items)
    | v => throw (.typeMismatch "compound" v.kind)

/-- Writes one element with each codec, behind a reserved word. -/
def putEach : List Codec → List Value → PutM CodecError Unit
  | c :: cs, v :: vs => do
    Put.int32 0
    putElementWith c (putAs true c) v
    putEach cs vs
  | _, _ => pure ()

/-- Writes the fields of a named tuple in the order of the codec, behind reserved words. -/
def putNamed : List (String × Codec) → List (String × Value) → PutM CodecError Unit
  | [], _ => pure ()
  | (name, c) :: cs, fields =>
    match Value.lookup name fields with
    | none => throw (.missingArgument name)
    | some v => do
      Put.int32 0
      putElementWith c (putAs true c) v
      putNamed cs fields

/-- Writes the elements of an object in the order of its shape, behind reserved words. -/
def putShape : List (ShapeElement Codec) → List (String × Value) → PutM CodecError Unit
  | [], _ => pure ()
  | e :: es, fields => do
    Put.int32 0
    match supplied? fields e.name with
    | some v => putElementWith e.codec (putAs true e.codec) v
    | none => if e.isOptional then Put.null else throw (.missingArgument e.name)
    putShape es fields

/-- Writes an element of a sparse object with the codec of the first element of that name. -/
def putSparse : List (ShapeElement Codec) → String → Value → PutM CodecError Unit
  | [], name, _ => throw (.unknownArgument name)
  | e :: es, name, v =>
    if e.name == name then putElementWith e.codec (putAs true e.codec) v
    else putSparse es name v

/-- Writes a value with the first of several codecs that takes it. -/
def putFirst : List Codec → Value → PutM CodecError Unit
  | [], v => throw (.typeMismatch "compound" v.kind)
  | c :: cs, v => if (c.resolve? v).isSome then putAs true c v else putFirst cs v

end

/-- Writes the payload of a value. -/
def put (c : Codec) (v : Value) : PutM CodecError Unit := putAs false c v

/-- Writes an element of a container. -/
def putElement (c : Codec) (v : Value) : PutM CodecError Unit :=
  putElementWith c (putAs true c) v

/-- Writes the arguments of a query. The type without data has no payload here, and takes no
argument. -/
def putArguments (c : Codec) (v : Value) : PutM CodecError Unit :=
  match c, v with
  | .null, .nothing => pure ()
  | .null, .object [] => pure ()
  | .null, .namedTuple [] => pure ()
  | .null, .tuple [] => pure ()
  | .null, .object ((name, _) :: _) => throw (.unknownArgument name)
  | .null, .namedTuple ((name, _) :: _) => throw (.unknownArgument name)
  | .null, v => throw (.typeMismatch "no arguments" v.kind)
  | c, v => c.put v

/-- The payload of a value. -/
def encode (c : Codec) (v : Value) : Except CodecError Bytes := (c.put v).bytes?

/-- The payload of the arguments of a query. -/
def encodeArguments (c : Codec) (v : Value) : Except CodecError Bytes := (c.putArguments v).bytes?

end Codec

end GelClient
