import GelClient.Codec.Scalar
import GelClient.Protocol.Terms

/-!
# Codecs

A codec converts between values and the payloads of one type. Codecs are trees: a container
owns the codecs of its elements. This module holds the type of codecs, the name of the type
that a codec handles, and `Codec.visit`, which finds the codec that a value is written with:
a compound type stands for the first of its members, depth first, that takes the value, and
every other codec for itself if it takes values of that kind.
-/

namespace GelClient

/-- How the members of a compound type are combined. -/
inductive TypeOperation where
  | union
  | intersection
  deriving DecidableEq, Repr

/-- The operation that a byte stands for. -/
def TypeOperation.ofByte? (b : UInt8) : Option TypeOperation :=
  if b = 1 then some .union else if b = 2 then some .intersection else none

/-- An element of an object shape, with the codec of its values. -/
structure ShapeElement (γ : Type) where
  name : String
  codec : γ
  cardinality : Option Cardinality
  flags : UInt32
  deriving DecidableEq, Repr

/-- Whether the element may be left out of the arguments. -/
def ShapeElement.isOptional {γ : Type} (e : ShapeElement γ) : Bool :=
  e.cardinality == some .atMostOne || e.cardinality == some .many

/-- The codec of a type. -/
inductive Codec where
  /-- The type without data. -/
  | null
  | scalar (s : Scalar)
  | array (item : Codec)
  | set (item : Codec)
  | range (bound : Codec)
  | multirange (bound : Codec)
  | tuple (items : List Codec)
  | namedTuple (fields : List (String × Codec))
  /-- The shape of an object in a result. -/
  | object (shape : List (ShapeElement Codec))
  /-- An input shape, of which any elements may be present. -/
  | sparseObject (shape : List (ShapeElement Codec))
  | enumeration (members : List String)
  | compound (operation : TypeOperation) (members : List Codec)

/-- The elements of an object in their declared order. -/
abbrev ObjectShape := List (ShapeElement Codec)

instance : Inhabited Codec := ⟨.null⟩

/-- The position of the first element with the given name. -/
def ObjectShape.position? (shape : ObjectShape) (name : String) : Option Nat :=
  shape.findIdx? (·.name == name)

/-- The position counts the elements in front of the first one with the name. -/
theorem ObjectShape.position?_cons (e : ShapeElement Codec) (shape : ObjectShape) (name : String) :
    position? (e :: shape) name =
      if e.name == name then some 0 else (position? shape name).map (· + 1) :=
  List.findIdx?_cons

namespace Codec

/-- The elements of an object or of an input shape. -/
def shape? : Codec → Option ObjectShape
  | object shape | sparseObject shape => some shape
  | _ => none

/-- Whether the codec is one of arrays. -/
def isArray : Codec → Bool
  | array _ => true
  | _ => false

mutual

/-- The name of the type that a codec handles. -/
def typeName : Codec → String
  | null => "null"
  | scalar s => s.name
  | array item => "array<" ++ item.typeName ++ ">"
  | set item => "set<" ++ item.typeName ++ ">"
  | range bound => "range<" ++ bound.typeName ++ ">"
  | multirange bound => "multirange<" ++ bound.typeName ++ ">"
  | tuple items => "tuple<" ++ ", ".intercalate (typeNames items) ++ ">"
  | namedTuple fields => "tuple<" ++ ", ".intercalate (fieldTypeNames fields) ++ ">"
  | object _ => "object"
  | sparseObject _ => "input shape"
  | enumeration _ => "enum"
  | compound .union members => " | ".intercalate (typeNames members)
  | compound .intersection members => " & ".intercalate (typeNames members)

/-- The names of the types of several codecs. -/
def typeNames : List Codec → List String
  | [] => []
  | c :: cs => c.typeName :: typeNames cs

/-- The names of fields, each with the name of its type. -/
def fieldTypeNames : List (String × Codec) → List String
  | [] => []
  | (name, c) :: fields => (name ++ ": " ++ c.typeName) :: fieldTypeNames fields

end

/-- Whether a codec other than a compound takes values of the kind of `v`. -/
def takesKind (c : Codec) (v : Value) : Bool :=
  match c, v with
  | scalar s, v => s.accepts v
  | array _, .array _ => true
  | set _, .set _ => true
  | set _, .array _ => true
  | range _, .range _ => true
  | multirange _, .multirange _ => true
  | enumeration _, .enumMember _ => true
  | enumeration _, .str _ => true
  | object _, .object _ => true
  | object _, .namedTuple _ => true
  | sparseObject _, .object _ => true
  | sparseObject _, .namedTuple _ => true
  | tuple _, .tuple _ => true
  | namedTuple _, .namedTuple _ => true
  | namedTuple _, .object _ => true
  | _, _ => false

mutual

/-- The codec that a present value is written with, if there is one. -/
def resolve? : Codec → Value → Option Codec
  | compound _ members, v => resolveFirst? members v
  | c, v => if c.takesKind v then some c else none

/-- The codec that the first of several codecs to take a value writes it with. -/
def resolveFirst? : List Codec → Value → Option Codec
  | [], _ => none
  | c :: cs, v =>
    match resolve? c v with
    | some found => some found
    | none => resolveFirst? cs v

end

/-- The codec that a value is written with. The absent value is taken by every codec. -/
def visit (c : Codec) (v : Value) : Except CodecError Codec :=
  if v.isNothing then .ok c
  else match c.resolve? v with
    | some found => .ok found
    | none => .error (.typeMismatch c.typeName v.kind)

/-- Every codec takes the absent value. -/
@[simp]
theorem visit_nothing (c : Codec) : c.visit .nothing = .ok c := rfl

end Codec

end GelClient
