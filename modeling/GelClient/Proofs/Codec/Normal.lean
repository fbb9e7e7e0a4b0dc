import GelClient.Codec.Encode

/-!
# Normal values

Writing a value forgets how it was put together: which of the two kinds of record its fields came in,
in which order, whether a member of an enumeration was given as a text. The normal form of a value
under a codec is what is left of it. It is given here by recursion on the codec, without reference to
bytes.

A codec hands the parts of a value on to its members. `Codec.Reaches` follows these steps to every
depth, and with it a condition can be put on all values that are given to codecs of one kind.
-/

namespace GelClient

/-- A value as a scalar type keeps it: zero has no sign, and an empty document is no document. -/
def Value.normalScalar : Value → Value
  | .decimal n => .decimal n.unsignedZero
  | .json text => if text = "" then .nothing else .json text
  | v => v

namespace Codec

/-- A codec without the type without data, sets and compounds at any depth. -/
inductive IsPlain : Codec → Prop
  | scalar (s : Scalar) : IsPlain (.scalar s)
  | array {item : Codec} : IsPlain item → IsPlain (.array item)
  | range {bound : Codec} : IsPlain bound → IsPlain (.range bound)
  | multirange {bound : Codec} : IsPlain bound → IsPlain (.multirange bound)
  | tuple {codecs : List Codec} : (∀ c ∈ codecs, IsPlain c) → IsPlain (.tuple codecs)
  | namedTuple {codecs : List (String × Codec)} :
      (∀ f ∈ codecs, IsPlain f.2) → IsPlain (.namedTuple codecs)
  | object {shape : ObjectShape} : (∀ e ∈ shape, IsPlain e.codec) → IsPlain (.object shape)
  | sparseObject {shape : ObjectShape} :
      (∀ e ∈ shape, IsPlain e.codec) → IsPlain (.sparseObject shape)
  | enumeration (members : List String) : IsPlain (.enumeration members)

/-- The intervals with both bounds converted; an empty one has none. -/
def normalRange (bound : Value → Value) (r : Range Value) : Range Value :=
  if r.isEmpty then .empty else { r with lower := r.lower.map bound, upper := r.upper.map bound }

mutual

/-- The value that is left of a value once it was written. -/
def normal : Codec → Value → Value
  | .scalar _, v => v.normalScalar
  | .array item, .array items => .array (items.map (normal item))
  | .range bound, .range r => .range (normalRange (normal bound) r)
  | .multirange bound, .multirange rs => .multirange (rs.map (normalRange (normal bound)))
  | .tuple codecs, .tuple items => .tuple (normalEach codecs items)
  | .namedTuple codecs, v =>
    match fields? v with
    | some fields => .namedTuple (normalNamed codecs fields)
    | none => v
  | .object shape, v =>
    match fields? v with
    | some fields => .object (normalShape shape fields)
    | none => v
  | .sparseObject shape, v =>
    match fields? v with
    | some fields => .object (fields.map fun f => (f.1, normalSparse shape f.1 f.2))
    | none => v
  | .enumeration _, .str name => .enumMember name
  | _, v => v

/-- The items of a tuple, each under its codec. -/
def normalEach : List Codec → List Value → List Value
  | c :: cs, v :: vs => normal c v :: normalEach cs vs
  | _, _ => []

/-- The declared fields of a named tuple, each with the first supplied value of that name. -/
def normalNamed : List (String × Codec) → List (String × Value) → List (String × Value)
  | [], _ => []
  | (name, c) :: cs, fields =>
    (name, normal c ((Value.lookup name fields).getD .nothing)) :: normalNamed cs fields

/-- The declared elements of an object, each with the first supplied value of that name and the
absent value if there is none. -/
def normalShape : List (ShapeElement Codec) → List (String × Value) → List (String × Value)
  | [], _ => []
  | e :: es, fields =>
    (e.name, normal e.codec ((Value.lookup e.name fields).getD .nothing)) :: normalShape es fields

/-- A value under the first element of a given name. -/
def normalSparse : List (ShapeElement Codec) → String → Value → Value
  | [], _, v => v
  | e :: es, name, v => if e.name == name then normal e.codec v else normalSparse es name v

end

/-- The absent value stays absent. -/
@[simp]
theorem normal_nothing (c : Codec) : c.normal .nothing = .nothing := by
  cases c <;> simp [normal, Value.normalScalar, fields?]

/-- The bounds that an interval has and that are written. -/
def bounds (r : Range Value) : List Value :=
  if r.isEmpty then [] else r.lower.toList ++ r.upper.toList

/-- A codec hands a part of a value on to a member. -/
inductive Hands : Codec → Value → Codec → Value → Prop
  | item {c : Codec} {items : List Value} {w : Value} : w ∈ items → Hands (.array c) (.array items) c w
  | bound {c : Codec} {r : Range Value} {w : Value} : w ∈ bounds r → Hands (.range c) (.range r) c w
  | piece {c : Codec} {rs : List (Range Value)} {r : Range Value} {w : Value} :
      r ∈ rs → w ∈ bounds r → Hands (.multirange c) (.multirange rs) c w
  | component {codecs : List Codec} {items : List Value} {c : Codec} {w : Value} :
      (c, w) ∈ codecs.zip items → Hands (.tuple codecs) (.tuple items) c w
  | named {codecs : List (String × Codec)} {v : Value} {fields : List (String × Value)} {name : String}
      {c : Codec} {w : Value} :
      fields? v = some fields → (name, c) ∈ codecs → Value.lookup name fields = some w →
        Hands (.namedTuple codecs) v c w
  | element {shape : ObjectShape} {v : Value} {fields : List (String × Value)}
      {e : ShapeElement Codec} {w : Value} :
      fields? v = some fields → e ∈ shape → Value.lookup e.name fields = some w →
        Hands (.object shape) v e.codec w
  | supplied {shape : ObjectShape} {v : Value} {fields : List (String × Value)} {name : String}
      {e : ShapeElement Codec} {w : Value} :
      fields? v = some fields → (name, w) ∈ fields → shape.find? (·.name == name) = some e →
        Hands (.sparseObject shape) v e.codec w

/-- Writing a value with a codec gives a value to a codec inside of it, at any depth. -/
inductive Reaches : Codec → Value → Codec → Value → Prop
  | here (c : Codec) (v : Value) : Reaches c v c v
  | step {c d e : Codec} {v w x : Value} : Hands c v d w → Reaches d w e x → Reaches c v e x

/-- No input shape is given more fields than it has elements. -/
def NoneOverfull (c : Codec) (v : Value) : Prop :=
  ∀ shape w fields, Reaches c v (.sparseObject shape) w → fields? w = some fields →
    fields.length ≤ shape.length

/-- What holds at every depth holds below every step. -/
theorem NoneOverfull.of_hands {c d : Codec} {v w : Value} (h : NoneOverfull c v) (hh : Hands c v d w) :
    NoneOverfull d w :=
  fun shape x fields hr hf => h shape x fields (.step hh hr) hf

/-- What holds at a codec and below every step from it holds at every depth. -/
theorem noneOverfull_of_hands {c : Codec} {v : Value}
    (hc : ∀ shape fields, c = .sparseObject shape → fields? v = some fields →
      fields.length ≤ shape.length)
    (hh : ∀ d w, Hands c v d w → NoneOverfull d w) : NoneOverfull c v := by
  intro shape x fields hr hf
  cases hr with
  | here => exact hc shape fields rfl hf
  | step hd hr => exact hh _ _ hd shape x fields hr hf

end Codec

end GelClient
