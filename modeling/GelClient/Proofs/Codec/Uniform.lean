import GelClient.Codec.Encode
import GelClient.Proofs.Codec.Numeric

/-!
# Codecs only append

Whatever codec writes whatever value, it does so uniformly: the bytes do not depend on what stands
before them, and what stands before them is kept. The proof follows the tree of the codec.
-/

namespace GelClient

open Packet (Put PutM)
open Packet.PutM (IsUniform isUniform_pure isUniform_throw isUniform_raw isUniform_signedCount)

/-- A property of codecs that passes from the members of every codec to the codec holds of all. -/
@[induction_eliminator]
theorem Codec.induction {P : Codec → Prop} (null : P .null) (scalar : ∀ s, P (.scalar s))
    (array : ∀ c, P c → P (.array c)) (set : ∀ c, P c → P (.set c))
    (range : ∀ c, P c → P (.range c)) (multirange : ∀ c, P c → P (.multirange c))
    (tuple : ∀ cs, (∀ c ∈ cs, P c) → P (.tuple cs))
    (namedTuple : ∀ fields, (∀ f ∈ fields, P f.2) → P (.namedTuple fields))
    (object : ∀ shape, (∀ e ∈ shape, P e.codec) → P (.object shape))
    (sparseObject : ∀ shape, (∀ e ∈ shape, P e.codec) → P (.sparseObject shape))
    (enumeration : ∀ members, P (.enumeration members))
    (compound : ∀ operation cs, (∀ c ∈ cs, P c) → P (.compound operation cs)) (c : Codec) : P c :=
  @Codec.rec P (fun cs => ∀ c ∈ cs, P c) (fun fields => ∀ f ∈ fields, P f.2)
    (fun shape => ∀ e ∈ shape, P e.codec) (fun f => P f.2) (fun e => P e.codec)
    null scalar array set range multirange tuple namedTuple object sparseObject enumeration compound
    (by simp) (fun _ _ h hs => List.forall_mem_cons.mpr ⟨h, hs⟩)
    (by simp) (fun _ _ h hs => List.forall_mem_cons.mpr ⟨h, hs⟩)
    (by simp) (fun _ _ h hs => List.forall_mem_cons.mpr ⟨h, hs⟩)
    (fun _ _ h => h) (fun _ _ _ _ h => h) c

/-- A scalar is written uniformly. -/
theorem Scalar.isUniform_put (s : Scalar) (v : Value) : (s.put v).IsUniform := by
  have hraw (bytes : Bytes) : IsUniform (liftM (Put.raw bytes) : PutM CodecError Unit) :=
    (isUniform_raw bytes).lift
  have huuid (id : Uuid) : IsUniform (liftM (Put.uuid id) : PutM CodecError Unit) :=
    ((isUniform_raw _).bind fun _ => isUniform_raw _).lift
  unfold put
  split
  all_goals first
    | exact hraw _
    | exact huuid _
    | exact (hraw _).bind fun _ => hraw _
    | exact (hraw _).bind fun _ => (hraw _).bind fun _ => hraw _
    | exact Decimal.isUniform_put _
    | exact BigInt.isUniform_put _
    | exact isUniform_throw _

namespace Codec

variable {c : Codec} {payload : Value → PutM CodecError Unit}

/-- A present element is written uniformly if its payload is. -/
theorem isUniform_putPresent (v : Value) (h : IsUniform (payload v)) :
    IsUniform (putPresent c payload v) := by
  unfold putPresent
  split
  · exact PutM.isUniform_withLength h
  · exact isUniform_throw _

/-- An element is written uniformly if its payload is. -/
theorem isUniform_putElementWith (v : Value) (h : IsUniform (payload v)) :
    IsUniform (putElementWith c payload v) := by
  unfold putElementWith
  split
  · exact (isUniform_raw _).lift
  · exact isUniform_putPresent v h

/-- A bound is written uniformly if its payload is. -/
theorem isUniform_putBoundWith {payload : Bool → Value → PutM CodecError Unit} (v : Value)
    (h : ∀ pick, IsUniform (payload pick v)) : IsUniform (putBoundWith c payload v) := by
  unfold putBoundWith
  split
  · exact PutM.isUniform_withLength (h false)
  · exact isUniform_putPresent v (h true)

/-- A bound that an interval may lack is written uniformly if bounds are. -/
theorem isUniform_forM_option {bound : Value → PutM CodecError Unit} (o : Option Value)
    (h : ∀ v, IsUniform (bound v)) : IsUniform (o.forM bound) := by
  cases o with
  | none => exact isUniform_pure ()
  | some v => exact h v

/-- An interval is written uniformly if its bounds are. -/
theorem isUniform_putRangeWith {bound : Value → PutM CodecError Unit} (r : Range Value)
    (h : ∀ v, IsUniform (bound v)) : IsUniform (putRangeWith bound r) := by
  unfold putRangeWith
  refine (isUniform_raw _).lift.bind fun _ => ?_
  split
  · exact isUniform_pure ()
  · exact (isUniform_forM_option r.lower h).bind fun _ => isUniform_forM_option r.upper h

/-- A counted row of elements is written uniformly if the elements are. -/
theorem isUniform_putCounted (expected found : Nat) {elements : PutM CodecError Unit}
    (h : IsUniform elements) : IsUniform (putCounted expected found elements) := by
  have hcounted : IsUniform (do PutM.signedCount found; elements) :=
    (isUniform_signedCount _).bind fun _ => h
  unfold putCounted
  split
  · split
    · exact (isUniform_throw _).bind fun _ => hcounted
    · exact (isUniform_throw _).bind fun _ => hcounted
  · exact hcounted

/-- The elements of a tuple are written uniformly if their codecs write uniformly. -/
theorem isUniform_putEach (cs : List Codec) (h : ∀ c ∈ cs, ∀ pick v, IsUniform (putAs pick c v)) :
    ∀ vs, IsUniform (putEach cs vs) := by
  induction cs with
  | nil =>
    intro vs
    simp only [putEach]
    exact isUniform_pure ()
  | cons c cs ih =>
    intro vs
    cases vs with
    | nil =>
      simp only [putEach]
      exact isUniform_pure ()
    | cons v vs =>
      simp only [putEach]
      refine (isUniform_raw _).lift.bind fun _ => ?_
      refine (isUniform_putElementWith v (h c (by simp) true v)).bind fun _ => ?_
      exact ih (fun d hd => h d (by simp [hd])) vs

/-- The fields of a named tuple are written uniformly if their codecs write uniformly. -/
theorem isUniform_putNamed (codecs : List (String × Codec))
    (h : ∀ f ∈ codecs, ∀ pick v, IsUniform (putAs pick f.2 v)) (fields : List (String × Value)) :
    IsUniform (putNamed codecs fields) := by
  induction codecs with
  | nil =>
    simp only [putNamed]
    exact isUniform_pure ()
  | cons f codecs ih =>
    obtain ⟨name, c⟩ := f
    simp only [putNamed]
    split
    · exact isUniform_throw _
    next v _ =>
      refine (isUniform_raw _).lift.bind fun _ => ?_
      refine (isUniform_putElementWith v (h (name, c) (by simp) true v)).bind fun _ => ?_
      exact ih fun f hf => h f (by simp [hf])

/-- The elements of an object are written uniformly if their codecs write uniformly. -/
theorem isUniform_putShape (shape : List (ShapeElement Codec))
    (h : ∀ e ∈ shape, ∀ pick v, IsUniform (putAs pick e.codec v)) (fields : List (String × Value)) :
    IsUniform (putShape shape fields) := by
  induction shape with
  | nil =>
    simp only [putShape]
    exact isUniform_pure ()
  | cons e shape ih =>
    simp only [putShape]
    refine (isUniform_raw _).lift.bind fun _ => ?_
    have hrest : IsUniform (putShape shape fields) := ih fun e he => h e (by simp [he])
    split
    next v _ => exact (isUniform_putElementWith v (h e (by simp) true v)).bind fun _ => hrest
    · split
      · exact (isUniform_raw _).lift.bind fun _ => hrest
      · exact (isUniform_throw _).bind fun _ => hrest

/-- An element of an input shape is written uniformly if its codec writes uniformly. -/
theorem isUniform_putSparse (shape : List (ShapeElement Codec))
    (h : ∀ e ∈ shape, ∀ pick v, IsUniform (putAs pick e.codec v)) (name : String) (v : Value) :
    IsUniform (putSparse shape name v) := by
  induction shape with
  | nil =>
    simp only [putSparse]
    exact isUniform_throw _
  | cons e shape ih =>
    simp only [putSparse]
    split
    · exact isUniform_putElementWith v (h e (by simp) true v)
    · exact ih fun e he => h e (by simp [he])

/-- Writes a field of an input shape behind its position. -/
def putSparseEntry (shape : ObjectShape) (f : String × Value) : PutM CodecError Unit := do
  PutM.signedCount ((shape.position? f.1).getD 0)
  putSparse shape f.1 f.2

/-- A field of an input shape is written uniformly if the codecs of the shape write uniformly. -/
theorem isUniform_putSparseEntry (shape : ObjectShape)
    (h : ∀ e ∈ shape, ∀ pick v, IsUniform (putAs pick e.codec v)) (f : String × Value) :
    IsUniform (putSparseEntry shape f) :=
  (isUniform_signedCount _).bind fun _ => isUniform_putSparse shape h f.1 f.2

/-- The member of a compound that takes a value writes it uniformly. -/
theorem isUniform_putFirst (cs : List Codec) (h : ∀ c ∈ cs, ∀ pick v, IsUniform (putAs pick c v))
    (v : Value) : IsUniform (putFirst cs v) := by
  induction cs with
  | nil =>
    simp only [putFirst]
    exact isUniform_throw _
  | cons c cs ih =>
    simp only [putFirst]
    split
    · exact h c (by simp) true v
    · exact ih fun d hd => h d (by simp [hd])

/-- Every codec writes every value uniformly. -/
theorem isUniform_putAs (c : Codec) : ∀ pick v, IsUniform (putAs pick c v) := by
  have hword (n : Int32) : IsUniform (liftM (Put.int32 n) : PutM CodecError Unit) :=
    (isUniform_raw _).lift
  induction c with
  | null =>
    intro pick v
    simp only [putAs]
    exact hword 0
  | scalar s =>
    intro pick v
    simp only [putAs]
    exact s.isUniform_put v
  | array item ih =>
    intro pick v
    simp only [putAs]
    split
    · exact (hword _).bind fun _ => (hword _).bind fun _ => hword _
    · refine (hword _).bind fun _ => (hword _).bind fun _ => (hword _).bind fun _ => ?_
      refine (isUniform_signedCount _).bind fun _ => (hword _).bind fun _ => ?_
      exact PutM.isUniform_forM _ fun w _ => isUniform_putElementWith w (ih true w)
    · exact isUniform_throw _
  | set item ih =>
    intro pick v
    simp only [putAs]
    exact isUniform_throw _
  | range bound ih =>
    intro pick v
    simp only [putAs]
    split
    · exact isUniform_putRangeWith _ fun w => isUniform_putBoundWith w fun pick => ih pick w
    · exact isUniform_throw _
  | multirange bound ih =>
    intro pick v
    simp only [putAs]
    split
    · refine (isUniform_signedCount _).bind fun _ => PutM.isUniform_forM _ fun r _ => ?_
      refine PutM.isUniform_withLength (isUniform_putRangeWith r fun w => ?_)
      exact isUniform_putBoundWith w fun pick => ih pick w
    · exact isUniform_throw _
  | tuple codecs ih =>
    intro pick v
    simp only [putAs]
    split
    · exact isUniform_putCounted _ _ (isUniform_putEach codecs ih _)
    · exact isUniform_throw _
  | namedTuple codecs ih =>
    intro pick v
    simp only [putAs]
    split
    · split
      · exact isUniform_throw _
      · exact (isUniform_signedCount _).bind fun _ => isUniform_putNamed codecs ih _
    · exact isUniform_throw _
  | object shape ih =>
    intro pick v
    simp only [putAs]
    split
    · exact (isUniform_signedCount _).bind fun _ => isUniform_putShape shape ih _
    · exact isUniform_throw _
  | sparseObject shape ih =>
    intro pick v
    simp only [putAs]
    split
    · split
      · exact isUniform_throw _
      · refine (isUniform_signedCount _).bind fun _ => PutM.isUniform_forM _ fun f _ => ?_
        exact isUniform_putSparseEntry shape ih f
    · exact isUniform_throw _
  | enumeration members =>
    intro pick v
    simp only [putAs]
    split
    · split
      · exact (isUniform_raw _).lift
      · exact isUniform_throw _
    · split
      · exact (isUniform_raw _).lift
      · exact isUniform_throw _
    · exact isUniform_throw _
  | compound operation members ih =>
    intro pick v
    simp only [putAs]
    split
    · exact isUniform_putFirst members ih v
    · split
      · exact isUniform_putCounted _ _ (isUniform_putEach members ih _)
      · exact isUniform_putCounted _ _ (isUniform_putEach members ih _)
      · exact isUniform_throw _

end Codec

end GelClient
