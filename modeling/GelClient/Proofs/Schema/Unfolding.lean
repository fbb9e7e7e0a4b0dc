import GelClient.Proofs.Schema.Registry

/-!
# What descriptors unfold to

`Unfolds ds n c` says which codec the descriptor at `n` has, without the table and the cache of a build: a
well known one, that of the first descriptor of the same type, or one over the codecs of the descriptors that
it refers to, which are unfolded in their turn. `obstacle?` says what can stand in the way of this: a reference
that leads to no codec before it, or something that is wrong with the descriptor by itself. A descriptor
unfolds to one codec at most, whatever follows it, and a list has one first obstacle at most.
-/

namespace GelClient

/-- The codec that a type has in every cache. -/
def Codec.wellKnown? (id : Uuid) : Option Codec :=
  if id = Uuid.nil then some .null else (Scalar.ofId? id).map .scalar

namespace Descriptor

/-- A descriptor that makes a codec, at a position of a list. -/
def IsEntry (ds : List Descriptor) (n : Nat) (d : Descriptor) : Prop :=
  ds[n]? = some d ∧ d.kind.hasCodec = true

/-- The first position of a descriptor that makes the codec of a type. -/
def IsFirst (ds : List Descriptor) (id : Uuid) (n : Nat) : Prop :=
  (∃ d, IsEntry ds n d ∧ d.id = id) ∧ ∀ m < n, ∀ d, IsEntry ds m d → d.id ≠ id

/-- The last position of a descriptor that makes a codec. -/
def IsLast (ds : List Descriptor) (n : Nat) : Prop :=
  (∃ d, IsEntry ds n d) ∧ ∀ m d, IsEntry ds m d → m ≤ n

/-- What is wrong with a reference to a position behind the descriptors `front`: there is nothing yet, or
what is there makes no codec. -/
def badReference? (front : List Descriptor) (p : UInt16) : Option CodecError :=
  match front[p.toNat]? with
  | none => some (.malformedDescriptor (.badReference front.length p.toNat))
  | some d => if d.kind.hasCodec then none else some (.malformedDescriptor (.noCodecAt p.toNat))

/-- What is wrong with a descriptor by itself. -/
def ownObstacle? (d : Descriptor) : Option CodecError :=
  match d.kind with
  | .baseScalar => if (Scalar.ofId? d.id).isSome then none else some (.unknownScalar d.id)
  | .scalar none [] => some (.unknownScalar d.id)
  | .array _ dimensions =>
    if dimensions.length = 1 then none else some (.unsupportedDimensions dimensions.length)
  | _ => none

/-- What keeps a descriptor behind the descriptors `front` from having a codec over theirs. -/
def obstacle? (front : List Descriptor) (d : Descriptor) : Option CodecError :=
  d.ownObstacle?.or (d.kind.references.findSome? (badReference? front))

/-- An element of a shape over the codec at its position. -/
def elementOver (codec : UInt16 → Codec) (e : ShapeDescriptor) : ShapeElement Codec :=
  { name := e.name, codec := codec e.position, cardinality := e.cardinality, flags := e.flags }

/-- The codec of a descriptor over those at the positions that it refers to. A scalar that derives from
others has the codec of its base, or else of its last ancestor. -/
def codecOver (d : Descriptor) (codec : UInt16 → Codec) : Codec :=
  match d.kind with
  | .set element => .set (codec element)
  | .objectShape elements => .object (elements.map (elementOver codec))
  | .inputShape elements => .sparseObject (elements.map (elementOver codec))
  | .baseScalar => ((Scalar.ofId? d.id).map .scalar).getD .null
  | .scalar (some base) _ => codec base
  | .scalar none ancestors => (ancestors.getLast?.map codec).getD .null
  | .tuple elements => .tuple (elements.map codec)
  | .namedTuple elements => .namedTuple (elements.map fun e => (e.1, codec e.2))
  | .array element _ => .array (codec element)
  | .enumeration members => .enumeration members
  | .range element => .range (codec element)
  | .multirange element => .multirange (codec element)
  | .compound op components => .compound op (components.map codec)
  | .objectType | .note => .null

/-- The codec of the descriptor at a position, by unfolding what it refers to. -/
inductive Unfolds (ds : List Descriptor) : Nat → Codec → Prop
  | known {n : Nat} {d : Descriptor} {c : Codec} (hd : IsEntry ds n d) (hc : Codec.wellKnown? d.id = some c) :
    Unfolds ds n c
  | earlier {n m : Nat} {d : Descriptor} {c : Codec} (hd : IsEntry ds n d)
    (hunknown : Codec.wellKnown? d.id = none) (hfirst : IsFirst ds d.id m) (hlt : m < n)
    (hc : Unfolds ds m c) : Unfolds ds n c
  | made {n : Nat} {d : Descriptor} (codec : UInt16 → Codec) (hd : IsEntry ds n d)
    (hunknown : Codec.wellKnown? d.id = none) (hfirst : IsFirst ds d.id n)
    (hfree : obstacle? (ds.take n) d = none)
    (hrefs : ∀ p ∈ d.kind.references, Unfolds ds p.toNat (codec p)) : Unfolds ds n (d.codecOver codec)

/-- The first descriptor that makes a codec and unfolds to none, with what stands in its way. -/
structure Obstructed (ds : List Descriptor) (n : Nat) (e : CodecError) : Prop where
  obstacle : ∃ d, IsEntry ds n d ∧ obstacle? (ds.take n) d = some e
  not_unfolds (c : Codec) : ¬ Unfolds ds n c
  first {m : Nat} {d : Descriptor} : m < n → IsEntry ds m d → ∃ c, Unfolds ds m c

variable {front : List Descriptor} {d e : Descriptor} {n : Nat} {id : Uuid} {c : Codec}

/-- A position of a list is below its length. -/
theorem IsEntry.lt (h : IsEntry front n d) : n < front.length := by
  obtain ⟨hlt, -⟩ := List.getElem?_eq_some_iff.mp h.1
  exact hlt

/-- A position of the first part of a list has the descriptor that it has there. -/
theorem isEntry_append_of_lt (h : n < front.length) (back : List Descriptor) :
    IsEntry (front ++ back) n d ↔ IsEntry front n d := by
  rw [IsEntry, IsEntry, List.getElem?_append_left h]

/-- One more descriptor stands behind the others. -/
theorem getElem?_concat_eq_some :
    (front ++ [d])[n]? = some e ↔ front[n]? = some e ∨ n = front.length ∧ e = d := by
  obtain hlt | hle := Nat.lt_or_ge n front.length
  · rw [List.getElem?_append_left hlt]
    exact ⟨.inl, fun h => h.resolve_right fun ⟨hn, _⟩ => Nat.ne_of_lt hlt hn⟩
  · rw [List.getElem?_append_right hle, List.getElem?_eq_none hle, List.getElem?_singleton]
    split
    next hsub =>
      have hn : n = front.length := by omega
      simp [hn, eq_comm]
    next hsub =>
      have hn : n ≠ front.length := by omega
      simp [hn]

/-- One more descriptor is one more entry, if it makes a codec. -/
theorem isEntry_concat :
    IsEntry (front ++ [d]) n e ↔ IsEntry front n e ∨ n = front.length ∧ e = d ∧ d.kind.hasCodec = true := by
  rw [IsEntry, IsEntry, getElem?_concat_eq_some]
  constructor
  · rintro ⟨he | ⟨rfl, rfl⟩, hcodec⟩
    · exact .inl ⟨he, hcodec⟩
    · exact .inr ⟨rfl, rfl, hcodec⟩
  · rintro (⟨he, hcodec⟩ | ⟨rfl, rfl, hcodec⟩)
    · exact ⟨.inl he, hcodec⟩
    · exact ⟨.inr ⟨rfl, rfl⟩, hcodec⟩

/-- A descriptor that makes no codec adds no entry. -/
theorem isEntry_of_concat (hd : d.kind.hasCodec = false) (h : IsEntry (front ++ [d]) n e) :
    IsEntry front n e := by
  obtain h | ⟨-, -, hcodec⟩ := isEntry_concat.mp h
  · exact h
  · simp [hd] at hcodec

/-- The first descriptor of a type stays the first one. -/
theorem IsFirst.append (h : IsFirst front id n) (back : List Descriptor) : IsFirst (front ++ back) id n := by
  obtain ⟨⟨d, hd, hid⟩, hfirst⟩ := h
  refine ⟨⟨d, (isEntry_append_of_lt hd.lt back).mpr hd, hid⟩, fun m hm e he => ?_⟩
  exact hfirst m hm e ((isEntry_append_of_lt (Nat.lt_trans hm hd.lt) back).mp he)

/-- A descriptor whose type no earlier one has is the first of its type. -/
theorem isFirst_concat (hcodec : d.kind.hasCodec = true) (hnew : ∀ n e, IsEntry front n e → e.id ≠ d.id) :
    IsFirst (front ++ [d]) d.id front.length := by
  refine ⟨⟨d, isEntry_concat.mpr (.inr ⟨rfl, rfl, hcodec⟩), rfl⟩, fun m hm e he => ?_⟩
  exact hnew m e ((isEntry_append_of_lt hm [d]).mp he)

/-- What follows a descriptor does not change its codec. -/
theorem Unfolds.append (h : Unfolds front n c) (back : List Descriptor) : Unfolds (front ++ back) n c := by
  induction h with
  | known hd hc => exact .known ((isEntry_append_of_lt hd.lt back).mpr hd) hc
  | earlier hd hunknown hfirst hlt _ ih =>
    exact .earlier ((isEntry_append_of_lt hd.lt back).mpr hd) hunknown (hfirst.append back) hlt ih
  | made codec hd hunknown hfirst hfree _ ih =>
    refine .made codec ((isEntry_append_of_lt hd.lt back).mpr hd) hunknown (hfirst.append back) ?_ ih
    rwa [List.take_append_of_le_length (Nat.le_of_lt hd.lt)]

/-- A list has one last descriptor that makes a codec. -/
theorem IsLast.unique {ds : List Descriptor} {m n : Nat} (h : IsLast ds m) (h' : IsLast ds n) : m = n := by
  obtain ⟨⟨d, hd⟩, hlast⟩ := h
  obtain ⟨⟨d', hd'⟩, hlast'⟩ := h'
  exact Nat.le_antisymm (hlast' m d hd) (hlast n d' hd')

/-- A type has one first descriptor. -/
theorem IsFirst.unique {ds : List Descriptor} {m n : Nat} (h : IsFirst ds id m) (h' : IsFirst ds id n) :
    m = n := by
  obtain ⟨⟨d, hd, hid⟩, hfirst⟩ := h
  obtain ⟨⟨d', hd', hid'⟩, hfirst'⟩ := h'
  obtain hlt | heq | hlt := Nat.lt_trichotomy m n
  · exact absurd hid (hfirst' m hlt d hd)
  · exact heq
  · exact absurd hid' (hfirst n hlt d' hd')

/-- A codec over others depends on those that its descriptor refers to only. -/
theorem codecOver_congr {codec codec' : UInt16 → Codec} (h : ∀ p ∈ d.kind.references, codec p = codec' p) :
    d.codecOver codec = d.codecOver codec' := by
  obtain ⟨id, name, kind⟩ := d
  cases kind with
  | set p | range p | multirange p | array p _ =>
    have hp : codec p = codec' p := h p (List.mem_singleton_self p)
    simp only [codecOver, hp]
  | objectShape elements | inputShape elements =>
    have hmap : elements.map (elementOver codec) = elements.map (elementOver codec') := by
      refine List.map_congr_left fun e he => ?_
      rw [elementOver, elementOver, h e.position (List.mem_map_of_mem he)]
    simp only [codecOver, hmap]
  | tuple ps | compound _ ps =>
    have hmap : ps.map codec = ps.map codec' := List.map_congr_left h
    simp only [codecOver, hmap]
  | namedTuple elements =>
    have hmap : (elements.map fun e => (e.1, codec e.2)) = elements.map fun e => (e.1, codec' e.2) := by
      refine List.map_congr_left fun e he => ?_
      rw [h e.2 (List.mem_map_of_mem he)]
    simp only [codecOver, hmap]
  | scalar base ancestors =>
    cases base with
    | some base => exact h base (List.mem_singleton_self base)
    | none =>
      cases hlast : ancestors.getLast? with
      | none => simp only [codecOver, hlast, Option.map_none]
      | some p =>
        have hp : codec p = codec' p := h p (by simp [DescriptorKind.references, hlast])
        simp only [codecOver, hlast, Option.map_some, hp]
  | baseScalar | enumeration _ | objectType | note => rfl

/-- A descriptor unfolds to one codec only. -/
theorem Unfolds.unique {ds : List Descriptor} {c' : Codec} (h : Unfolds ds n c) (h' : Unfolds ds n c') :
    c = c' := by
  have hsame {n : Nat} {d d' : Descriptor} (hd : IsEntry ds n d) (hd' : IsEntry ds n d') : d' = d :=
    Option.some.inj (hd'.1.symm.trans hd.1)
  induction h generalizing c' with
  | known hd hc =>
    cases h' with
    | known hd' hc' =>
      obtain rfl := hsame hd hd'
      exact Option.some.inj (hc.symm.trans hc')
    | earlier hd' hunknown _ _ _ | made _ hd' hunknown _ _ _ =>
      obtain rfl := hsame hd hd'
      cases hunknown.symm.trans hc
  | earlier hd hunknown hfirst hlt _ ih =>
    cases h' with
    | known hd' hc' =>
      obtain rfl := hsame hd hd'
      cases hunknown.symm.trans hc'
    | earlier hd' _ hfirst' _ hc' =>
      obtain rfl := hsame hd hd'
      obtain rfl := hfirst.unique hfirst'
      exact ih hc'
    | made _ hd' _ hfirst' _ _ =>
      obtain rfl := hsame hd hd'
      exact absurd (hfirst.unique hfirst') (Nat.ne_of_lt hlt)
  | made _ hd hunknown hfirst _ _ ih =>
    cases h' with
    | known hd' hc' =>
      obtain rfl := hsame hd hd'
      cases hunknown.symm.trans hc'
    | earlier hd' _ hfirst' hlt _ =>
      obtain rfl := hsame hd hd'
      exact absurd (hfirst'.unique hfirst) (Nat.ne_of_lt hlt)
    | made _ hd' _ _ _ hrefs' =>
      obtain rfl := hsame hd hd'
      exact codecOver_congr fun p hp => ih p hp (hrefs' p hp)

/-- Two first descriptors without a codec are one. -/
theorem Obstructed.unique {ds : List Descriptor} {m n : Nat} {e e' : CodecError} (h : Obstructed ds m e)
    (h' : Obstructed ds n e') : e = e' := by
  obtain ⟨d, hd, he⟩ := h.obstacle
  obtain ⟨d', hd', he'⟩ := h'.obstacle
  have hle : n ≤ m := by
    by_contra hlt
    obtain ⟨c, hc⟩ := h'.first (Nat.lt_of_not_le hlt) hd
    exact h.not_unfolds c hc
  have hge : m ≤ n := by
    by_contra hlt
    obtain ⟨c, hc⟩ := h.first (Nat.lt_of_not_le hlt) hd'
    exact h'.not_unfolds c hc
  obtain rfl := Nat.le_antisymm hge hle
  obtain rfl := Option.some.inj (hd.1.symm.trans hd'.1)
  exact Option.some.inj (he.symm.trans he')

end Descriptor

end GelClient
