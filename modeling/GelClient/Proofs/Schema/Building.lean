import GelClient.Proofs.Schema.Unfolding

/-!
# Builds give what their descriptors unfold to

A build goes through its descriptors once, with a table of the codecs that it has and with the cache. The
table has one place for each descriptor that was passed (`Table`), and the cache holds the codecs of the
types of these descriptors and no others but the well known ones (`Stores`). So a build that starts with an
empty cache gives the codec that the last descriptor unfolds to, if all of them unfold to one, and else it
fails with the first obstacle.
-/

namespace GelClient

open Actions

namespace BuiltCodecs

variable {built : BuiltCodecs} {d : Descriptor}

/-- A result, unless something stands in its way. -/
def unlessBlocked {α : Type} (obstacle? : Option CodecError) (a : α) : Except CodecError α :=
  match obstacle? with
  | some e => .error e
  | none => .ok a

/-- What stands in the way of the first computation stands in the way of what is made of its result. -/
private theorem unlessBlocked_bind_pure {α β : Type} (obstacle? : Option CodecError) (a : α) (f : α → β) :
    (do return f (← unlessBlocked obstacle? a)) = unlessBlocked obstacle? (f a) := by
  cases obstacle? <;> rfl

/-- A list of results is there unless something stands in the way of one of them, and then the first such
thing is what stands in the way of the list. -/
private theorem mapM_unlessBlocked {ι α : Type} {f : ι → Except CodecError α} {obstacle? : ι → Option CodecError}
    {value : ι → α} (h : ∀ i, f i = unlessBlocked (obstacle? i) (value i)) (items : List ι) :
    items.mapM f = unlessBlocked (items.findSome? obstacle?) (items.map value) := by
  induction items with
  | nil => rfl
  | cons i items ih =>
    rw [List.mapM_cons, h i, ih, List.findSome?_cons, List.map_cons]
    cases obstacle? i with
    | some e => rfl
    | none => exact unlessBlocked_bind_pure _ _ (value i :: ·)

section Construct

variable {front : List Descriptor} {codec : UInt16 → Codec}
  (hat : ∀ p, built.at? p = unlessBlocked (Descriptor.badReference? front p) (codec p))
include hat

/-- One codec over another is there unless the reference is bad. -/
theorem construct_one (p : UInt16) (f : Codec → Codec) : (do return f (← built.at? p)) =
    unlessBlocked ([p].findSome? (Descriptor.badReference? front)) (f (codec p)) := by
  rw [hat, List.findSome?_singleton]
  exact unlessBlocked_bind_pure _ _ f

/-- One codec over others is there unless one of the references is bad. -/
theorem construct_many (ps : List UInt16) (f : List Codec → Codec) : (do return f (← ps.mapM built.at?)) =
    unlessBlocked (ps.findSome? (Descriptor.badReference? front)) (f (ps.map codec)) := by
  rw [mapM_unlessBlocked hat]
  exact unlessBlocked_bind_pure _ _ f

/-- One codec over those of a shape is there unless one of the references is bad. -/
theorem construct_shape (elements : List ShapeDescriptor) (f : ObjectShape → Codec) :
    (do return f (← built.shape elements)) =
      unlessBlocked ((elements.map (·.position)).findSome? (Descriptor.badReference? front))
        (f (elements.map (Descriptor.elementOver codec))) := by
  have helement (e : ShapeDescriptor) : (do
        let codec ← built.at? e.position
        return { name := e.name, codec, cardinality := e.cardinality, flags := e.flags }) =
      unlessBlocked (Descriptor.badReference? front e.position) (Descriptor.elementOver codec e) := by
    rw [hat]
    exact unlessBlocked_bind_pure _ _ fun codec => ShapeElement.mk e.name codec e.cardinality e.flags
  rw [shape, mapM_unlessBlocked helement, List.findSome?_map]
  exact unlessBlocked_bind_pure _ _ f

/-- One codec over those of a named tuple is there unless one of the references is bad. -/
theorem construct_named (elements : List (String × UInt16)) (f : List (String × Codec) → Codec) :
    (do return f (← elements.mapM fun (name, position) => do return (name, ← built.at? position))) =
      unlessBlocked ((elements.map (·.2)).findSome? (Descriptor.badReference? front))
        (f (elements.map fun e => (e.1, codec e.2))) := by
  have helement (e : String × UInt16) : (do return (e.1, ← built.at? e.2)) =
      unlessBlocked (Descriptor.badReference? front e.2) (e.1, codec e.2) := by
    rw [hat]
    exact unlessBlocked_bind_pure _ _ fun codec => (e.1, codec)
  rw [mapM_unlessBlocked helement, List.findSome?_map]
  exact unlessBlocked_bind_pure _ _ f

/-- If each position has its codec unless the reference is bad, then a descriptor has its codec over these
unless something stands in its way. -/
theorem construct_eq (hcodec : d.kind.hasCodec = true) :
    built.construct d = unlessBlocked (Descriptor.obstacle? front d) (d.codecOver codec) := by
  obtain ⟨id, name, kind⟩ := d
  cases kind with
  | set p | range p | multirange p => exact construct_one hat p _
  | objectShape elements | inputShape elements => exact construct_shape hat elements _
  | tuple ps | compound _ ps => exact construct_many hat ps _
  | namedTuple elements => exact construct_named hat elements _
  | array p dimensions =>
    rw [Descriptor.obstacle?, Descriptor.ownObstacle?]
    by_cases hone : dimensions.length = 1
    · simp only [construct, hone, ne_eq, not_true_eq_false, if_true, if_false, Option.none_or]
      exact construct_one hat p _
    · simp only [construct, hone, ne_eq, not_false_eq_true, if_true, if_false, Option.some_or]
      rfl
  | enumeration members => rfl
  | baseScalar =>
    rw [Descriptor.obstacle?, Descriptor.ownObstacle?]
    cases hid : Scalar.ofId? id with
    | none =>
      simp only [construct, hid]
      rfl
    | some s =>
      simp only [construct, hid, Descriptor.codecOver]
      rfl
  | scalar base ancestors =>
    rw [Descriptor.obstacle?]
    cases base with
    | some base =>
      rw [DescriptorKind.references, List.findSome?_singleton]
      exact hat base
    | none =>
      cases ancestors with
      | nil => rfl
      | cons a ancestors =>
        have hlast : (a :: ancestors).getLast? = some (ancestors.getLast?.getD a) := List.getLast?_cons
        rw [DescriptorKind.references, hlast, Option.toList_some, List.findSome?_singleton]
        simp only [construct, Descriptor.codecOver, hlast]
        exact hat _
  | objectType | note => cases hcodec

end Construct

/-- The codec at a position, where there is one. -/
def codecAt (built : BuiltCodecs) (p : UInt16) : Codec :=
  built[p.toNat]?.join.getD .null

end BuiltCodecs

/-- An empty cache holds the well known codecs. -/
theorem CodecCache.get?_empty (id : Uuid) : CodecCache.empty.get? id = Codec.wellKnown? id := by
  rw [get?, Codec.wellKnown?, empty, List.lookup_cons]
  by_cases h : id = Uuid.nil
  · simp [h]
  · rw [if_neg h, beq_eq_false_iff_ne.mpr h]
    rfl

namespace Descriptor

open BuiltCodecs (unlessBlocked)

variable {front : List Descriptor} {d e : Descriptor} {n : Nat} {id : Uuid} {c : Codec}

/-- What the table of a build holds for the descriptor at a position. -/
def Fills (ds : List Descriptor) (n : Nat) (d : Descriptor) : Option Codec → Prop
  | none => d.kind.hasCodec = false
  | some c => d.kind.hasCodec = true ∧ Unfolds ds n c

/-- What follows a descriptor does not change what the table holds for it. -/
theorem Fills.append {slot : Option Codec} (h : Fills front n d slot) (back : List Descriptor) :
    Fills (front ++ back) n d slot := by
  cases slot with
  | none => exact h
  | some c => exact ⟨h.1, h.2.append back⟩

/-- The table holds a codec for a descriptor that makes one. -/
theorem Fills.exists_unfolds {slot : Option Codec} (h : Fills front n d slot)
    (hd : d.kind.hasCodec = true) : ∃ c, Unfolds front n c := by
  cases slot with
  | none => cases hd.symm.trans h
  | some c => exact ⟨c, h.2⟩

/-- The table of a build that has passed the descriptors `front`, and the codec of the last one. -/
structure Table (front : List Descriptor) (built : BuiltCodecs) (root : Option Codec) : Prop where
  size_eq : built.size = front.length
  slot {n : Nat} {d : Descriptor} : front[n]? = some d → ∃ s, built[n]? = some s ∧ Fills front n d s
  root_some {c : Codec} : root = some c → ∃ n, IsLast front n ∧ Unfolds front n c
  root_none : root = none → ∀ n d, ¬ IsEntry front n d

/-- The cache of a build that has passed the descriptors `front`. -/
structure Stores (front : List Descriptor) (cache : CodecCache) : Prop where
  of_some {id : Uuid} {c : Codec} : cache.get? id = some c → Codec.wellKnown? id = some c ∨
    Codec.wellKnown? id = none ∧ ∃ n, IsFirst front id n ∧ Unfolds front n c
  of_none {id : Uuid} : cache.get? id = none → Codec.wellKnown? id = none ∧
    ∀ n d, IsEntry front n d → d.id ≠ id

variable {built : BuiltCodecs} {root : Option Codec} {cache : CodecCache}

/-- The codec at a position is that of its descriptor, unless the reference is bad. -/
theorem Table.at?_eq (h : Table front built root) (p : UInt16) :
    built.at? p = unlessBlocked (badReference? front p) (built.codecAt p) := by
  rw [BuiltCodecs.at?, badReference?, BuiltCodecs.codecAt]
  cases hp : front[p.toNat]? with
  | none =>
    have hout : built[p.toNat]? = none := by
      rw [Array.getElem?_eq_none_iff, h.size_eq]
      exact List.getElem?_eq_none_iff.mp hp
    rw [hout, h.size_eq]
    rfl
  | some d =>
    obtain ⟨s, hs, hfills⟩ := h.slot hp
    rw [hs]
    cases s with
    | none =>
      have hcodec : d.kind.hasCodec = false := hfills
      simp only [hcodec]
      rfl
    | some c =>
      have hcodec : d.kind.hasCodec = true := hfills.1
      simp only [hcodec]
      rfl

/-- The codec at a position is what the descriptor there unfolds to. -/
theorem Table.unfolds (h : Table front built root) {p : UInt16} (hp : badReference? front p = none) :
    Unfolds front p.toNat (built.codecAt p) := by
  rw [badReference?] at hp
  cases hd : front[p.toNat]? with
  | none => simp [hd] at hp
  | some d =>
    have hcodec : d.kind.hasCodec = true := by simpa [hd] using hp
    obtain ⟨s, hs, hfills⟩ := h.slot hd
    cases s with
    | none =>
      have hnone : d.kind.hasCodec = false := hfills
      simp [hnone] at hcodec
    | some c =>
      rw [BuiltCodecs.codecAt, hs]
      exact hfills.2

/-- Nothing is passed at the start. -/
private theorem table_nil : Table [] #[] none where
  size_eq := rfl
  slot h := by simp at h
  root_some h := by simp at h
  root_none _ _ _ h := by simp [IsEntry] at h

/-- At the start the cache holds the well known codecs. -/
private theorem stores_nil : Stores [] .empty where
  of_some h := .inl (CodecCache.get?_empty _ ▸ h)
  of_none h := ⟨CodecCache.get?_empty _ ▸ h, fun _ _ hd => by simp [IsEntry] at hd⟩

/-- One more descriptor takes one more place in the table. -/
theorem Table.slot_push (h : Table front built root) {s : Option Codec}
    (hs : Fills (front ++ [d]) front.length d s) (he : (front ++ [d])[n]? = some e) :
    ∃ s', (built.push s)[n]? = some s' ∧ Fills (front ++ [d]) n e s' := by
  obtain he | ⟨rfl, rfl⟩ := getElem?_concat_eq_some.mp he
  · obtain ⟨s', hs', hfills⟩ := h.slot he
    obtain ⟨hlt, -⟩ := Array.getElem?_eq_some_iff.mp hs'
    exact ⟨s', by rw [Array.getElem?_push, if_neg (Nat.ne_of_lt hlt), hs'], hfills.append [d]⟩
  · exact ⟨s, by rw [← h.size_eq, Array.getElem?_push_size], hs⟩

/-- The table has one more place than before. -/
theorem Table.size_push (h : Table front built root) (s : Option Codec) (d : Descriptor) :
    (built.push s).size = (front ++ [d]).length := by
  rw [Array.size_push, h.size_eq, List.length_append, List.length_singleton]

/-- A descriptor that makes no codec takes a place in the table. -/
theorem Table.skip (h : Table front built root) (hd : d.kind.hasCodec = false) :
    Table (front ++ [d]) (built.push none) root where
  size_eq := h.size_push none d
  slot := h.slot_push hd
  root_some hroot := by
    obtain ⟨n, ⟨⟨e, he⟩, hlast⟩, hc⟩ := h.root_some hroot
    exact ⟨n, ⟨⟨e, isEntry_concat.mpr (.inl he)⟩, fun m e he => hlast m e (isEntry_of_concat hd he)⟩,
      hc.append [d]⟩
  root_none hroot n e he := h.root_none hroot n e (isEntry_of_concat hd he)

/-- A descriptor that makes a codec takes a place in the table, and its codec is the last one. -/
theorem Table.push (h : Table front built root) (hd : d.kind.hasCodec = true)
    (hc : Unfolds (front ++ [d]) front.length c) : Table (front ++ [d]) (built.push (some c)) (some c) where
  size_eq := h.size_push (some c) d
  slot := h.slot_push ⟨hd, hc⟩
  root_some hroot := by
    cases hroot
    refine ⟨front.length, ⟨⟨d, isEntry_concat.mpr (.inr ⟨rfl, rfl, hd⟩)⟩, fun m e he => ?_⟩, hc⟩
    have hlt := he.lt
    rw [List.length_append, List.length_singleton] at hlt
    omega
  root_none hroot := by cases hroot

/-- A cached codec of an earlier type is still that of its first descriptor. -/
theorem Stores.of_some_concat (h : Stores front cache) (d : Descriptor) (hc : cache.get? id = some c) :
    Codec.wellKnown? id = some c ∨
      Codec.wellKnown? id = none ∧ ∃ n, IsFirst (front ++ [d]) id n ∧ Unfolds (front ++ [d]) n c := by
  obtain hknown | ⟨hunknown, n, hfirst, hunfolds⟩ := h.of_some hc
  · exact .inl hknown
  · exact .inr ⟨hunknown, n, hfirst.append [d], hunfolds.append [d]⟩

/-- A descriptor that makes no codec leaves the cache as it is. -/
theorem Stores.skip (h : Stores front cache) (hd : d.kind.hasCodec = false) :
    Stores (front ++ [d]) cache where
  of_some := h.of_some_concat d
  of_none hnone := ⟨(h.of_none hnone).1, fun n e he => (h.of_none hnone).2 n e (isEntry_of_concat hd he)⟩

/-- A descriptor whose type is cached leaves the cache as it is. -/
theorem Stores.known (h : Stores front cache) (hc : cache.get? d.id = some c) :
    Stores (front ++ [d]) cache where
  of_some := h.of_some_concat d
  of_none {id} hnone := by
    obtain ⟨hunknown, hnew⟩ := h.of_none hnone
    refine ⟨hunknown, fun n e he => ?_⟩
    obtain he | ⟨-, rfl, -⟩ := isEntry_concat.mp he
    · exact hnew n e he
    · rintro rfl
      simp [hnone] at hc

/-- The codec of a new type is cached. -/
theorem Stores.insert (h : Stores front cache) (hd : d.kind.hasCodec = true) (hnew : cache.get? d.id = none)
    (hc : Unfolds (front ++ [d]) front.length c) : Stores (front ++ [d]) (cache.insert d.id c) where
  of_some {id c'} hsome := by
    by_cases hid : id = d.id
    · subst hid
      rw [CodecCache.get?_insert_self, Option.some.injEq] at hsome
      subst hsome
      obtain ⟨hunknown, hnone⟩ := h.of_none hnew
      exact .inr ⟨hunknown, front.length, isFirst_concat hd hnone, hc⟩
    · rw [CodecCache.get?_insert_of_ne hid] at hsome
      exact h.of_some_concat d hsome
  of_none {id} hnone := by
    have hid : id ≠ d.id := by
      rintro rfl
      simp at hnone
    rw [CodecCache.get?_insert_of_ne hid] at hnone
    obtain ⟨hunknown, hother⟩ := h.of_none hnone
    refine ⟨hunknown, fun n e he => ?_⟩
    obtain he | ⟨-, rfl, -⟩ := isEntry_concat.mp he
    · exact hother n e he
    · exact hid.symm

/-- A descriptor whose type is cached unfolds to the cached codec. -/
theorem Stores.unfolds (h : Stores front cache) (hd : d.kind.hasCodec = true)
    (hc : cache.get? d.id = some c) : Unfolds (front ++ [d]) front.length c := by
  have hentry : IsEntry (front ++ [d]) front.length d := isEntry_concat.mpr (.inr ⟨rfl, rfl, hd⟩)
  obtain hknown | ⟨hunknown, n, hfirst, hunfolds⟩ := h.of_some hc
  · exact .known hentry hknown
  · obtain ⟨e, he, -⟩ := hfirst.1
    exact .earlier hentry hunknown (hfirst.append [d]) he.lt (hunfolds.append [d])

/-- A descriptor of a new type unfolds to a codec over those in the table, if nothing stands in its way. -/
theorem Table.unfolds_over (h : Table front built root) (hs : Stores front cache)
    (hd : d.kind.hasCodec = true) (hnew : cache.get? d.id = none) (hfree : obstacle? front d = none) :
    Unfolds (front ++ [d]) front.length (d.codecOver built.codecAt) := by
  obtain ⟨hunknown, hnone⟩ := hs.of_none hnew
  refine .made built.codecAt (isEntry_concat.mpr (.inr ⟨rfl, rfl, hd⟩)) hunknown (isFirst_concat hd hnone) ?_ ?_
  · rwa [List.take_left]
  · intro p hp
    obtain ⟨-, hrefs⟩ := Option.or_eq_none_iff.mp hfree
    exact (h.unfolds (List.findSome?_eq_none_iff.mp hrefs p hp)).append [d]

/-- A descriptor of a new type is the first one without a codec, if something stands in its way. -/
theorem Table.obstructed (h : Table front built root) (hs : Stores front cache)
    (hd : d.kind.hasCodec = true) (hnew : cache.get? d.id = none) {e : CodecError}
    (he : obstacle? front d = some e) (back : List Descriptor) :
    Obstructed (front ++ d :: back) front.length e := by
  obtain ⟨hunknown, hnone⟩ := hs.of_none hnew
  have hentry : IsEntry (front ++ d :: back) front.length d := ⟨by simp, hd⟩
  have hobstacle : obstacle? ((front ++ d :: back).take front.length) d = some e := by rwa [List.take_left]
  have hunique {d' : Descriptor} (h : IsEntry (front ++ d :: back) front.length d') : d' = d :=
    Option.some.inj (h.1.symm.trans hentry.1)
  refine ⟨⟨d, hentry, hobstacle⟩, fun c hc => ?_, fun {m e} hm hentry => ?_⟩
  · cases hc with
    | known hd' hknown =>
      obtain rfl := hunique hd'
      cases hunknown.symm.trans hknown
    | earlier hd' _ hfirst hlt _ =>
      obtain rfl := hunique hd'
      obtain ⟨⟨e', he', hid⟩, -⟩ := hfirst
      exact hnone _ e' ((isEntry_append_of_lt hlt _).mp he') hid
    | made _ hd' _ _ hfree _ =>
      obtain rfl := hunique hd'
      cases hobstacle.symm.trans hfree
  · have hpassed := (isEntry_append_of_lt hm _).mp hentry
    obtain ⟨s, -, hfills⟩ := h.slot hpassed.1
    exact (hfills.append _).exists_unfolds hpassed.2

/-- A build passes all descriptors, or it ends at the first one that something stands in the way of. -/
theorem Table.buildAll (h : Table front built root) (hs : Stores front cache) (back : List Descriptor) :
    (∃ root' cache' built', CodecCache.buildAll built root back cache = .ok root' cache' ∧
      Table (front ++ back) built' root') ∨
    ∃ e cache' n, CodecCache.buildAll built root back cache = .error e cache' ∧
      Obstructed (front ++ back) n e := by
  induction back generalizing front built root cache with
  | nil => exact .inl ⟨root, cache, built, rfl, by rwa [List.append_nil]⟩
  | cons d back ih =>
    rw [CodecCache.buildAll]
    split
    case isTrue hd =>
      have hresolve := CodecCache.resolve_apply built d cache
      cases hc : cache.get? d.id with
      | some c =>
        rw [hc] at hresolve
        rw [bind_of_ok hresolve, List.append_cons]
        exact ih (h.push hd (hs.unfolds hd hc)) (hs.known hc)
      | none =>
        rw [hc, BuiltCodecs.construct_eq h.at?_eq hd] at hresolve
        cases hobstacle : obstacle? front d with
        | none =>
          have hover := h.unfolds_over hs hd hc hobstacle
          rw [hobstacle] at hresolve
          rw [bind_of_ok hresolve, List.append_cons]
          exact ih (h.push hd hover) (hs.insert hd hc hover)
        | some e =>
          rw [hobstacle] at hresolve
          exact .inr ⟨e, cache, front.length, bind_of_error hresolve, h.obstructed hs hd hc hobstacle back⟩
    case isFalse hd =>
      have hd : d.kind.hasCodec = false := by simpa using hd
      rw [List.append_cons]
      exact ih (h.skip hd) (hs.skip hd)

end Descriptor

namespace CodecCache

/-- A build that numbers its descriptors and compares the positions that they refer to with these numbers
only. It gives nothing as soon as a position that passes is not in the table. -/
def buildNumbered (number : Nat) (built : BuiltCodecs) (root : Option Codec) :
    List Descriptor → Action (Option (Option Codec))
  | [] => return some root
  | d :: rest =>
    if d.kind.references.any fun p => p.toNat < number && built.size ≤ p.toNat then return none
    else if d.kind.hasCodec then do
      let codec ← resolve built d
      buildNumbered (number + 1) (built.push (some codec)) (some codec) rest
    else buildNumbered (number + 1) (built.push none) root rest

/-- The number of a descriptor is the size of the table, so no position that passes is out of range. -/
theorem buildNumbered_eq (built : BuiltCodecs) (root : Option Codec) (ds : List Descriptor) :
    buildNumbered built.size built root ds = some <$> buildAll built root ds := by
  induction ds generalizing built root with
  | nil => rfl
  | cons d ds ih =>
    have hrange : ¬ (d.kind.references.any fun p => p.toNat < built.size && built.size ≤ p.toNat) := by
      rw [Bool.not_eq_true, List.any_eq_false]
      intro p _
      simp only [Bool.and_eq_true, decide_eq_true_eq]
      omega
    rw [buildNumbered, if_neg hrange, buildAll]
    split
    · rw [map_bind]
      congr 1
      funext c
      rw [← ih, Array.size_push]
    · rw [← ih, Array.size_push]

open Descriptor (IsEntry IsLast Unfolds Obstructed Table)

/-- What can become of a build that starts with an empty cache. -/
inductive Outcome (ds : List Descriptor) : EStateM.Result CodecError CodecCache Codec → Prop
  | built {c : Codec} {n : Nat} {cache : CodecCache} (hall : ∀ n d, IsEntry ds n d → ∃ c, Unfolds ds n c)
    (hlast : IsLast ds n) (hc : Unfolds ds n c) : Outcome ds (.ok c cache)
  | obstructed {e : CodecError} {n : Nat} {cache : CodecCache} (h : Obstructed ds n e) :
    Outcome ds (.error e cache)
  | rootless {cache : CodecCache} (h : ∀ n d, ¬ IsEntry ds n d) :
    Outcome ds (.error (.malformedDescriptor .noRoot) cache)

/-- A type that is not well known is built from its descriptors if the cache is empty. -/
theorem outcome_build {version : ProtocolVersion} {rootId : Uuid} {bytes : Bytes} {ds : List Descriptor}
    (hparse : Descriptor.parse version bytes = .ok ds) (hroot : Codec.wellKnown? rootId = none) :
    Outcome ds (build version rootId bytes .empty) := by
  have hget : CodecCache.empty.get? rootId = none := by rw [get?_empty, hroot]
  simp only [build, get_bind_apply, hget, hparse]
  obtain ⟨root, cache, built, hbuild, htable⟩ | ⟨e, cache, n, hbuild, hobstructed⟩ :=
    Descriptor.table_nil.buildAll Descriptor.stores_nil ds
  · rw [List.nil_append] at htable
    rw [bind_of_ok hbuild]
    cases root with
    | none => exact .rootless (htable.root_none rfl)
    | some c =>
      obtain ⟨n, hlast, hc⟩ := htable.root_some rfl
      refine .built (fun n d hd => ?_) hlast hc
      obtain ⟨s, -, hfills⟩ := htable.slot hd.1
      exact hfills.exists_unfolds hd.2
  · rw [bind_of_error hbuild]
    exact .obstructed hobstructed

/-- A build that starts with an empty cache gives the codec that the last descriptor unfolds to, exactly if
every descriptor that makes a codec unfolds to one. Else it fails with what stands in the way of the first one
that does not, or because there is none at all. No position that it compares with the number of a descriptor
is out of the range of its table. -/
theorem build_unfolds {version : ProtocolVersion} {rootId : Uuid} {bytes : Bytes} {ds : List Descriptor}
    (hparse : Descriptor.parse version bytes = .ok ds) (hroot : Codec.wellKnown? rootId = none) :
    (∀ c, value? (build version rootId bytes .empty) = some c ↔
      (∀ n d, IsEntry ds n d → ∃ c, Unfolds ds n c) ∧ ∃ n, IsLast ds n ∧ Unfolds ds n c) ∧
    (∀ e, failure? (build version rootId bytes .empty) = some e ↔
      (∃ n, Obstructed ds n e) ∨ (∀ n d, ¬ IsEntry ds n d) ∧ e = .malformedDescriptor .noRoot) ∧
    buildNumbered 0 #[] none ds = some <$> buildAll #[] none ds := by
  have houtcome := outcome_build hparse hroot
  generalize build version rootId bytes .empty = result at houtcome ⊢
  refine ⟨fun c => ?_, fun e => ?_, buildNumbered_eq #[] none ds⟩
  · cases houtcome with
    | built hall hlast hc =>
      simp only [value?, Option.some.injEq]
      constructor
      · rintro rfl
        exact ⟨hall, _, hlast, hc⟩
      · rintro ⟨-, n, hlast', hc'⟩
        obtain rfl := hlast.unique hlast'
        exact hc.unique hc'
    | obstructed h =>
      obtain ⟨d, hd, -⟩ := h.obstacle
      refine iff_of_false (by simp [value?]) ?_
      rintro ⟨hall, -⟩
      obtain ⟨c, hc⟩ := hall _ d hd
      exact h.not_unfolds c hc
    | rootless h =>
      refine iff_of_false (by simp [value?]) ?_
      rintro ⟨-, n, ⟨⟨d, hd⟩, -⟩, -⟩
      exact h n d hd
  · cases houtcome with
    | built hall hlast _ =>
      obtain ⟨⟨d, hd⟩, -⟩ := hlast
      refine iff_of_false (by simp [failure?]) ?_
      rintro (⟨n, h⟩ | ⟨h, -⟩)
      · obtain ⟨d', hd', -⟩ := h.obstacle
        obtain ⟨c, hc⟩ := hall n d' hd'
        exact h.not_unfolds c hc
      · exact h _ d hd
    | obstructed h =>
      simp only [failure?, Option.some.injEq]
      constructor
      · rintro rfl
        exact .inl ⟨_, h⟩
      · rintro (⟨n, h'⟩ | ⟨hnone, -⟩)
        · exact h.unique h'
        · obtain ⟨d, hd, -⟩ := h.obstacle
          exact absurd hd (hnone _ d)
    | rootless h =>
      simp only [failure?, Option.some.injEq]
      constructor
      · rintro rfl
        exact .inr ⟨h, rfl⟩
      · rintro (⟨n, h'⟩ | ⟨-, rfl⟩)
        · obtain ⟨d, hd, -⟩ := h'.obstacle
          exact absurd hd (h n d)
        · rfl

open TypeAssignment (int32ArrayDescriptors)

/-- The scalar unfolds to its codec, and the array to the codec of arrays over it. -/
theorem unfolds_int32Array : Unfolds int32ArrayDescriptors 0 (.scalar .int32) ∧
    Unfolds int32ArrayDescriptors 1 (.array (.scalar .int32)) := by
  have hscalar : Unfolds int32ArrayDescriptors 0 (.scalar .int32) := .known ⟨rfl, rfl⟩ rfl
  have harray : IsEntry int32ArrayDescriptors 1 ⟨⟨0, 0xA1⟩, none, .array 0 [-1]⟩ := ⟨rfl, rfl⟩
  refine ⟨hscalar, .made (fun _ => .scalar .int32) harray rfl ⟨⟨_, harray, rfl⟩, ?_⟩ rfl ?_⟩
  · rintro m hm d ⟨hd, -⟩
    obtain rfl : m = 0 := by omega
    cases hd
    decide
  · intro p hp
    obtain rfl := List.mem_singleton.mp hp
    exact hscalar

/-- The codec of the array is built from the descriptors of its type and of the scalar. -/
theorem build_unfolds_int32Array :
    Descriptor.parse .v1 TypeAssignment.int32ArrayBytes = .ok int32ArrayDescriptors ∧
    Codec.wellKnown? ⟨0, 0xA1⟩ = none ∧
    value? (build .v1 ⟨0, 0xA1⟩ TypeAssignment.int32ArrayBytes .empty) = some (.array (.scalar .int32)) := by
  have hparse : Descriptor.parse .v1 TypeAssignment.int32ArrayBytes = .ok int32ArrayDescriptors := rfl
  have hroot : Codec.wellKnown? ⟨0, 0xA1⟩ = none := by decide
  obtain ⟨hvalue, -⟩ := build_unfolds hparse hroot
  obtain ⟨hscalar, harray⟩ := unfolds_int32Array
  refine ⟨hparse, hroot, (hvalue _).mpr ⟨fun n d hd => ?_, 1, ⟨⟨_, rfl, rfl⟩, fun m d hd => ?_⟩, harray⟩⟩
  · match n with
    | 0 => exact ⟨_, hscalar⟩
    | 1 => exact ⟨_, harray⟩
    | n + 2 => cases hd.1
  · have hlt : m < 2 := hd.lt
    omega

end CodecCache

end GelClient
