import GelClient.Proofs.Schema.SharedCache
import Mathlib.Data.List.ReduceOption

/-!
# How builds share codecs

A build goes along the descriptors that it was given and resolves each of them: `Step` lists all that can
become of one. From this it follows by one induction over the descriptors, wherever the build ends, that
`Resolves` relates the cache before it to the one behind it: no type loses its codec, a descriptor comes to
the codec of its type, and a codec that is new owns the very codecs that the types of its parts have.
Without identities the build is one of the cache of values.
-/

namespace GelClient

open Actions

/-- Where one function finds all of a list, one that finds what it finds does so too. -/
private theorem map_eq_map_some {α β : Type} {f g : α → Option β} {as : List α} {bs : List β}
    (h : as.map f = bs.map some) (hfg : ∀ a b, f a = some b → g a = some b) :
    as.map g = bs.map some := by
  rw [← h]
  refine List.map_congr_left fun a ha => ?_
  have hmem : f a ∈ bs.map some := h ▸ List.mem_map_of_mem ha
  obtain ⟨b, -, hb⟩ := List.mem_map.mp hmem
  rw [← hb]
  exact hfg a b hb.symm

namespace BuiltShared

variable {built : BuiltShared} {p : UInt16} {x : Codec}

/-- A codec without its identity is at a position if it is there with one. -/
theorem at?_codecs : built.codecs.at? p = .ok x ↔ ∃ c, built.at? p = some c ∧ c.codec = x := by
  unfold BuiltCodecs.at? at? codecs
  rw [List.getElem?_toArray, List.getElem?_map, Array.getElem?_toList]
  rcases built[p.toNat]? with _ | _ | c <;> simp

/-- One more codec is one more without its identity. -/
private theorem codecs_push (built : BuiltShared) (c : Option SharedCodec) :
    codecs (built.push c) = built.codecs.push (c.map SharedCodec.codec) := by
  rw [codecs, Array.toList_push, List.map_append, codecs, List.push_toArray]
  rfl

/-- Where codecs without identities are found, they are found with them. -/
theorem map_at?_of_codecs {ps : List UInt16} {codecs : List Codec}
    (h : ps.map built.codecs.at? = codecs.map .ok) :
    ps.map built.at? = (ps.filterMap built.at?).map some ∧
      codecs = (ps.filterMap built.at?).map SharedCodec.codec := by
  induction ps generalizing codecs with
  | nil =>
    rw [List.map_nil, eq_comm, List.map_eq_nil_iff] at h
    exact ⟨rfl, h⟩
  | cons p ps ih =>
    cases codecs with
    | nil => cases h
    | cons x codecs =>
      obtain ⟨hp, hps⟩ := List.cons.inj h
      obtain ⟨c, hc, rfl⟩ := at?_codecs.mp hp
      obtain ⟨hmap, hcodecs⟩ := ih hps
      rw [List.filterMap_cons_some hc, List.map_cons, List.map_cons, List.map_cons, hc, ← hmap, ← hcodecs]
      exact ⟨rfl, rfl⟩

end BuiltShared

namespace SharedCache

variable {cache cache' before : SharedCache} {ds : List Descriptor} {d : Descriptor} {c : SharedCodec}
  {built : BuiltShared} {p : UInt16}

/-- The codec that a cache has for a descriptor, if this makes one. -/
def ofDescriptor (cache : SharedCache) (d : Descriptor) : Option SharedCodec :=
  if d.kind.hasCodec then cache.get? d.id else none

/-- The codec that a cache has for the descriptor at a position. -/
def at? (cache : SharedCache) (ds : List Descriptor) (position : UInt16) : Option SharedCodec :=
  ds[position.toNat]?.bind cache.ofDescriptor

/-- The codec of a descriptor is joined to those that the cache has for the descriptors which this one
refers to: it is the codec of the one that a scalar derives from, or else was made for its type and owns
them. -/
def Joins (cache : SharedCache) (ds : List Descriptor) (d : Descriptor) (c : SharedCodec) : Prop :=
  match d.kind.shared? with
  | some position => cache.at? ds position = some c
  | none => c.type = d.id ∧ d.kind.references.map (cache.at? ds) = c.parts.map some ∧
      c.codec.parts = c.parts.map SharedCodec.codec

/-- What resolving descriptors makes of a cache. Every type keeps the codec that it had; each descriptor
that was resolved came to the codec that its type has now; and the codec of a type which had none is joined
to those of the descriptors that it was made from, and is a new one if it was made. -/
structure Resolves (before after : SharedCache) (ds : List Descriptor) (built : BuiltShared) : Prop where
  kept : before.KeptIn after
  built_eq : built.toList = (ds.take built.size).map after.ofDescriptor
  isSome : ∀ d ∈ ds.take built.size, d.kind.hasCodec = true → (after.get? d.id).isSome = true
  joins : ∀ id c, before.get? id = none → after.get? id = some c → ∃ d ∈ ds, d.id = id ∧
    after.Joins ds d c ∧ (d.kind.shared? = none → ∀ id', before.get? id' ≠ some c)

/-- A descriptor that has a codec has that of its type. -/
theorem ofDescriptor_eq_some :
    cache.ofDescriptor d = some c ↔ d.kind.hasCodec = true ∧ cache.get? d.id = some c := by
  unfold ofDescriptor
  split
  next hcodec => rw [hcodec, eq_self, true_and]
  next hcodec => exact ⟨nofun, fun h => absurd h.1 hcodec⟩

/-- The descriptor at a position keeps its codec. -/
theorem KeptIn.at? (h : cache.KeptIn cache') (hp : cache.at? ds p = some c) : cache'.at? ds p = some c := by
  unfold SharedCache.at? at hp ⊢
  obtain ⟨d, hd, hc⟩ := Option.bind_eq_some_iff.mp hp
  obtain ⟨hcodec, hget⟩ := ofDescriptor_eq_some.mp hc
  rw [hd, Option.bind_some]
  exact ofDescriptor_eq_some.mpr ⟨hcodec, h d.id c hget⟩

/-- A codec stays joined to the codecs that are kept. -/
theorem Joins.of_keptIn (hjoins : cache.Joins ds d c) (h : cache.KeptIn cache') :
    cache'.Joins ds d c := by
  unfold Joins at hjoins ⊢
  cases hd : d.kind.shared? with
  | some p =>
    rw [hd] at hjoins
    exact h.at? hjoins
  | none =>
    rw [hd] at hjoins
    obtain ⟨htype, hparts, hcodec⟩ := hjoins
    exact ⟨htype, map_eq_map_some hparts fun _ _ => h.at?, hcodec⟩

/-- What is at a position is what the cache has for the descriptor there. -/
theorem Resolves.at? (h : Resolves before cache ds built) (hp : built.at? p = some c) :
    cache.at? ds p = some c := by
  unfold BuiltShared.at? at hp
  rw [← Array.getElem?_toList, h.built_eq, List.getElem?_map, List.getElem?_take] at hp
  unfold SharedCache.at?
  split at hp
  next =>
    cases hd : ds[p.toNat]? with
    | none =>
      rw [hd] at hp
      cases hp
    | some d =>
      rw [hd] at hp
      exact hp
  next => cases hp

/-- One more descriptor is resolved to the codec that the cache has for it, and the codecs that are new are
joined. -/
theorem Resolves.push (h : Resolves before cache ds built) (hd : ds[built.size]? = some d)
    (hkept : cache.KeptIn cache') (hsome : d.kind.hasCodec = true → (cache'.get? d.id).isSome = true)
    (hjoins : ∀ id c, cache.get? id = none → cache'.get? id = some c → ∃ d ∈ ds, d.id = id ∧
      cache'.Joins ds d c ∧ (d.kind.shared? = none → ∀ id', before.get? id' ≠ some c)) :
    Resolves before cache' ds (built.push (cache'.ofDescriptor d)) := by
  have htake : ds.take (built.size + 1) = ds.take built.size ++ [d] := by
    rw [List.take_add_one, hd]
    rfl
  refine ⟨h.kept.trans hkept, ?_, ?_, ?_⟩
  · rw [Array.toList_push, Array.size_push, htake, List.map_append, h.built_eq]
    congr 1
    refine List.map_congr_left fun e he => ?_
    unfold ofDescriptor
    split
    next hcodec =>
      obtain ⟨c, hc⟩ := Option.isSome_iff_exists.mp (h.isSome e he hcodec)
      rw [hc, hkept _ _ hc]
    next => rfl
  · rw [Array.size_push, htake]
    intro e he hcodec
    obtain he | he := List.mem_append.mp he
    · obtain ⟨c, hc⟩ := Option.isSome_iff_exists.mp (h.isSome e he hcodec)
      rw [hkept _ _ hc]
      rfl
    · obtain rfl := List.mem_singleton.mp he
      exact hsome hcodec
  · intro id c hbefore hafter
    cases hid : cache.get? id with
    | none => exact hjoins id c hid hafter
    | some c' =>
      rw [hkept id c' hid] at hafter
      cases hafter
      obtain ⟨e, he, heid, hjoins, hnew⟩ := h.joins id c hbefore hid
      exact ⟨e, he, heid, hjoins.of_keptIn hkept, hnew⟩

/-- One more descriptor is resolved where every type keeps what it had. -/
theorem Resolves.push_of_eq (h : Resolves before cache ds built) (hd : ds[built.size]? = some d)
    (hsame : cache'.get? = cache.get?)
    (hsome : d.kind.hasCodec = true → (cache'.get? d.id).isSome = true) :
    Resolves before cache' ds (built.push (cache'.ofDescriptor d)) := by
  refine h.push hd (.of_eq hsame) hsome fun id c hid hid' => ?_
  rw [hsame, hid] at hid'
  cases hid'

/-- One more descriptor is resolved where its type gets a codec and the others keep what they had. -/
theorem Resolves.push_insert (h : Resolves before cache ds built) (hd : ds[built.size]? = some d)
    (hcodec : d.kind.hasCodec = true) (hget : cache.get? d.id = none)
    (hsame : cache'.get? = cache.get?) (hjoins : (cache'.insert d.id c).Joins ds d c)
    (hnew : d.kind.shared? = none → ∀ id, before.get? id ≠ some c) :
    Resolves before (cache'.insert d.id c) ds (built.push (some c)) := by
  have hself : (cache'.insert d.id c).get? d.id = some c := by rw [get?_insert, if_pos rfl]
  have hsome : ((cache'.insert d.id c).get? d.id).isSome = true := by rw [hself, Option.isSome_some]
  rw [← ofDescriptor_eq_some.mpr ⟨hcodec, hself⟩]
  refine h.push hd (keptIn_insert hget hsame c) (fun _ => hsome) fun id c' hid hid' => ?_
  rw [get?_insert] at hid'
  split at hid'
  next heq =>
    cases hid'
    exact ⟨d, List.mem_of_getElem? hd, heq.symm, hjoins, hnew⟩
  next =>
    rw [hsame, hid] at hid'
    cases hid'

end SharedCache

namespace Building

open SharedCache

/-- What becomes of a descriptor. It makes no codec; or its type has one; or the type has the codec of
another that it derives from; or a codec is made for it; or it cannot be made. -/
inductive Step (d : Descriptor) (s : Building) : EStateM.Result CodecError Building PUnit → Prop where
  | skipped : d.kind.hasCodec = false → Step d s (.ok ⟨⟩ s.skip)
  | known {c : SharedCodec} : d.kind.hasCodec = true → s.cache.get? d.id = some c →
      Step d s (.ok ⟨⟩ (s.push (s.cache.get d.id).2 c))
  | shared {p : UInt16} {c : SharedCodec} : d.kind.hasCodec = true → s.cache.get? d.id = none →
      d.kind.shared? = some p → s.built.at? p = some c →
      Step d s (.ok ⟨⟩ (s.push (s.cache.insert d.id c) c))
  | made {codec : Codec} : d.kind.hasCodec = true → s.cache.get? d.id = none →
      d.kind.shared? = none → s.built.codecs.construct d = .ok codec →
      Step d s (.ok ⟨⟩
        (let (c, cache) := s.cache.make d.id codec (d.kind.references.filterMap s.built.at?)
        s.push (cache.insert d.id c) c))
  | failed {e : CodecError} : d.kind.hasCodec = true → s.cache.get? d.id = none →
      s.built.codecs.construct d = .error e → Step d s (.error e s)

/-- One of these becomes of every descriptor. -/
theorem step_resolve (d : Descriptor) (s : Building) : Step d s (resolve d s) := by
  unfold resolve
  cases hcodec : d.kind.hasCodec with
  | false => exact .skipped hcodec
  | true =>
    rw [if_pos rfl]
    cases hget : s.cache.get? d.id with
    | some c =>
      rw [get_of_eq_some hget]
      exact .known hcodec hget
    | none =>
      rw [get_of_eq_none hget]
      dsimp only
      cases hconstruct : s.built.codecs.construct d with
      | error e => exact .failed hcodec hget hconstruct
      | ok codec =>
        dsimp only
        unfold share
        cases hshared : d.kind.shared? with
        | none => exact .made hcodec hget hshared hconstruct
        | some p =>
          rw [BuiltCodecs.construct_of_shared? hshared] at hconstruct
          obtain ⟨c, hc, -⟩ := BuiltShared.at?_codecs.mp hconstruct
          rw [Option.bind_some, hc]
          exact .shared hcodec hget hshared hc

/-- What the descriptors of a build have made of the cache so far. -/
structure Proceeds (before : SharedCache) (ds : List Descriptor) (s : Building) : Prop where
  resolves : Resolves before s.cache ds s.built
  numbered : s.cache.Numbered
  erases : s.cache.Erases
  root_eq : s.root = s.built.toList.reduceOption.getLast?
  bindings_eq : s.cache.bindings = before.bindings

variable {before cache : SharedCache} {ds rest : List Descriptor} {d : Descriptor} {s t : Building}
  {r : EStateM.Result CodecError Building PUnit}

/-- The last codec is that of the descriptor that was resolved last. -/
theorem root_push (s : Building) (cache : SharedCache) (c : SharedCodec) :
    (s.push cache c).root = (s.push cache c).built.toList.reduceOption.getLast? := by
  rw [push, Array.toList_push, List.reduceOption_append, List.reduceOption_singleton, Option.toList_some,
    List.getLast?_concat]

/-- A descriptor that makes no codec is passed over. -/
theorem Proceeds.skip (h : Proceeds before ds s) (hd : ds[s.built.size]? = some d)
    (hcodec : d.kind.hasCodec = false) : Proceeds before ds s.skip := by
  have hnone : s.cache.ofDescriptor d = none := by rw [ofDescriptor, hcodec, if_neg Bool.false_ne_true]
  refine ⟨?_, h.numbered, h.erases, ?_, h.bindings_eq⟩
  · change Resolves before s.cache ds (s.built.push none)
    rw [← hnone]
    refine h.resolves.push_of_eq hd rfl fun hcodec' => ?_
    rw [hcodec] at hcodec'
    cases hcodec'
  · change s.root = (s.built.push none).toList.reduceOption.getLast?
    rw [Array.toList_push, List.reduceOption_append, List.reduceOption_singleton, Option.toList_none,
      List.append_nil]
    exact h.root_eq

/-- A descriptor whose type has a codec comes to this one. -/
theorem Proceeds.known (h : Proceeds before ds s) (hd : ds[s.built.size]? = some d)
    (hcodec : d.kind.hasCodec = true) {c : SharedCodec} (hget : s.cache.get? d.id = some c) :
    Proceeds before ds (s.push (s.cache.get d.id).2 c) := by
  have halike := s.cache.alike_get d.id
  have hgot : (s.cache.get d.id).2.get? d.id = some c := by rw [halike.get?_eq, hget]
  refine ⟨?_, h.numbered.of_alike halike, h.erases.get d.id, root_push ..,
    halike.bindings_eq.trans h.bindings_eq⟩
  change Resolves before (s.cache.get d.id).2 ds (s.built.push (some c))
  rw [← ofDescriptor_eq_some.mpr ⟨hcodec, hgot⟩]
  exact h.resolves.push_of_eq hd halike.get?_eq fun _ => by rw [hgot, Option.isSome_some]

/-- A scalar that derives from another comes to the codec of this one. -/
theorem Proceeds.shared (h : Proceeds before ds s) (hd : ds[s.built.size]? = some d)
    (hcodec : d.kind.hasCodec = true) (hget : s.cache.get? d.id = none) {p : UInt16} {c : SharedCodec}
    (hshared : d.kind.shared? = some p) (hp : s.built.at? p = some c) :
    Proceeds before ds (s.push (s.cache.insert d.id c) c) := by
  have hat := h.resolves.at? hp
  obtain ⟨e, -, hc⟩ := Option.bind_eq_some_iff.mp hat
  obtain ⟨-, hid⟩ := ofDescriptor_eq_some.mp hc
  refine ⟨h.resolves.push_insert hd hcodec hget rfl ?_ ?_, h.numbered.insert hid d.id,
    h.erases.insert d.id c, root_push .., h.bindings_eq⟩
  · unfold Joins
    rw [hshared]
    exact (keptIn_insert hget rfl c).at? hat
  · intro hnone
    rw [hshared] at hnone
    cases hnone

/-- Any other descriptor comes to a new codec that owns those at the positions which it refers to. -/
theorem Proceeds.made (h : Proceeds before ds s) (hd : ds[s.built.size]? = some d)
    (hcodec : d.kind.hasCodec = true) (hget : s.cache.get? d.id = none)
    (hshared : d.kind.shared? = none) {codec : Codec} (hconstruct : s.built.codecs.construct d = .ok codec) :
    let (c, cache) := s.cache.make d.id codec (d.kind.references.filterMap s.built.at?)
    Proceeds before ds (s.push (cache.insert d.id c) c) := by
  -- The type is no scalar, since every cache has these, so that making a codec changes what no type has.
  have hscalar := ofId?_of_get? hget
  have hsame := get?_make s.cache hscalar codec (d.kind.references.filterMap s.built.at?)
  have herases := h.erases.make hscalar codec (d.kind.references.filterMap s.built.at?)
  obtain ⟨hparts, hcodecs⟩ :=
    BuiltShared.map_at?_of_codecs (BuiltCodecs.map_at?_of_construct hshared hconstruct)
  refine ⟨h.resolves.push_insert hd hcodec hget hsame ?_ ?_, h.numbered.insert_make hscalar _ _,
    herases.insert _ _, root_push .., h.bindings_eq⟩
  · unfold Joins
    rw [hshared]
    refine ⟨rfl, map_eq_map_some hparts fun p part hp => ?_, hcodecs⟩
    exact (keptIn_insert hget hsame _).at? (h.resolves.at? hp)
  · intro _ id hid
    exact h.numbered.make_ne hscalar _ _ id (h.resolves.kept id _ hid)

/-- The build goes on with every descriptor. -/
theorem Proceeds.step (h : Proceeds before ds s) (hd : ds[s.built.size]? = some d) (hstep : Step d s r) :
    Proceeds before ds (final r) := by
  cases hstep with
  | skipped hcodec => exact h.skip hd hcodec
  | known hcodec hget => exact h.known hd hcodec hget
  | shared hcodec hget hshared hp => exact h.shared hd hcodec hget hshared hp
  | made hcodec hget hshared hconstruct => exact h.made hd hcodec hget hshared hconstruct
  | failed => exact h

/-- A build starts with what the cache has. -/
theorem Proceeds.start (hnumbered : cache.Numbered) (herases : cache.Erases) (ds : List Descriptor) :
    Proceeds cache ds { cache } where
  resolves := {
    kept := .of_eq rfl
    built_eq := rfl
    isSome := nofun
    joins := fun id c hid hid' => by
      rw [hid] at hid'
      cases hid' }
  numbered := hnumbered
  erases := herases
  root_eq := rfl
  bindings_eq := rfl

/-- A descriptor that does not end a build takes the next position. -/
theorem Step.size_eq {u : PUnit} (h : Step d s (.ok u t)) : t.built.size = s.built.size + 1 := by
  cases h <;> exact Array.size_push _

/-- The first of the descriptors that are left is the one behind those that were resolved. -/
private theorem getElem?_of_drop {n : Nat} (h : ds.drop n = d :: rest) :
    ds[n]? = some d ∧ ds.drop (n + 1) = rest := by
  rw [← List.head?_drop, ← List.tail_drop, h]
  exact ⟨rfl, rfl⟩

/-- The descriptors that are left go on with the build, wherever it ends; if it does not end early, all of
them were resolved. -/
theorem Proceeds.resolveAll (h : Proceeds before ds s) (hrest : ds.drop s.built.size = rest) :
    Proceeds before ds (final (resolveAll rest s)) ∧
      ∀ u t, Building.resolveAll rest s = .ok u t → t.built.size = s.built.size + rest.length := by
  induction rest generalizing s with
  | nil =>
    refine ⟨h, fun u t ht => ?_⟩
    cases ht
    rfl
  | cons d rest ih =>
    obtain ⟨hd, hrest⟩ := getElem?_of_drop hrest
    have hstep := step_resolve d s
    have hfirst := h.step hd hstep
    rw [Building.resolveAll]
    cases hr : resolve d s with
    | error e t =>
      rw [hr] at hfirst
      rw [bind_of_error hr]
      exact ⟨hfirst, nofun⟩
    | ok u t =>
      rw [hr] at hfirst hstep
      rw [bind_of_ok hr]
      have hsize := hstep.size_eq
      rw [← hsize] at hrest
      obtain ⟨hlast, hlength⟩ := ih (s := t) hfirst hrest
      refine ⟨hlast, fun u t' ht' => ?_⟩
      rw [hlength u t' ht', hsize, List.length_cons]
      omega

/-- Without identities the same codec becomes of a descriptor. -/
theorem Step.erase_ok {u : PUnit} (h : Step d s (.ok u t)) (herases : s.cache.Erases)
    (hcodec : d.kind.hasCodec = true) :
    ∃ c, CodecCache.resolve s.built.codecs d s.cache.erase = .ok c.codec t.cache.erase ∧
      t.built = s.built.push (some c) ∧ t.root = some c := by
  rw [CodecCache.resolve_apply, herases]
  cases h with
  | skipped hskip =>
    rw [hskip] at hcodec
    cases hcodec
  | @known c _ hget =>
    refine ⟨c, ?_, rfl, rfl⟩
    rw [hget]
    change _ = EStateM.Result.ok c.codec (s.cache.get d.id).2.erase
    rw [erase_get]
    rfl
  | @shared p c _ hget hshared hp =>
    refine ⟨c, ?_, rfl, rfl⟩
    rw [hget, BuiltCodecs.construct_of_shared? hshared, BuiltShared.at?_codecs.mpr ⟨c, hp, rfl⟩]
    rfl
  | made _ hget _ hconstruct =>
    refine ⟨_, ?_, rfl, rfl⟩
    rw [hget, hconstruct]
    rfl

/-- Without identities a descriptor fails as well. -/
theorem Step.erase_error {e : CodecError} (h : Step d s (.error e t)) (herases : s.cache.Erases) :
    CodecCache.resolve s.built.codecs d s.cache.erase = .error e t.cache.erase := by
  rw [CodecCache.resolve_apply, herases]
  cases h with
  | failed _ hget hconstruct =>
    rw [hget, hconstruct]
    rfl

/-- Without identities a build makes the same of descriptors. -/
theorem Proceeds.erase_resolveAll (h : Proceeds before ds s) (hrest : ds.drop s.built.size = rest) :
    CodecCache.buildAll s.built.codecs (s.root.map SharedCodec.codec) rest s.cache.erase =
      match Building.resolveAll rest s with
      | .ok _ t => .ok (t.root.map SharedCodec.codec) t.cache.erase
      | .error e t => .error e t.cache.erase := by
  induction rest generalizing s with
  | nil => rfl
  | cons d rest ih =>
    obtain ⟨hd, hrest⟩ := getElem?_of_drop hrest
    have hstep := step_resolve d s
    have hfirst := h.step hd hstep
    rw [Building.resolveAll, CodecCache.buildAll]
    cases hcodec : d.kind.hasCodec with
    | true =>
      rw [if_pos rfl]
      cases hr : resolve d s with
      | error e t =>
        rw [hr] at hstep
        rw [bind_of_error hr, bind_of_error (hstep.erase_error h.erases)]
      | ok u t =>
        rw [hr] at hfirst hstep
        obtain ⟨c, hc, hbuilt, hroot⟩ := hstep.erase_ok h.erases hcodec
        rw [← hstep.size_eq] at hrest
        have hlast := ih (s := t) hfirst hrest
        rw [hbuilt, hroot] at hlast
        rw [bind_of_ok hr, bind_of_ok hc]
        rw [BuiltShared.codecs_push] at hlast
        exact hlast
    | false =>
      have hr : resolve d s = .ok ⟨⟩ s.skip := by rw [resolve, hcodec, if_neg Bool.false_ne_true]
      rw [hr] at hfirst hstep
      rw [← hstep.size_eq] at hrest
      have hlast := ih (s := s.skip) hfirst hrest
      rw [Building.skip, BuiltShared.codecs_push] at hlast
      rw [if_neg Bool.false_ne_true, bind_of_ok hr]
      exact hlast

end Building

namespace SharedCache

variable {cache : SharedCache} {b : BuildRequest} {c : SharedCodec} {ds : List Descriptor}

/-- A build of a type that has a codec gives it. -/
theorem build_of_get? (h : cache.get? b.rootId = some c) :
    cache.build b = (.ok c, (cache.get b.rootId).2) := by
  rw [build, get_of_eq_some h]

/-- A build of a type that has none reads the descriptors and resolves them all. -/
theorem build_of_get?_eq_none (h : cache.get? b.rootId = none) :
    cache.build b = match Descriptor.parse b.version b.descriptors with
      | .error e => (.error e, cache)
      | .ok ds =>
        match Building.resolveAll ds { cache } with
        | .error e s => (.error e, s.cache)
        | .ok _ s => (s.root.elim (.error (.malformedDescriptor .noRoot)) .ok, s.cache) := by
  unfold build
  generalize hgot : cache.get b.rootId = got
  obtain rfl : got = (none, cache) := hgot.symm.trans (get_of_eq_none h)
  rfl

/-- The cache behind a build is the one that its descriptors lead to. -/
theorem build_snd (h : cache.get? b.rootId = none)
    (hparse : Descriptor.parse b.version b.descriptors = .ok ds) :
    (cache.build b).2 = (final (Building.resolveAll ds { cache })).cache := by
  rw [build_of_get?_eq_none h, hparse]
  dsimp only
  cases Building.resolveAll ds { cache } <;> rfl

/-- Without identities a build is one of the cache of values. -/
theorem erase_build (hnumbered : cache.Numbered) (herases : cache.Erases) (b : BuildRequest) :
    b.run cache.erase = match (cache.build b).1 with
      | .ok c => .ok c.codec (cache.build b).2.erase
      | .error e => .error e (cache.build b).2.erase := by
  cases hroot : cache.get? b.rootId with
  | some c =>
    have hget : cache.erase.get? b.rootId = some c.codec := by rw [herases, hroot, Option.map_some]
    rw [TypeAssignment.run_of_get?_eq_some hget, build_of_get? hroot, erase_get]
  | none =>
    have hget : cache.erase.get? b.rootId = none := by rw [herases, hroot, Option.map_none]
    rw [TypeAssignment.run_of_get?_eq_none hget, build_of_get?_eq_none hroot]
    cases Descriptor.parse b.version b.descriptors with
    | error e => rfl
    | ok ds =>
      have hall := (Building.Proceeds.start hnumbered herases ds).erase_resolveAll (List.drop_zero (l := ds))
      change CodecCache.buildAll #[] none ds cache.erase = _ at hall
      dsimp only
      rw [hall]
      cases Building.resolveAll ds { cache } with
      | error e s => rfl
      | ok u s => cases hs : s.root <;> simp [hs]

end SharedCache

end GelClient
