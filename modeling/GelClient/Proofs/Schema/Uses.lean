import GelClient.Proofs.Schema.Sharing

/-!
# The uses of a shared cache

Three things are shown of every use of a shared cache, each from the same property of the steps that the
use takes. A cache stays `Sound`, and every type keeps its codec. Without identities, the use gets the
answer that the cache of values gives, although this one binds a target anew each time. And caches that are
`Alike` give the same answer and stay alike: a codec that was asked for, or a build that was tried in vain,
leaves nothing behind that could be seen later.
-/

namespace GelClient

open Actions

namespace SharedCache

variable {cache cache' : SharedCache} {id : Uuid} {c : SharedCodec} {b : BuildRequest}
  {ds : List Descriptor}

/-! ### What holds of every cache -/

/-- A cache numbers its codecs, does not depend on identities, and binds targets to the codecs of their
types. -/
structure Sound (cache : SharedCache) : Prop where
  numbered : cache.Numbered
  erases : cache.Erases
  binding_eq {id : Uuid} {target : ObjectTarget} {b : SharedBinding} :
    cache.bindings.lookup (id, target) = some b →
      cache.get? id = some b.codec ∧ BoundObject.bind target b.codec.codec = .ok b.bound

/-- What a type has does not depend on queries and bindings. -/
theorem get?_of_codecs (hcodecs : cache'.codecs = cache.codecs) (hscalars : cache'.scalars = cache.scalars)
    (hmade : cache'.made = cache.made) : cache'.get? = cache.get? :=
  get?_congr hcodecs fun s => by rw [scalar_fst, scalar_fst, hscalars, hmade]

/-- What a type has does not depend on queries. -/
theorem get?_withQueries (cache : SharedCache) (queries : List (UInt64 × QueryTypes)) :
    { cache with queries }.get? = cache.get? :=
  get?_of_codecs rfl rfl rfl

/-- What a type has does not depend on bindings. -/
theorem get?_withBindings (cache : SharedCache)
    (bindings : List ((Uuid × ObjectTarget) × SharedBinding)) :
    { cache with bindings }.get? = cache.get? :=
  get?_of_codecs rfl rfl rfl

/-- In an empty cache the type without data has its codec and every scalar would be made. -/
theorem get?_empty (id : Uuid) : empty.get? id =
    if id = .nil then some ⟨.nil, 0, .null, []⟩
    else (Scalar.ofId? id).map fun s => ⟨s.id, [Uuid.nil].count s.id, .scalar s, []⟩ := by
  rw [get?_eq, empty, List.lookup_cons]
  by_cases h : id = .nil
  · rw [if_pos h, h, BEq.rfl]
    rfl
  · rw [if_neg h, beq_eq_false_iff_ne.mpr h]
    rfl

/-- An empty cache is sound. -/
theorem sound_empty : empty.Sound where
  numbered id c hc htype := by
    rw [get?_empty] at hc
    split at hc
    · cases hc
      exact Nat.zero_lt_one
    · obtain ⟨s, -, rfl⟩ := Option.map_eq_some_iff.mp hc
      rw [Scalar.ofId?_id] at htype
      cases htype
  erases id := by
    rw [get?_empty, CodecCache.get?]
    by_cases h : id = .nil
    · rw [if_pos h, h]
      rfl
    · have hlookup : empty.erase.codecs.lookup id = none := by
        change [(Uuid.nil, Codec.null)].lookup id = none
        rw [List.lookup_cons, beq_eq_false_iff_ne.mpr h]
        rfl
      rw [if_neg h, hlookup, Option.none_or, Option.map_map]
      rfl
  binding_eq := nofun

/-- A cache is sound after a codec was asked for. -/
theorem Sound.get (h : cache.Sound) (id : Uuid) : (cache.get id).2.Sound := by
  have halike := cache.alike_get id
  refine ⟨h.numbered.of_alike halike, h.erases.get id, fun hb => ?_⟩
  rw [halike.bindings_eq] at hb
  rw [halike.get?_eq]
  exact h.binding_eq hb

/-- A cache is sound with other queries. -/
theorem Sound.withQueries (h : cache.Sound) (queries : List (UInt64 × QueryTypes)) :
    { cache with queries }.Sound := by
  have hget := get?_withQueries cache queries
  refine ⟨fun id c hc => ?_, fun id => ?_, fun hb => ?_⟩
  · rw [hget] at hc
    exact h.numbered id c hc
  · rw [hget]
    exact h.erases id
  · rw [hget]
    exact h.binding_eq hb

/-- A cache is sound with a target bound to the codec of a type. -/
theorem Sound.withBinding (h : cache.Sound) {target : ObjectTarget} {b : SharedBinding}
    (hget : cache.get? id = some b.codec) (hbound : BoundObject.bind target b.codec.codec = .ok b.bound) :
    { cache with bindings := ((id, target), b) :: cache.bindings }.Sound := by
  have hsame := get?_withBindings cache (((id, target), b) :: cache.bindings)
  refine ⟨fun id c hc => ?_, fun id => ?_, fun {id' target' b'} hb' => ?_⟩
  · rw [hsame] at hc
    exact h.numbered id c hc
  · rw [hsame]
    exact h.erases id
  · rw [hsame]
    rw [List.lookup_cons] at hb'
    split at hb'
    next heq =>
      cases eq_of_beq heq
      cases hb'
      exact ⟨hget, hbound⟩
    next => exact h.binding_eq hb'

/-- Wherever a build of descriptors ends, it has gone on from the cache; if it does not end early, all of
them were resolved. -/
theorem Sound.resolveAll (h : cache.Sound) (ds : List Descriptor) :
    Building.Proceeds cache ds (final (Building.resolveAll ds { cache })) ∧
      ∀ u t, Building.resolveAll ds { cache } = .ok u t → t.built.size = ds.length := by
  obtain ⟨hlast, hsize⟩ :=
    (Building.Proceeds.start h.numbered h.erases ds).resolveAll (List.drop_zero (l := ds))
  refine ⟨hlast, fun u t ht => ?_⟩
  rw [hsize u t ht]
  exact Nat.zero_add _

/-- Whatever becomes of a build, the cache is sound and every type keeps its codec. -/
theorem Sound.build (h : cache.Sound) (b : BuildRequest) :
    (cache.build b).2.Sound ∧ cache.KeptIn (cache.build b).2 := by
  cases hroot : cache.get? b.rootId with
  | some c =>
    rw [build_of_get? hroot]
    exact ⟨h.get b.rootId, .of_eq (cache.alike_get b.rootId).get?_eq⟩
  | none =>
    cases hparse : Descriptor.parse b.version b.descriptors with
    | error e =>
      rw [build_of_get?_eq_none hroot, hparse]
      exact ⟨h, .of_eq rfl⟩
    | ok ds =>
      rw [build_snd hroot hparse]
      obtain ⟨hlast, -⟩ := h.resolveAll ds
      refine ⟨⟨hlast.numbered, hlast.erases, fun hb => ?_⟩, hlast.resolves.kept⟩
      rw [hlast.bindings_eq] at hb
      obtain ⟨hget, hbound⟩ := h.binding_eq hb
      exact ⟨hlast.resolves.kept _ _ hget, hbound⟩

/-- A target that is not bound to a type yet is bound to the codec of the type. -/
theorem bind_of_lookup {target : ObjectTarget} (h : cache.bindings.lookup (id, target) = none) :
    cache.bind target id = match cache.get? id with
      | none => (.error (.missingCodec id), cache)
      | some c => match BoundObject.bind target c.codec with
        | .error e => (.error e, (cache.get id).2)
        | .ok bound => (.ok ⟨c, bound⟩,
            { (cache.get id).2 with
              bindings := ((id, target), ⟨c, bound⟩) :: (cache.get id).2.bindings }) := by
  rw [SharedCache.bind, h, SharedCache.get?]
  rcases hget : cache.get id with ⟨_ | c, asked⟩
  · obtain rfl : cache = asked :=
      congrArg Prod.snd ((get_of_eq_none (congrArg Prod.fst hget)).symm.trans hget)
    rfl
  · rfl

/-- Whatever becomes of a binding, the cache is sound and every type keeps its codec. -/
theorem Sound.bind (h : cache.Sound) (target : ObjectTarget) (id : Uuid) :
    (cache.bind target id).2.Sound ∧ cache.KeptIn (cache.bind target id).2 := by
  have halike := cache.alike_get id
  cases hb : cache.bindings.lookup (id, target) with
  | some b =>
    rw [SharedCache.bind, hb]
    exact ⟨h, .of_eq rfl⟩
  | none =>
    rw [bind_of_lookup hb]
    cases hget : cache.get? id with
    | none => exact ⟨h, .of_eq rfl⟩
    | some c =>
      dsimp only
      cases hbound : BoundObject.bind target c.codec with
      | error e => exact ⟨h.get id, .of_eq halike.get?_eq⟩
      | ok bound =>
        rw [← halike.get?_eq] at hget
        exact ⟨(h.get id).withBinding (b := ⟨c, bound⟩) hget hbound,
          .of_eq ((get?_withBindings ..).trans halike.get?_eq)⟩

/-- A query that is looked up asks for both of its codecs, and is dropped if there is none for one. -/
theorem query?_eq (cache : SharedCache) (key : UInt64) : cache.query? key =
    match cache.queries.lookup key with
    | none => (none, cache)
    | some types =>
      let asked := ((cache.get types.inputId).2.get types.outputId).2
      match cache.get? types.inputId, cache.get? types.outputId with
      | some input, some output => (some (types, input, output), asked)
      | _, _ => (none, { asked with queries := asked.queries.filter (·.1 != key) }) := by
  rw [query?]
  cases cache.queries.lookup key with
  | none => rfl
  | some types =>
    have houtput : (cache.get types.inputId).2.get? types.outputId = cache.get? types.outputId := by
      rw [(cache.alike_get types.inputId).get?_eq]
    dsimp only
    rw [← houtput]
    rfl

/-- Whatever comes of looking up a query, the cache is sound and every type keeps its codec. -/
theorem Sound.query? (h : cache.Sound) (key : UInt64) :
    (cache.query? key).2.Sound ∧ cache.KeptIn (cache.query? key).2 := by
  rw [query?_eq]
  cases cache.queries.lookup key with
  | none => exact ⟨h, .of_eq rfl⟩
  | some types =>
    have halike := (cache.alike_get types.inputId).trans (SharedCache.alike_get _ types.outputId)
    have hsound := (h.get types.inputId).get types.outputId
    dsimp only
    split
    · exact ⟨hsound, .of_eq halike.get?_eq⟩
    · exact ⟨hsound.withQueries _, .of_eq ((get?_withQueries ..).trans halike.get?_eq)⟩

/-- After every use a cache is sound, and every type keeps its codec. -/
theorem Sound.use (h : cache.Sound) (u : RegistryUse) :
    (cache.use u).2.Sound ∧ cache.KeptIn (cache.use u).2 := by
  cases u with
  | build b => exact h.build b
  | get version id => exact ⟨h.get id, .of_eq (cache.alike_get id).get?_eq⟩
  | bind version target id => exact h.bind target id
  | record version key types => exact ⟨h.withQueries _, .of_eq (get?_withQueries ..)⟩
  | lookup version key => exact h.query? key

end SharedCache

/-- What a cache of values answers to a use in its version, and the cache afterwards. -/
def CodecCache.use (cache : CodecCache) : RegistryUse → RegistryAnswer Codec BoundObject × CodecCache
  | .build b =>
    match b.run cache with
    | .ok c cache => (.built (.ok c), cache)
    | .error e cache => (.built (.error e), cache)
  | .get _ id => (.found (cache.get? id), cache)
  | .bind _ target id => (.bound (cache.bind target id), cache)
  | .record _ key types => (.recorded, cache.updateQuery key types)
  | .lookup _ key =>
    let (query, cache) := cache.query? key
    (.prepared (query.map fun p => (p.types, p.input, p.output)), cache)

namespace SharedCache

variable {cache cache' : SharedCache} {id : Uuid}

/-! ### Without identities -/

/-- A binding that was kept is the one that would be made now. -/
theorem Sound.erase_bind (h : cache.Sound) (target : ObjectTarget) (id : Uuid) :
    cache.erase.bind target id = (cache.bind target id).1.map SharedBinding.bound ∧
      (cache.bind target id).2.erase = cache.erase := by
  have hvalue : cache.erase.bind target id = match cache.get? id with
      | none => .error (.missingCodec id)
      | some c => BoundObject.bind target c.codec := by
    rw [CodecCache.bind, CodecCache.find, h.erases]
    cases cache.get? id <;> rfl
  rw [hvalue]
  cases hb : cache.bindings.lookup (id, target) with
  | some b =>
    obtain ⟨hget, hbound⟩ := h.binding_eq hb
    rw [SharedCache.bind, hb, hget]
    exact ⟨hbound, rfl⟩
  | none =>
    rw [bind_of_lookup hb]
    cases hget : cache.get? id with
    | none => exact ⟨rfl, rfl⟩
    | some c =>
      dsimp only
      cases BoundObject.bind target c.codec with
      | error e => exact ⟨rfl, cache.erase_get id⟩
      | ok bound => exact ⟨rfl, cache.erase_get id⟩

/-- A query is found with the codecs that it has without identities. -/
theorem Sound.erase_query? (h : cache.Sound) (key : UInt64) :
    cache.erase.query? key = ((cache.query? key).1.map fun q =>
      ⟨q.1.inputId, q.2.1.codec, q.1.outputId, q.2.2.codec, q.1.cardinality, q.1.capabilities⟩,
      (cache.query? key).2.erase) := by
  have hqueries : cache.erase.queries = cache.queries := rfl
  rw [CodecCache.query?, query?_eq, hqueries]
  cases cache.queries.lookup key with
  | none => rfl
  | some types =>
    have herase : ((cache.get types.inputId).2.get types.outputId).2.erase = cache.erase := by
      rw [erase_get, erase_get]
    have hdropped : { ((cache.get types.inputId).2.get types.outputId).2 with
        queries := ((cache.get types.inputId).2.get types.outputId).2.queries.filter (·.1 != key) }.erase =
          { cache.erase with queries := cache.queries.filter (·.1 != key) } := by
      rw [← hqueries, ← herase]
      rfl
    dsimp only
    rw [h.erases, h.erases]
    cases cache.get? types.inputId with
    | none =>
      dsimp only [Option.map_none]
      rw [hdropped]
    | some input =>
      cases cache.get? types.outputId with
      | none =>
        dsimp only [Option.map_none, Option.map_some]
        rw [hdropped]
      | some output =>
        dsimp only [Option.map_some]
        rw [herase]

/-- Without identities every use gets the answer that the cache of values gives, and leaves the cache as
this is left. -/
theorem Sound.erase_use (h : cache.Sound) (u : RegistryUse) :
    cache.erase.use u = ((cache.use u).1.erase, (cache.use u).2.erase) := by
  cases u with
  | build b =>
    rw [CodecCache.use, erase_build h.numbered h.erases, SharedCache.use]
    rcases cache.build b with ⟨_ | _, cache'⟩ <;> rfl
  | get version id =>
    rw [CodecCache.use, h.erases, SharedCache.use]
    exact Prod.ext rfl (cache.erase_get id).symm
  | bind version target id =>
    obtain ⟨hresult, hcache⟩ := h.erase_bind target id
    rw [CodecCache.use, hresult, SharedCache.use]
    exact Prod.ext rfl hcache.symm
  | record version key types => rfl
  | lookup version key =>
    rw [CodecCache.use, h.erase_query?, SharedCache.use]
    refine Prod.ext ?_ rfl
    dsimp only [RegistryAnswer.map]
    rw [Option.map_map]
    rfl

/-! ### Caches that cannot be told apart -/

/-- Caches that cannot be told apart cannot be told apart after a codec was asked for. -/
theorem Alike.get (h : cache.Alike cache') (id : Uuid) : (cache.get id).2.Alike (cache'.get id).2 :=
  ((alike_get cache id).symm.trans h).trans (alike_get cache' id)

/-- Caches that cannot be told apart cannot be told apart with a codec for a type. -/
theorem Alike.insert (h : cache.Alike cache') (id : Uuid) (c : SharedCodec) :
    (cache.insert id c).Alike (cache'.insert id c) where
  get?_eq := by
    funext id'
    rw [get?_insert, get?_insert, h.get?_eq]
  queries_eq := h.queries_eq
  bindings_eq := h.bindings_eq
  count_eq := h.count_eq

/-- Caches that cannot be told apart cannot be told apart with other queries. -/
theorem Alike.withQueries (h : cache.Alike cache') (queries : List (UInt64 × QueryTypes)) :
    { cache with queries }.Alike { cache' with queries } where
  get?_eq := ((get?_withQueries ..).trans h.get?_eq).trans (get?_withQueries ..).symm
  queries_eq := rfl
  bindings_eq := h.bindings_eq
  count_eq := h.count_eq

/-- Caches that cannot be told apart cannot be told apart with other bindings. -/
theorem Alike.withBindings (h : cache.Alike cache')
    (bindings : List ((Uuid × ObjectTarget) × SharedBinding)) :
    { cache with bindings }.Alike { cache' with bindings } where
  get?_eq := ((get?_withBindings ..).trans h.get?_eq).trans (get?_withBindings ..).symm
  queries_eq := h.queries_eq
  bindings_eq := rfl
  count_eq := h.count_eq

/-- Caches that cannot be told apart have the same codec for a descriptor of a type that is no scalar. -/
theorem Alike.share (h : cache.Alike cache') {d : Descriptor} (hid : Scalar.ofId? d.id = none)
    (built : BuiltShared) (codec : Codec) :
    (cache'.share built d codec).1 = (cache.share built d codec).1 ∧
      (cache.share built d codec).2.Alike (cache'.share built d codec).2 := by
  unfold SharedCache.share
  cases d.kind.shared?.bind built.at? with
  | some c => exact ⟨rfl, h⟩
  | none =>
    dsimp only
    refine ⟨?_, ?_, h.queries_eq, h.bindings_eq, fun id hid' => ?_⟩
    · rw [make, make, h.count_eq d.id hid]
    · rw [get?_make _ hid, get?_make _ hid, h.get?_eq]
    · rw [make, make, List.count_cons, List.count_cons, h.count_eq id hid']

end SharedCache

namespace Building

open SharedCache

/-- Two builds cannot be told apart: their caches cannot be told apart, and they have the same codecs. -/
structure Alike (s t : Building) : Prop where
  cache : s.cache.Alike t.cache
  built_eq : t.built = s.built
  root_eq : t.root = s.root

/-- The codec of a descriptor is the same in builds that cannot be told apart. -/
theorem Alike.resolve {s t : Building} (h : s.Alike t) (d : Descriptor) :
    Similar Alike (resolve d s) (resolve d t) := by
  unfold Building.resolve
  split
  · cases hget : s.cache.get? d.id with
    | some c =>
      have hget' : t.cache.get? d.id = some c := by rw [h.cache.get?_eq, hget]
      rw [get_of_eq_some hget, get_of_eq_some hget']
      exact .ok ⟨h.cache.get d.id, by rw [push, push, h.built_eq], rfl⟩
    | none =>
      have hget' : t.cache.get? d.id = none := by rw [h.cache.get?_eq, hget]
      rw [get_of_eq_none hget, get_of_eq_none hget', h.built_eq]
      dsimp only
      cases s.built.codecs.construct d with
      | error e => exact .error ⟨h.cache, rfl, h.root_eq⟩
      | ok codec =>
        obtain ⟨hsame, hcache⟩ := h.cache.share (ofId?_of_get? hget) s.built codec
        dsimp only
        rw [hsame]
        exact .ok ⟨hcache.insert .., by rw [push, push, h.built_eq], rfl⟩
  · exact .ok ⟨h.cache, by rw [skip, skip, h.built_eq], h.root_eq⟩

/-- The codecs of descriptors are the same in builds that cannot be told apart. -/
theorem Alike.resolveAll {s t : Building} (h : s.Alike t) (ds : List Descriptor) :
    Similar Alike (resolveAll ds s) (resolveAll ds t) := by
  induction ds generalizing s t with
  | nil => exact .ok h
  | cons d ds ih => exact (h.resolve d).bind fun _ _ _ hnext => ih hnext

end Building

namespace SharedCache

variable {cache cache' : SharedCache}

/-- Caches that cannot be told apart answer a build in the same way, and cannot be told apart behind it. -/
theorem Alike.build (h : cache.Alike cache') (b : BuildRequest) :
    (cache'.build b).1 = (cache.build b).1 ∧ (cache.build b).2.Alike (cache'.build b).2 := by
  cases hroot : cache.get? b.rootId with
  | some c =>
    have hroot' : cache'.get? b.rootId = some c := by rw [h.get?_eq, hroot]
    rw [build_of_get? hroot, build_of_get? hroot']
    exact ⟨rfl, ((alike_get cache b.rootId).symm.trans h).trans (alike_get cache' b.rootId)⟩
  | none =>
    have hroot' : cache'.get? b.rootId = none := by rw [h.get?_eq, hroot]
    rw [build_of_get?_eq_none hroot, build_of_get?_eq_none hroot']
    cases Descriptor.parse b.version b.descriptors with
    | error e => exact ⟨rfl, h⟩
    | ok ds =>
      have hstart : Building.Alike { cache } { cache := cache' } := ⟨h, rfl, rfl⟩
      have hall := hstart.resolveAll ds
      dsimp only
      generalize Building.resolveAll ds { cache } = r at hall
      generalize Building.resolveAll ds { cache := cache' } = r' at hall
      cases hall with
      | ok hlast =>
        dsimp only
        rw [hlast.root_eq]
        exact ⟨rfl, hlast.cache⟩
      | error hlast => exact ⟨rfl, hlast.cache⟩

/-- Caches that cannot be told apart bind a target to a type in the same way, and cannot be told apart
behind it. -/
theorem Alike.bind (h : cache.Alike cache') (target : ObjectTarget) (id : Uuid) :
    (cache'.bind target id).1 = (cache.bind target id).1 ∧
      (cache.bind target id).2.Alike (cache'.bind target id).2 := by
  cases hb : cache.bindings.lookup (id, target) with
  | some b =>
    have hb' : cache'.bindings.lookup (id, target) = some b := by rw [h.bindings_eq, hb]
    rw [SharedCache.bind, SharedCache.bind, hb, hb']
    exact ⟨rfl, h⟩
  | none =>
    have hb' : cache'.bindings.lookup (id, target) = none := by rw [h.bindings_eq, hb]
    rw [bind_of_lookup hb, bind_of_lookup hb', h.get?_eq]
    cases cache.get? id with
    | none => exact ⟨rfl, h⟩
    | some c =>
      dsimp only
      cases BoundObject.bind target c.codec with
      | error e => exact ⟨rfl, h.get id⟩
      | ok bound =>
        dsimp only
        rw [(h.get id).bindings_eq]
        exact ⟨rfl, (h.get id).withBindings _⟩

/-- Caches that cannot be told apart find the same query, and cannot be told apart behind it. -/
theorem Alike.query? (h : cache.Alike cache') (key : UInt64) :
    (cache'.query? key).1 = (cache.query? key).1 ∧
      (cache.query? key).2.Alike (cache'.query? key).2 := by
  rw [query?_eq, query?_eq, h.queries_eq]
  cases cache.queries.lookup key with
  | none => exact ⟨rfl, h⟩
  | some types =>
    have hasked := (h.get types.inputId).get types.outputId
    dsimp only
    rw [h.get?_eq, hasked.queries_eq]
    split
    · exact ⟨rfl, hasked⟩
    · exact ⟨rfl, hasked.withQueries _⟩

/-- Caches that cannot be told apart give every use the same answer, and cannot be told apart behind it. -/
theorem Alike.use (h : cache.Alike cache') (u : RegistryUse) :
    (cache'.use u).1 = (cache.use u).1 ∧ (cache.use u).2.Alike (cache'.use u).2 := by
  cases u with
  | build b =>
    obtain ⟨hresult, hcache⟩ := h.build b
    exact ⟨congrArg RegistryAnswer.built hresult, hcache⟩
  | get version id =>
    have hget : cache'.get? id = cache.get? id := by rw [h.get?_eq]
    exact ⟨congrArg RegistryAnswer.found hget, h.get id⟩
  | bind version target id =>
    obtain ⟨hresult, hcache⟩ := h.bind target id
    exact ⟨congrArg RegistryAnswer.bound hresult, hcache⟩
  | record version key types =>
    refine ⟨rfl, ?_⟩
    change (cache.updateQuery key types).Alike (cache'.updateQuery key types)
    rw [updateQuery, updateQuery, h.queries_eq]
    exact h.withQueries _
  | lookup version key =>
    obtain ⟨hquery, hcache⟩ := h.query? key
    exact ⟨congrArg RegistryAnswer.prepared hquery, hcache⟩

/-- A target is bound to the codec that the type has. -/
theorem Sound.get?_of_bind (h : cache.Sound) {target : ObjectTarget} {id : Uuid} {b : SharedBinding}
    (hb : (cache.bind target id).1 = .ok b) : cache.get? id = some b.codec := by
  cases hlookup : cache.bindings.lookup (id, target) with
  | some b' =>
    rw [SharedCache.bind, hlookup] at hb
    cases hb
    exact (h.binding_eq hlookup).1
  | none =>
    rw [bind_of_lookup hlookup] at hb
    cases hget : cache.get? id with
    | none =>
      rw [hget] at hb
      cases hb
    | some c =>
      rw [hget] at hb
      dsimp only at hb
      cases hbound : BoundObject.bind target c.codec with
      | error e =>
        rw [hbound] at hb
        cases hb
      | ok bound =>
        rw [hbound] at hb
        cases hb
        rfl

/-- What a build resolves its descriptors to is what their types have behind it, and it answers with the
last of them. -/
theorem Sound.resolves_of_build (h : cache.Sound) {b : BuildRequest} {ds : List Descriptor}
    (hroot : cache.get? b.rootId = none) (hparse : Descriptor.parse b.version b.descriptors = .ok ds) :
    let resolved := final (Building.resolveAll ds { cache })
    (cache.build b).2 = resolved.cache ∧ cache.Resolves resolved.cache ds resolved.built ∧
      ∀ c, (cache.build b).1 = .ok c →
        resolved.built.size = ds.length ∧ resolved.built.toList.reduceOption.getLast? = some c := by
  intro resolved
  obtain ⟨hlast, hsize⟩ := h.resolveAll ds
  refine ⟨build_snd hroot hparse, hlast.resolves, fun c hc => ?_⟩
  rw [build_of_get?_eq_none hroot, hparse] at hc
  dsimp only at hc
  cases hall : Building.resolveAll ds { cache } with
  | error e t =>
    rw [hall] at hc
    cases hc
  | ok u t =>
    have hresolved : resolved = t := congrArg final hall
    rw [hall] at hc hlast
    have hroot_eq : t.root = t.built.toList.reduceOption.getLast? := hlast.root_eq
    rw [hresolved, ← hroot_eq]
    refine ⟨hsize u t hall, ?_⟩
    dsimp only at hc
    cases ht : t.root with
    | none =>
      rw [ht] at hc
      cases hc
    | some c' =>
      rw [ht] at hc
      cases hc
      rfl

/-- If all of some things have an image, then the last image is that of the last thing. -/
private theorem getLast?_filterMap {α β : Type} {f : α → Option β} {l : List α}
    (h : ∀ a ∈ l, (f a).isSome = true) : (l.filterMap f).getLast? = l.getLast?.bind f := by
  cases hlast : l.getLast? with
  | none =>
    rw [List.getLast?_eq_none_iff.mp hlast]
    rfl
  | some a =>
    obtain ⟨front, rfl⟩ := List.getLast?_eq_some_iff.mp hlast
    obtain ⟨b, hb⟩ := Option.isSome_iff_exists.mp (h a (by simp))
    rw [List.filterMap_append, List.filterMap_cons_some hb, List.filterMap_nil, List.getLast?_concat,
      Option.bind_some, hb]

/-- What a build gives is what the type has that it is kept under. -/
theorem Sound.kept_of_build (h : cache.Sound) {b : BuildRequest} {c : SharedCodec}
    (hb : (cache.build b).1 = .ok c) :
    ∃ id, b.keptUnder? cache.erase = some id ∧ (cache.build b).2.get? id = some c := by
  unfold BuildRequest.keptUnder?
  rw [h.erases, Option.isSome_map]
  cases hroot : cache.get? b.rootId with
  | some c' =>
    rw [build_of_get? hroot] at hb ⊢
    cases hb
    exact ⟨b.rootId, rfl, by rw [(cache.alike_get b.rootId).get?_eq, hroot]⟩
  | none =>
    cases hparse : Descriptor.parse b.version b.descriptors with
    | error e =>
      rw [build_of_get?_eq_none hroot, hparse] at hb
      cases hb
    | ok ds =>
      obtain ⟨hcache, hresolves, hlast⟩ := h.resolves_of_build hroot hparse
      obtain ⟨hsize, hlast⟩ := hlast c hb
      have hcodecs := hresolves.built_eq
      have hsome := hresolves.isSome
      rw [hsize, List.take_length] at hcodecs hsome
      have hmade : (ds.map (cache.build b).2.ofDescriptor).reduceOption =
          (ds.filter (·.kind.hasCodec)).filterMap fun d => (cache.build b).2.get? d.id := by
        rw [List.reduceOption, List.filterMap_map, List.filterMap_filter]
        rfl
      rw [← hcache] at hcodecs hsome
      rw [hcodecs, hmade, getLast?_filterMap] at hlast
      · obtain ⟨d, hd, hget⟩ := Option.bind_eq_some_iff.mp hlast
        exact ⟨d.id, by simp [hd], hget⟩
      · intro d hd
        obtain ⟨hmem, hcodec⟩ := List.mem_filter.mp hd
        exact hsome d hmem hcodec

end SharedCache

end GelClient
