import GelClient.Proofs.Schema.Retention

/-!
# Codecs with an identity

A registry hands out codecs that are shared: two callers that ask for one type get the same codec, not
only equal ones, and a codec owns the codecs that its own type refers to. `SharedCodec` is a codec with
such an identity, namely the type that it was made for and the number of those that were made for this
type before. A `SharedCache` makes the well known scalars on demand, the other codecs as a build goes
along, and binds a codec to a target once. Apart from identities it is the cache of values: both give
the same answers to every sequence of uses.
-/

namespace GelClient

open Actions

/-- A codec with its identity: it was made for a type after `turn` others. -/
structure SharedCodec where
  type : Uuid
  turn : Nat
  codec : Codec
  parts : List SharedCodec

/-- The shared codecs of the descriptors before one, by position. -/
abbrev BuiltShared := Array (Option SharedCodec)

namespace BuiltShared

/-- The codec at a position, if there is one. -/
def at? (built : BuiltShared) (position : UInt16) : Option SharedCodec :=
  built[position.toNat]?.join

/-- The codecs without their identities. -/
def codecs (built : BuiltShared) : BuiltCodecs :=
  (built.toList.map (Option.map SharedCodec.codec)).toArray

end BuiltShared

/-- A target bound to a codec. -/
structure SharedBinding where
  codec : SharedCodec
  bound : BoundObject

/-- The shared codecs, the compiled queries and the bindings of one version, latest first. -/
structure SharedCache where
  codecs : List (Uuid × SharedCodec) := [(.nil, ⟨.nil, 0, .null, []⟩)]
  scalars : List (Scalar × SharedCodec) := []
  queries : List (UInt64 × QueryTypes) := []
  bindings : List ((Uuid × ObjectTarget) × SharedBinding) := []
  /-- The types that codecs were made for. -/
  made : List Uuid := [.nil]

namespace SharedCache

/-- A cache that knows the type without data. -/
def empty : SharedCache := {}

/-- A new codec for a type. -/
def make (cache : SharedCache) (type : Uuid) (codec : Codec) (parts : List SharedCodec) :
    SharedCodec × SharedCache :=
  (⟨type, cache.made.count type, codec, parts⟩, { cache with made := type :: cache.made })

/-- The codec of a well known scalar, made when it is asked for first. -/
def scalar (cache : SharedCache) (s : Scalar) : SharedCodec × SharedCache :=
  match cache.scalars.lookup s with
  | some c => (c, cache)
  | none =>
    let (c, cache) := cache.make s.id (.scalar s) []
    (c, { cache with scalars := (s, c) :: cache.scalars })

/-- The codec of a type, if it is cached or a well known scalar. -/
def get (cache : SharedCache) (id : Uuid) : Option SharedCodec × SharedCache :=
  match cache.codecs.lookup id, Scalar.ofId? id with
  | some c, _ => (some c, cache)
  | none, some s =>
    let (c, cache) := cache.scalar s
    (some c, cache)
  | none, none => (none, cache)

/-- The codec that a type has in a cache. -/
def get? (cache : SharedCache) (id : Uuid) : Option SharedCodec := (cache.get id).1

/-- The codec of a descriptor that comes to `codec`: for a scalar that derives from another the one that
this has, and else a new one that owns those at the positions which the descriptor refers to. -/
def share (cache : SharedCache) (built : BuiltShared) (d : Descriptor) (codec : Codec) :
    SharedCodec × SharedCache :=
  match d.kind.shared?.bind built.at? with
  | some c => (c, cache)
  | none => cache.make d.id codec (d.kind.references.filterMap built.at?)

/-- The cache with a codec for a type. -/
def insert (cache : SharedCache) (id : Uuid) (c : SharedCodec) : SharedCache :=
  { cache with codecs := (id, c) :: cache.codecs }

end SharedCache

/-- The state of a build: the cache, the codecs of the descriptors so far and the last one of them. -/
structure Building where
  cache : SharedCache
  built : BuiltShared := #[]
  root : Option SharedCodec := none

namespace Building

/-- The state after a descriptor that makes a codec. -/
def push (s : Building) (cache : SharedCache) (c : SharedCodec) : Building :=
  { cache, built := s.built.push (some c), root := some c }

/-- The state after a descriptor that makes none. -/
def skip (s : Building) : Building := { s with built := s.built.push none }

/-- Takes the codec of a descriptor from the cache if its type is cached, and else constructs and caches
it. -/
def resolve (d : Descriptor) : EStateM CodecError Building PUnit := fun s =>
  if d.kind.hasCodec then
    match s.cache.get d.id with
    | (some c, cache) => .ok ⟨⟩ (s.push cache c)
    | (none, cache) =>
      match s.built.codecs.construct d with
      | .ok codec =>
        let (c, cache) := cache.share s.built d codec
        .ok ⟨⟩ (s.push (cache.insert d.id c) c)
      | .error e => .error e { s with cache }
  else .ok ⟨⟩ s.skip

/-- Takes or makes the codecs of descriptors in order. -/
def resolveAll : List Descriptor → EStateM CodecError Building PUnit
  | [] => pure ⟨⟩
  | d :: ds => do
    resolve d
    resolveAll ds

end Building

/-- What a registry answers to a use, with codecs `γ` and bindings `β`. -/
inductive RegistryAnswer (γ β : Type) where
  | built (result : Except CodecError γ)
  | found (codec : Option γ)
  | bound (result : Except CodecError β)
  | recorded
  | prepared (query : Option (QueryTypes × γ × γ))

/-- The answer with other codecs and bindings. -/
def RegistryAnswer.map {γ γ' β β' : Type} (f : γ → γ') (g : β → β') :
    RegistryAnswer γ β → RegistryAnswer γ' β'
  | built result => built (result.map f)
  | found codec => found (codec.map f)
  | bound result => bound (result.map g)
  | recorded => recorded
  | prepared query => prepared (query.map fun q => (q.1, f q.2.1, f q.2.2))

/-- The answer without identities. -/
abbrev RegistryAnswer.erase : RegistryAnswer SharedCodec SharedBinding → RegistryAnswer Codec BoundObject :=
  map SharedCodec.codec SharedBinding.bound

/-- The version that a use is about. -/
def RegistryUse.version : RegistryUse → ProtocolVersion
  | build b => b.version
  | get version _ | bind version _ _ | record version _ _ | lookup version _ => version

namespace SharedCache

/-- The codec of a type: the cached one, or else the last one that its descriptors make. -/
def build (cache : SharedCache) (b : BuildRequest) : Except CodecError SharedCodec × SharedCache :=
  match cache.get b.rootId with
  | (some c, cache) => (.ok c, cache)
  | (none, cache) =>
    match Descriptor.parse b.version b.descriptors with
    | .error e => (.error e, cache)
    | .ok ds =>
      match Building.resolveAll ds { cache } with
      | .error e s => (.error e, s.cache)
      | .ok _ s => (s.root.elim (.error (.malformedDescriptor .noRoot)) .ok, s.cache)

/-- The codec of a type bound to a target, once for all. -/
def bind (cache : SharedCache) (target : ObjectTarget) (id : Uuid) :
    Except CodecError SharedBinding × SharedCache :=
  match cache.bindings.lookup (id, target) with
  | some b => (.ok b, cache)
  | none =>
    match cache.get id with
    | (none, cache) => (.error (.missingCodec id), cache)
    | (some c, cache) =>
      match BoundObject.bind target c.codec with
      | .error e => (.error e, cache)
      | .ok bound =>
        (.ok ⟨c, bound⟩, { cache with bindings := ((id, target), ⟨c, bound⟩) :: cache.bindings })

/-- Remembers the types of a query. -/
def updateQuery (cache : SharedCache) (key : UInt64) (types : QueryTypes) : SharedCache :=
  { cache with queries := (key, types) :: cache.queries.filter (·.1 != key) }

/-- The types of a query with their codecs. An entry whose codecs are not known is dropped. -/
def query? (cache : SharedCache) (key : UInt64) :
    Option (QueryTypes × SharedCodec × SharedCodec) × SharedCache :=
  match cache.queries.lookup key with
  | none => (none, cache)
  | some types =>
    let (input, cache) := cache.get types.inputId
    let (output, cache) := cache.get types.outputId
    match input, output with
    | some input, some output => (some (types, input, output), cache)
    | _, _ => (none, { cache with queries := cache.queries.filter (·.1 != key) })

/-- What a cache answers to a use in its version, and the cache afterwards. -/
def use (cache : SharedCache) : RegistryUse → RegistryAnswer SharedCodec SharedBinding × SharedCache
  | .build b =>
    let (result, cache) := cache.build b
    (.built result, cache)
  | .get _ id =>
    let (codec, cache) := cache.get id
    (.found codec, cache)
  | .bind _ target id =>
    let (result, cache) := cache.bind target id
    (.bound result, cache)
  | .record _ key types => (.recorded, cache.updateQuery key types)
  | .lookup _ key =>
    let (query, cache) := cache.query? key
    (.prepared query, cache)

/-- A cache without identities. -/
def erase (cache : SharedCache) : CodecCache where
  codecs := cache.codecs.map fun entry => (entry.1, entry.2.codec)
  queries := cache.queries

variable {cache cache' : SharedCache} {id : Uuid} {c : SharedCodec}

/-! ### What a cache has for a type -/

/-- The codec of a scalar is the one that was made, or else the one that would be made now. -/
theorem scalar_fst (cache : SharedCache) (s : Scalar) : (cache.scalar s).1 =
    (cache.scalars.lookup s).getD ⟨s.id, cache.made.count s.id, .scalar s, []⟩ := by
  unfold scalar
  cases cache.scalars.lookup s <;> rfl

/-- A type has the codec that is cached, or else that of a scalar. -/
theorem get?_eq (cache : SharedCache) (id : Uuid) : cache.get? id =
    (cache.codecs.lookup id).or ((Scalar.ofId? id).map fun s => (cache.scalar s).1) := by
  unfold get? get
  cases cache.codecs.lookup id with
  | some c => rfl
  | none => cases Scalar.ofId? id <;> rfl

/-- A type without a codec is no scalar. -/
theorem ofId?_of_get? (h : cache.get? id = none) : Scalar.ofId? id = none := by
  rw [get?_eq, Option.or_eq_none_iff, Option.map_eq_none_iff] at h
  exact h.2

/-- Asking for the codec of a type gives the one that it has. -/
theorem get_of_eq_some (h : cache.get? id = some c) : cache.get id = (some c, (cache.get id).2) :=
  Prod.ext h rfl

/-- Asking for the codec of a type that has none changes nothing. -/
theorem get_of_eq_none (h : cache.get? id = none) : cache.get id = (none, cache) := by
  have hscalar := ofId?_of_get? h
  rw [get?_eq, Option.or_eq_none_iff] at h
  rw [get, h.1, hscalar]

/-- What a type has depends on the cached codecs, the scalars and how many were made of each scalar. -/
theorem get?_congr (hcodecs : cache'.codecs = cache.codecs)
    (hscalar : ∀ s, (cache'.scalar s).1 = (cache.scalar s).1) : cache'.get? = cache.get? := by
  funext id
  rw [get?_eq, get?_eq, hcodecs]
  simp only [hscalar]

/-- A codec that is put into a cache is what its type has there, and nothing else changes. -/
theorem get?_insert (cache : SharedCache) (id : Uuid) (c : SharedCodec) (id' : Uuid) :
    (cache.insert id c).get? id' = if id' = id then some c else cache.get? id' := by
  rw [get?_eq, insert, List.lookup_cons]
  by_cases h : id' = id
  · rw [if_pos h, h, BEq.rfl]
    rfl
  · rw [if_neg h, beq_eq_false_iff_ne.mpr h, get?_eq]
    simp only [scalar_fst]

/-- Making a codec for a type that is no scalar changes what no type has. -/
theorem get?_make (cache : SharedCache) (h : Scalar.ofId? id = none) (codec : Codec)
    (parts : List SharedCodec) : (cache.make id codec parts).2.get? = cache.get? := by
  refine get?_congr rfl fun s => ?_
  have hne : id ≠ s.id := by
    rintro rfl
    rw [Scalar.ofId?_id] at h
    cases h
  rw [scalar_fst, scalar_fst, make, List.count_cons_of_ne hne]

/-- Asking for the codec of a type makes at most that of a scalar which was not made before. -/
theorem get_snd (cache : SharedCache) (id : Uuid) : (cache.get id).2 = cache ∨
    ∃ s : Scalar, cache.scalars.lookup s = none ∧ (cache.get id).2 =
      { cache with
        scalars := (s, ⟨s.id, cache.made.count s.id, .scalar s, []⟩) :: cache.scalars
        made := s.id :: cache.made } := by
  unfold get
  cases cache.codecs.lookup id with
  | some c => exact .inl rfl
  | none =>
    cases Scalar.ofId? id with
    | none => exact .inl rfl
    | some s =>
      dsimp only
      unfold scalar
      cases h : cache.scalars.lookup s with
      | some c => exact .inl rfl
      | none => exact .inr ⟨s, h, rfl⟩

/-- No use can tell two caches apart: they have the same codecs, queries and bindings, and a new codec of
a type that is no scalar is the same one in both. -/
structure Alike (cache cache' : SharedCache) : Prop where
  get?_eq : cache'.get? = cache.get?
  queries_eq : cache'.queries = cache.queries
  bindings_eq : cache'.bindings = cache.bindings
  count_eq (id : Uuid) : Scalar.ofId? id = none → cache'.made.count id = cache.made.count id

/-- No use can tell a cache from itself. -/
theorem Alike.refl (cache : SharedCache) : cache.Alike cache := ⟨rfl, rfl, rfl, fun _ _ => rfl⟩

/-- What cannot be told apart from either side cannot be told apart. -/
theorem Alike.symm (h : cache.Alike cache') : cache'.Alike cache :=
  ⟨h.get?_eq.symm, h.queries_eq.symm, h.bindings_eq.symm, fun id hid => (h.count_eq id hid).symm⟩

/-- What cannot be told apart in two steps cannot be told apart. -/
theorem Alike.trans {cache'' : SharedCache} (h : cache.Alike cache') (h' : cache'.Alike cache'') :
    cache.Alike cache'' where
  get?_eq := h'.get?_eq.trans h.get?_eq
  queries_eq := h'.queries_eq.trans h.queries_eq
  bindings_eq := h'.bindings_eq.trans h.bindings_eq
  count_eq id hid := (h'.count_eq id hid).trans (h.count_eq id hid)

/-- That a codec was asked for cannot be told. A scalar that was made for this is the one that would be
made later. -/
theorem alike_get (cache : SharedCache) (id : Uuid) : cache.Alike (cache.get id).2 := by
  obtain h | ⟨s, hs, h⟩ := cache.get_snd id
  · rw [h]
    exact .refl cache
  · rw [h]
    refine ⟨get?_congr rfl fun s' => ?_, rfl, rfl, fun id hid => List.count_cons_of_ne ?_⟩
    · rw [scalar_fst, scalar_fst, List.lookup_cons]
      by_cases hs' : s' = s
      · rw [hs', BEq.rfl, hs]
        rfl
      · have hne : s.id ≠ s'.id := fun heq => by
          have hof := congrArg Scalar.ofId? heq
          rw [Scalar.ofId?_id, Scalar.ofId?_id] at hof
          exact hs' (Option.some.inj hof).symm
        rw [beq_eq_false_iff_ne.mpr hs', List.count_cons_of_ne hne]
    · rintro rfl
      rw [Scalar.ofId?_id] at hid
      cases hid

/-- Without identities nothing changes when a codec is asked for. -/
theorem erase_get (cache : SharedCache) (id : Uuid) : (cache.get id).2.erase = cache.erase := by
  obtain h | ⟨s, -, h⟩ := cache.get_snd id <;> rw [h]
  rfl

/-! ### Invariants -/

/-- Every type keeps the very codec that it had. -/
def KeptIn (cache cache' : SharedCache) : Prop :=
  ∀ id c, cache.get? id = some c → cache'.get? id = some c

/-- Every codec of a type that is no scalar is one of those which were made for its type. -/
def Numbered (cache : SharedCache) : Prop :=
  ∀ id c, cache.get? id = some c → Scalar.ofId? c.type = none → c.turn < cache.made.count c.type

/-- Identities do not matter for what types have. -/
def Erases (cache : SharedCache) : Prop :=
  ∀ id, cache.erase.get? id = (cache.get? id).map SharedCodec.codec

/-- What was kept twice was kept. -/
theorem KeptIn.trans {cache'' : SharedCache} (h : cache.KeptIn cache') (h' : cache'.KeptIn cache'') :
    cache.KeptIn cache'' :=
  fun id c hc => h' id c (h id c hc)

/-- What has the same codecs keeps them. -/
theorem KeptIn.of_eq (h : cache'.get? = cache.get?) : cache.KeptIn cache' := by
  intro id c hc
  rw [h, hc]

/-- A codec for a type that has none replaces nothing. -/
theorem keptIn_insert {id : Uuid} (h : cache.get? id = none) (hsame : cache'.get? = cache.get?)
    (c : SharedCodec) : cache.KeptIn (cache'.insert id c) := by
  intro id' c' hc'
  rw [get?_insert, if_neg, hsame, hc']
  rintro rfl
  rw [h] at hc'
  cases hc'

/-- Codecs stay numbered where nothing can be told apart. -/
theorem Numbered.of_alike (h : cache.Numbered) (halike : cache.Alike cache') : cache'.Numbered := by
  intro id c hc htype
  rw [halike.get?_eq] at hc
  rw [halike.count_eq c.type htype]
  exact h id c hc htype

/-- Codecs stay numbered when one of them is given to another type. -/
theorem Numbered.insert {id' : Uuid} (h : cache.Numbered) (hc : cache.get? id' = some c) (id : Uuid) :
    (cache.insert id c).Numbered := by
  intro id₁ c₁ hc₁ htype
  rw [get?_insert] at hc₁
  split at hc₁
  · cases hc₁
    exact h id' c hc htype
  · exact h id₁ c₁ hc₁ htype

/-- Codecs stay numbered when one is made for its type. -/
theorem Numbered.insert_make (h : cache.Numbered) (hid : Scalar.ofId? id = none) (codec : Codec)
    (parts : List SharedCodec) :
    ((cache.make id codec parts).2.insert id (cache.make id codec parts).1).Numbered := by
  intro id₁ c₁ hc₁ htype
  rw [get?_insert, get?_make cache hid] at hc₁
  have hmade : ((cache.make id codec parts).2.insert id (cache.make id codec parts).1).made =
      id :: cache.made := rfl
  rw [hmade]
  split at hc₁
  · cases hc₁
    change cache.made.count id < (id :: cache.made).count id
    rw [List.count_cons_self]
    exact Nat.lt_succ_self _
  · exact Nat.lt_of_lt_of_le (h id₁ c₁ hc₁ htype) List.count_le_count_cons

/-- A codec that is made for a type which is no scalar is none of those that types have. -/
theorem Numbered.make_ne (h : cache.Numbered) (hid : Scalar.ofId? id = none) (codec : Codec)
    (parts : List SharedCodec) (id' : Uuid) : cache.get? id' ≠ some (cache.make id codec parts).1 := by
  intro hc
  exact absurd (h id' _ hc hid) (Nat.lt_irrefl _)

/-- Identities still do not matter after a codec was asked for. -/
theorem Erases.get (h : cache.Erases) (id : Uuid) : (cache.get id).2.Erases := by
  intro id'
  rw [erase_get, (cache.alike_get id).get?_eq, h]

/-- Identities still do not matter when a codec is put into the cache. -/
theorem Erases.insert (h : cache.Erases) (id : Uuid) (c : SharedCodec) : (cache.insert id c).Erases := by
  intro id'
  have herase : (cache.insert id c).erase = cache.erase.insert id c.codec := rfl
  rw [herase, get?_insert]
  by_cases hid : id' = id
  · rw [hid, CodecCache.get?_insert_self, if_pos rfl]
    rfl
  · rw [CodecCache.get?_insert_of_ne hid, if_neg hid, h]

/-- Identities still do not matter when a codec is made. -/
theorem Erases.make (h : cache.Erases) (hid : Scalar.ofId? id = none) (codec : Codec)
    (parts : List SharedCodec) : (cache.make id codec parts).2.Erases := by
  intro id'
  rw [get?_make cache hid]
  exact h id'

end SharedCache

end GelClient
