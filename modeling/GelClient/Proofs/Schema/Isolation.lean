import GelClient.Proofs.Schema.Uses
import Mathlib.Logic.Function.Basic

/-!
# Registries of shared codecs

A registry has a cache for each version of the protocol. What its caches keep it keeps, and what a user can
see of it are the answers along the uses. So what is left out of a history without a change to the other
answers cannot be seen: the uses of the other versions, and the builds whose descriptors cannot be read.
-/

namespace GelClient

open Actions

/-- The uses of something, each with its answer. -/
def answers {σ α : Type} (use : σ → RegistryUse → α × σ) (s : σ) :
    List RegistryUse → List (RegistryUse × α)
  | [] => []
  | u :: us => (u, (use s u).1) :: answers use (use s u).2 us

section Answers

variable {σ τ α β : Type} {use : σ → RegistryUse → α × σ}

/-- Answers that are the same up to `f` in related states are the same up to `f` along all uses. -/
theorem map_answers {use' : τ → RegistryUse → β × τ} {f : α → β} {r : σ → τ → Prop}
    (hstep : ∀ s t u, r s t → f (use s u).1 = (use' t u).1 ∧ r (use s u).2 (use' t u).2) {s : σ} {t : τ}
    (h : r s t) (us : List RegistryUse) :
    (answers use s us).map (Prod.map id f) = answers use' t us := by
  induction us generalizing s t with
  | nil => rfl
  | cons u us ih =>
    obtain ⟨hanswer, hnext⟩ := hstep s t u h
    rw [answers, answers, List.map_cons, ih hnext, ← hanswer]
    rfl

/-- Uses that relate the state to itself can be left out without a change to the answers of the others, if
these are the same in related states. -/
theorem filter_answers (keep : RegistryUse → Bool) {r : σ → σ → Prop}
    (hkeep : ∀ s t u, r s t → keep u = true →
      (use s u).1 = (use t u).1 ∧ r (use s u).2 (use t u).2)
    (hdrop : ∀ s t u, r s t → keep u = false → r (use s u).2 t) {s t : σ} (h : r s t)
    (us : List RegistryUse) :
    (answers use s us).filter (fun a => keep a.1) = answers use t (us.filter keep) := by
  induction us generalizing s t with
  | nil => rfl
  | cons u us ih =>
    rw [answers, List.filter_cons, List.filter_cons]
    cases hu : keep u with
    | true =>
      obtain ⟨hanswer, hnext⟩ := hkeep s t u h hu
      rw [if_pos rfl, if_pos rfl, answers, ih hnext, hanswer]
    | false =>
      rw [if_neg Bool.false_ne_true, if_neg Bool.false_ne_true, ih (hdrop s t u h hu)]

end Answers

namespace CodecRegistry

/-- What a registry of values answers to a use, and the registry afterwards. -/
def use (registry : CodecRegistry) (u : RegistryUse) :
    RegistryAnswer Codec BoundObject × CodecRegistry :=
  let answer := match u with
    | .build b =>
      match b.runIn registry with
      | .ok c _ => .built (.ok c)
      | .error e _ => .built (.error e)
    | .get version id => .found (registry.get? version id)
    | .bind version target id => .bound (registry.bind version target id)
    | .record .. => .recorded
    | .lookup version key =>
      .prepared ((registry.query? version key).1.map fun p => (p.types, p.input, p.output))
  (answer, registry.afterUse u)

/-- A registry of values answers as the cache of the version does, which is the only one to change. -/
theorem use_eq (registry : CodecRegistry) (u : RegistryUse) :
    (registry.use u).1 = ((registry.cache u.version).use u).1 ∧ ∀ version,
      (registry.use u).2.cache version = if version = u.version then
        ((registry.cache u.version).use u).2 else registry.cache version := by
  cases u with
  | build b =>
    have hfinal : final (b.run (registry.cache b.version)) =
        ((registry.cache b.version).use (.build b)).2 := by
      rw [CodecCache.use]
      cases b.run (registry.cache b.version) <;> rfl
    refine ⟨?_, fun version => ?_⟩
    · rw [use, CodecCache.use, BuildRequest.runIn, CodecRegistry.build, onCache, BuildRequest.run]
      dsimp only [RegistryUse.version]
      cases CodecCache.build b.version b.rootId b.descriptors (registry.cache b.version) <;> rfl
    · change (registry.afterUse (.build b)).cache version = _
      rw [afterUse_build, cache_withCache, hfinal]
      rfl
  | get version id | bind version target id =>
    refine ⟨rfl, fun version' => ?_⟩
    split
    next heq => rw [heq]; rfl
    next => rfl
  | record version key types =>
    refine ⟨rfl, fun version' => ?_⟩
    exact cache_withCache ..
  | lookup version key =>
    refine ⟨rfl, fun version' => ?_⟩
    exact cache_withCache ..

end CodecRegistry

/-- The shared caches of all versions. -/
abbrev SharedRegistry := ProtocolVersion → SharedCache

namespace SharedRegistry

/-- A registry with an empty cache for every version. -/
def empty : SharedRegistry := fun _ => .empty

/-- What a registry answers to a use, and the registry afterwards. -/
def use (registry : SharedRegistry) (u : RegistryUse) :
    RegistryAnswer SharedCodec SharedBinding × SharedRegistry :=
  let (answer, cache) := (registry u.version).use u
  (answer, Function.update registry u.version cache)

/-- The registry after a use, whatever came of it. -/
def afterUse (registry : SharedRegistry) (u : RegistryUse) : SharedRegistry := (registry.use u).2

variable {registry registry' : SharedRegistry} {version : ProtocolVersion}

/-- A use changes the cache of its own version only. -/
theorem afterUse_apply (registry : SharedRegistry) (u : RegistryUse) (version : ProtocolVersion) :
    registry.afterUse u version =
      if version = u.version then ((registry u.version).use u).2 else registry version := by
  change Function.update registry u.version _ version = _
  rw [Function.update_apply]
  rfl

/-- Every cache of a registry is sound. -/
def Sound (registry : SharedRegistry) : Prop := ∀ version, (registry version).Sound

/-- After every use the caches of a registry are sound, and every type keeps its codec. -/
theorem Sound.afterUse (h : registry.Sound) (u : RegistryUse) :
    (registry.afterUse u).Sound ∧ ∀ version, (registry version).KeptIn (registry.afterUse u version) := by
  obtain ⟨hsound, hkept⟩ := (h u.version).use u
  refine ⟨fun version => ?_, fun version => ?_⟩
  · rw [afterUse_apply]
    split
    · exact hsound
    · exact h version
  · rw [afterUse_apply]
    split
    next heq =>
      rw [heq]
      exact hkept
    next => exact .of_eq rfl

/-- After any number of uses the caches of a registry are sound, and every type keeps its codec. -/
theorem Sound.foldl_afterUse (h : registry.Sound) (us : List RegistryUse) :
    (us.foldl SharedRegistry.afterUse registry).Sound ∧
      ∀ version, (registry version).KeptIn (us.foldl SharedRegistry.afterUse registry version) := by
  induction us generalizing registry with
  | nil => exact ⟨h, fun _ => .of_eq rfl⟩
  | cons u us ih =>
    obtain ⟨hsound, hkept⟩ := h.afterUse u
    obtain ⟨hlast, hrest⟩ := ih hsound
    exact ⟨hlast, fun version => (hkept version).trans (hrest version)⟩

/-- Without identities the caches of a registry are those of a registry of values. -/
def ErasesTo (shared : SharedRegistry) (registry : CodecRegistry) : Prop :=
  ∀ version, (shared version).erase = registry.cache version

/-- Without identities the empty caches are those of an empty registry of values. -/
theorem erasesTo_empty : empty.ErasesTo .empty := fun _ => rfl

variable {values : CodecRegistry}

/-- Without identities every use gets the answer of the registry of values, and the caches stay the same. -/
theorem Sound.erase_use (hsound : registry.Sound) (herases : registry.ErasesTo values) (u : RegistryUse) :
    (registry.use u).1.erase = (values.use u).1 ∧
      (registry.afterUse u).ErasesTo (values.afterUse u) := by
  obtain ⟨hanswer, hcache⟩ := values.use_eq u
  have huse := (hsound u.version).erase_use u
  rw [herases] at huse
  refine ⟨?_, fun version => ?_⟩
  · rw [hanswer, huse]
    rfl
  · change _ = (values.use u).2.cache version
    rw [hcache, huse, afterUse_apply]
    split
    · rfl
    · exact herases version

/-- Without identities the caches stay the same along all uses. -/
theorem Sound.erasesTo_foldl_afterUse (hsound : registry.Sound) (herases : registry.ErasesTo values)
    (us : List RegistryUse) :
    (us.foldl SharedRegistry.afterUse registry).ErasesTo (us.foldl CodecRegistry.afterUse values) := by
  induction us generalizing registry values with
  | nil => exact herases
  | cons u us ih => exact ih (hsound.afterUse u).1 (hsound.erase_use herases u).2

/-- Without identities every sequence of uses gets the answers of a registry of values. -/
theorem map_erase_answers (us : List RegistryUse) :
    (answers use empty us).map (Prod.map id RegistryAnswer.erase) =
      answers CodecRegistry.use .empty us := by
  refine map_answers (r := fun (shared : SharedRegistry) (registry : CodecRegistry) =>
    shared.Sound ∧ shared.ErasesTo registry) ?_ ?_ us
  · intro shared registry u ⟨hsound, herases⟩
    obtain ⟨hanswer, hlast⟩ := hsound.erase_use herases u
    exact ⟨hanswer, (hsound.afterUse u).1, hlast⟩
  · exact ⟨fun _ => SharedCache.sound_empty, erasesTo_empty⟩

/-- The answers to the uses of one version are those that they get alone. -/
theorem filter_answers_version (registry : SharedRegistry) (version : ProtocolVersion)
    (us : List RegistryUse) :
    (answers use registry us).filter (·.1.version = version) =
      answers use registry (us.filter (·.version = version)) := by
  refine filter_answers (fun u => u.version = version)
    (r := fun registry registry' : SharedRegistry => registry version = registry' version) ?_ ?_ rfl us
  · intro registry registry' u h hu
    obtain rfl := of_decide_eq_true hu
    refine ⟨?_, ?_⟩
    · change ((registry u.version).use u).1 = ((registry' u.version).use u).1
      rw [h]
    · change registry.afterUse u u.version = registry'.afterUse u u.version
      rw [afterUse_apply, afterUse_apply, h]
  · intro registry registry' u h hu
    change registry.afterUse u version = registry' version
    have hne : version ≠ u.version := fun heq => of_decide_eq_false hu heq.symm
    rw [afterUse_apply, if_neg hne, h]

/-- Registries whose caches cannot be told apart answer all uses in the same way. -/
theorem answers_of_alike (h : ∀ version, (registry version).Alike (registry' version))
    (us : List RegistryUse) : answers use registry' us = answers use registry us := by
  have hmap : (answers use registry' us).map (Prod.map id id) = answers use registry us := by
    refine map_answers (r := fun registry' registry : SharedRegistry =>
      ∀ version, (registry version).Alike (registry' version)) ?_ h us
    intro registry' registry u h
    obtain ⟨hanswer, hcache⟩ := (h u.version).use u
    refine ⟨hanswer, fun version => ?_⟩
    change (registry.afterUse u version).Alike (registry'.afterUse u version)
    rw [afterUse_apply, afterUse_apply]
    split
    · exact hcache
    · exact h version
  rwa [Prod.map_id, List.map_id] at hmap

/-- That a build was tried whose descriptors cannot be read cannot be told. -/
theorem alike_build {b : BuildRequest} {e : CodecError}
    (h : Descriptor.parse b.version b.descriptors = .error e) (registry : SharedRegistry)
    (version : ProtocolVersion) : (registry version).Alike (registry.afterUse (.build b) version) := by
  rw [afterUse_apply]
  split
  next heq =>
    rw [heq]
    change SharedCache.Alike _ ((registry b.version).build b).2
    cases hroot : (registry b.version).get? b.rootId with
    | some c =>
      rw [SharedCache.build_of_get? hroot]
      exact SharedCache.alike_get ..
    | none =>
      rw [SharedCache.build_of_get?_eq_none hroot, h]
      exact .refl _
  next => exact .refl _

/-- What a type has is given by every later use that is about the type: it is found and built again, and
targets are bound to it. -/
theorem Sound.stable (h : registry.Sound) {id : Uuid} {c : SharedCodec}
    (hget : (registry version).get? id = some c) (us : List RegistryUse) :
    let last := us.foldl SharedRegistry.afterUse registry
    (last.use (.get version id)).1 = .found (some c) ∧
      (∀ descriptors, (last.use (.build ⟨version, id, descriptors⟩)).1 = .built (.ok c)) ∧
      ∀ target b, (last.use (.bind version target id)).1 = .bound (.ok b) → b.codec = c := by
  intro last
  obtain ⟨hsound, hkept⟩ := h.foldl_afterUse us
  have hlast : (last version).get? id = some c := hkept version id c hget
  refine ⟨congrArg RegistryAnswer.found hlast, fun descriptors => ?_, fun target b hb => ?_⟩
  · have hbuild := SharedCache.build_of_get? (b := ⟨version, id, descriptors⟩) hlast
    exact congrArg (fun result => RegistryAnswer.built result.1) hbuild
  · have hbound : ((last version).bind target id).1 = .ok b := RegistryAnswer.bound.inj hb
    have hgetb := (hsound version).get?_of_bind hbound
    rw [hlast] at hgetb
    exact (Option.some.inj hgetb).symm

/-- Cached codecs are stable, shared and isolated. After any uses of a registry, successful or not, the
answers are those of the registry of values, but for the identities of the codecs. A codec that a type has
is given by every later use that is about the type. A build that has to resolve its descriptors resolves
each one to the codec that its type has, and what it puts into the cache owns the codecs that the types of
its parts have, or is the codec of the type that it derives from; and it answers with the last of them.
The uses of one version get the answers that they would get alone. And a build whose descriptors cannot be
read changes no later answer. -/
theorem sharing_of_uses (history : List RegistryUse) :
    let registry := history.foldl afterUse empty
    (answers use empty history).map (Prod.map id RegistryAnswer.erase) =
      answers CodecRegistry.use .empty history ∧
    (∀ version id c, (registry.use (.get version id)).1 = .found (some c) →
      ∀ later : List RegistryUse,
        let last := later.foldl afterUse registry
        (last.use (.get version id)).1 = .found (some c) ∧
          (∀ descriptors, (last.use (.build ⟨version, id, descriptors⟩)).1 = .built (.ok c)) ∧
          ∀ target b, (last.use (.bind version target id)).1 = .bound (.ok b) → b.codec = c) ∧
    (∀ b ds, (registry.use (.get b.version b.rootId)).1 = .found none →
      Descriptor.parse b.version b.descriptors = .ok ds →
      let resolved := final (Building.resolveAll ds { cache := registry b.version })
      registry.afterUse (.build b) b.version = resolved.cache ∧
        (registry b.version).Resolves resolved.cache ds resolved.built ∧
        ∀ c, (registry.use (.build b)).1 = .built (.ok c) →
          resolved.built.size = ds.length ∧ resolved.built.toList.reduceOption.getLast? = some c) ∧
    (∀ version later, (answers use registry later).filter (·.1.version = version) =
      answers use registry (later.filter (·.version = version))) ∧
    ∀ b e, Descriptor.parse b.version b.descriptors = .error e →
      ∀ later, answers use (registry.afterUse (.build b)) later = answers use registry later := by
  intro registry
  have hempty : empty.Sound := fun _ => SharedCache.sound_empty
  obtain ⟨hsound, -⟩ := hempty.foldl_afterUse history
  refine ⟨map_erase_answers history, fun version id c hget later => ?_, fun b ds hroot hparse => ?_,
    fun version later => filter_answers_version registry version later, fun b e hparse later => ?_⟩
  · exact hsound.stable (RegistryAnswer.found.inj hget) later
  · obtain ⟨hcache, hresolves, hlast⟩ :=
      (hsound b.version).resolves_of_build (RegistryAnswer.found.inj hroot) hparse
    refine ⟨?_, hresolves, fun c hc => hlast c (RegistryAnswer.built.inj hc)⟩
    rw [afterUse_apply]
    exact (if_pos rfl).trans hcache
  · exact answers_of_alike (alike_build hparse registry) later

/-- The scalar of the array, and the array that owns it. -/
def sharedInt32 : SharedCodec := ⟨Scalar.int32.id, 0, .scalar .int32, []⟩

/-- The array that owns the scalar. -/
def sharedInt32Array : SharedCodec := ⟨⟨0, 0xA1⟩, 0, .array (.scalar .int32), [sharedInt32]⟩

/-- A build whose descriptors end too early. -/
def truncatedBuild : BuildRequest := ⟨.v1, Scalar.int32.id, [6]⟩

/-- A scalar that a build asked for in vain is the one that the array owns. -/
theorem sharing_of_uses_int32Array :
    let registry := [RegistryUse.build truncatedBuild].foldl afterUse empty
    (∀ later : List RegistryUse, ((later.foldl afterUse registry).use (.get .v1 Scalar.int32.id)).1 =
      .found (some sharedInt32)) ∧
    (registry .v1).Resolves (registry.afterUse (.build TypeAssignment.int32ArrayRequest) .v1)
      TypeAssignment.int32ArrayDescriptors #[some sharedInt32, some sharedInt32Array] ∧
    ∀ later, answers use (registry.afterUse (.build truncatedBuild)) later = answers use registry later := by
  intro registry
  obtain ⟨-, hstable, hbuild, -, htruncated⟩ := sharing_of_uses [.build truncatedBuild]
  refine ⟨fun later => (hstable .v1 Scalar.int32.id sharedInt32 rfl later).1, ?_, ?_⟩
  · obtain ⟨hcache, hresolves, -⟩ :=
      hbuild TypeAssignment.int32ArrayRequest _ rfl rfl
    rw [← hcache] at hresolves
    exact hresolves
  · exact htruncated truncatedBuild _ rfl

/-- What a build gives has been kept, as the same codec, under the type that it is kept under. -/
theorem Sound.kept_of_build (hsound : registry.Sound) {b : BuildRequest} {c : SharedCodec}
    (hb : (registry.use (.build b)).1 = .built (.ok c)) :
    ∃ id, b.keptUnder? (registry b.version).erase = some id ∧
      (registry.afterUse (.build b) b.version).get? id = some c := by
  obtain ⟨id, hid, hget⟩ := (hsound b.version).kept_of_build (RegistryAnswer.built.inj hb)
  have hcache : registry.afterUse (.build b) b.version = ((registry b.version).build b).2 :=
    (afterUse_apply ..).trans (if_pos rfl)
  exact ⟨id, hid, by rw [hcache, hget]⟩

/-- A query that is recorded is found with the codecs that its types have, after any uses that record no other
types under its key. -/
theorem Sound.lookup_of_get? (hsound : registry.Sound) (herases : registry.ErasesTo values) {key : UInt64}
    {types : QueryTypes} {input output : SharedCodec}
    (hlookup : (registry version).queries.lookup key = some types)
    (hinput : (registry version).get? types.inputId = some input)
    (houtput : (registry version).get? types.outputId = some output) {later : List RegistryUse}
    (hlater : ∀ types', .record version key types' ∈ later → types' = types) :
    ((later.foldl SharedRegistry.afterUse registry).use (.lookup version key)).1 =
      .prepared (some (types, input, output)) := by
  obtain ⟨-, hkept⟩ := hsound.foldl_afterUse later
  have hsame := hsound.erasesTo_foldl_afterUse herases later
  have hprepares : (values.cache version).Prepares key
      ⟨types.inputId, input.codec, types.outputId, output.codec, types.cardinality, types.capabilities⟩ := by
    rw [← herases version]
    refine ⟨hlookup, ?_, ?_⟩
    · rw [(hsound version).erases, hinput, Option.map_some]
    · rw [(hsound version).erases, houtput, Option.map_some]
  have hfound : (later.foldl SharedRegistry.afterUse registry version).queries.lookup key = some types := by
    have hlast := (CodecRegistry.prepares_foldl_afterUse hprepares hlater).lookup_eq
    rw [← hsame version] at hlast
    exact hlast
  have hquery : ((later.foldl SharedRegistry.afterUse registry version).query? key).1 =
      some (types, input, output) := by
    rw [SharedCache.query?_eq, hfound]
    dsimp only
    rw [hkept version _ _ hinput, hkept version _ _ houtput]
  exact congrArg RegistryAnswer.prepared hquery

/-- Two builds of types under which their codecs are kept make a query, once it is recorded, that is found with
just these codecs, until other types are recorded under its key. -/
theorem Sound.lookup_of_builds (hsound : registry.Sound) (herases : registry.ErasesTo values)
    {b b' : BuildRequest} {c c' : SharedCodec} {key : UInt64} {types : QueryTypes}
    (hversion : b'.version = b.version) (hb : (registry.use (.build b)).1 = .built (.ok c))
    (hb' : ((registry.afterUse (.build b)).use (.build b')).1 = .built (.ok c'))
    (hinput : b.keptUnder? (registry b.version).erase = some types.inputId)
    (houtput : b'.keptUnder? (registry.afterUse (.build b) b.version).erase = some types.outputId)
    {later : List RegistryUse}
    (hlater : ∀ types', .record b.version key types' ∈ later → types' = types) :
    let built := (registry.afterUse (.build b)).afterUse (.build b')
    ((later.foldl SharedRegistry.afterUse (built.afterUse (.record b.version key types))).use
      (.lookup b.version key)).1 = .prepared (some (types, c, c')) := by
  intro built
  obtain ⟨id, hid, hget⟩ := hsound.kept_of_build hb
  obtain rfl : types.inputId = id := Option.some.inj (hinput.symm.trans hid)
  obtain ⟨hfirst, -⟩ := hsound.afterUse (.build b)
  obtain ⟨id', hid', hget'⟩ := hfirst.kept_of_build hb'
  rw [hversion] at hid' hget'
  obtain rfl : types.outputId = id' := Option.some.inj (houtput.symm.trans hid')
  obtain ⟨hsecond, hkept⟩ := hfirst.afterUse (.build b')
  obtain ⟨hthird, hrecorded⟩ := hsecond.afterUse (.record b.version key types)
  have hsame := (hfirst.erase_use (hsound.erase_use herases (.build b)).2 (.build b')).2
  have hcache : built.afterUse (.record b.version key types) b.version =
      (built b.version).updateQuery key types :=
    (afterUse_apply ..).trans (if_pos rfl)
  have hlookup : (built.afterUse (.record b.version key types) b.version).queries.lookup key = some types := by
    rw [hcache, SharedCache.updateQuery, List.lookup_cons_self]
  exact hthird.lookup_of_get? (hsecond.erase_use hsame _).2 hlookup
    (hrecorded _ _ _ (hkept _ _ _ hget)) (hrecorded _ _ _ hget') hlater

/-- What a build gives is kept as the same codec. After any uses of a registry, what a build gives is found under
the type that it is kept under, and every later build of this type gives it again. Two builds of types under
which their codecs are kept make a query, once it is recorded, that is found with just these codecs, until other
types are recorded under its key. -/
theorem found_of_build (history : List RegistryUse) :
    let registry := history.foldl afterUse empty
    (∀ b c, (registry.use (.build b)).1 = .built (.ok c) →
      ∃ id, b.keptUnder? (registry b.version).erase = some id ∧ ∀ later : List RegistryUse,
        let last := later.foldl afterUse (registry.afterUse (.build b))
        (last.use (.get b.version id)).1 = .found (some c) ∧
          ∀ descriptors, (last.use (.build ⟨b.version, id, descriptors⟩)).1 = .built (.ok c)) ∧
    ∀ b b' c c' key types,
      let registry' := registry.afterUse (.build b)
      b'.version = b.version →
      (registry.use (.build b)).1 = .built (.ok c) → (registry'.use (.build b')).1 = .built (.ok c') →
      b.keptUnder? (registry b.version).erase = some types.inputId →
      b'.keptUnder? (registry' b.version).erase = some types.outputId →
      ∀ later : List RegistryUse, (∀ types', .record b.version key types' ∈ later → types' = types) →
        let recorded := (registry'.afterUse (.build b')).afterUse (.record b.version key types)
        ((later.foldl afterUse recorded).use (.lookup b.version key)).1 = .prepared (some (types, c, c')) := by
  intro registry
  have hempty : empty.Sound := fun _ => SharedCache.sound_empty
  obtain ⟨hsound, -⟩ := hempty.foldl_afterUse history
  have herases := hempty.erasesTo_foldl_afterUse erasesTo_empty history
  refine ⟨fun b c hb => ?_, fun b b' c c' key types hversion hb hb' hinput houtput later hlater =>
    hsound.lookup_of_builds herases hversion hb hb' hinput houtput hlater⟩
  obtain ⟨id, hid, hget⟩ := hsound.kept_of_build hb
  refine ⟨id, hid, fun later => ?_⟩
  obtain ⟨hfound, hbuilt, -⟩ := (hsound.afterUse (.build b)).1.stable hget later
  exact ⟨hfound, hbuilt⟩

end SharedRegistry

end GelClient
