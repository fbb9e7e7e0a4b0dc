import GelClient.Connection.Basic
import GelClient.Proofs.Schema.QueryKey
import GelClient.Proofs.Schema.Registry

/-!
# Where a build keeps its codec

A build answers with the codec that is kept under the type it is asked for. When there is none, it
answers with the codec of the last descriptor that makes one, and keeps that codec under the type of this
descriptor. The descriptors of a type end with its own, and then both are one type. Wherever a codec is
kept, it is found again by every later use of the registry, and the types of a query that were recorded
with their descriptions lead back to the codecs that the descriptions made.
-/

namespace GelClient

open Actions

/-- The type under which a build keeps the codec that it gives: the one asked for if it is known, or else
that of the last descriptor that makes a codec. -/
def BuildRequest.keptUnder? (b : BuildRequest) (cache : CodecCache) : Option Uuid :=
  if (cache.get? b.rootId).isSome then some b.rootId
  else match Descriptor.parse b.version b.descriptors with
    | .ok ds => (ds.filter (·.kind.hasCodec)).getLast?.map (·.id)
    | .error _ => none

/-- The types of a prepared query and what the server said about it. -/
def PreparedQuery.types (p : PreparedQuery) : QueryTypes :=
  ⟨p.inputId, p.outputId, p.cardinality, p.capabilities⟩

namespace CodecCache

variable {cache cache' : CodecCache}

/-- What becomes of a descriptor is kept under its type. -/
theorem get?_of_resolve {built : BuiltCodecs} {d : Descriptor} {c : Codec}
    (h : resolve built d cache = .ok c cache') : cache'.get? d.id = some c := by
  rw [resolve_apply] at h
  cases hget : cache.get? d.id with
  | some c' =>
    rw [hget] at h
    cases h
    exact hget
  | none =>
    rw [hget] at h
    cases hconstruct : built.construct d with
    | ok c' =>
      rw [hconstruct] at h
      cases h
      exact get?_insert_self cache d.id c
    | error e =>
      rw [hconstruct] at h
      cases h

/-- What becomes of some descriptors is kept under the type of the last one that makes a codec. -/
theorem get?_of_buildAll {built : BuiltCodecs} {root r : Option Codec} {ds : List Descriptor}
    (h : buildAll built root ds cache = .ok r cache') :
    r = ((ds.filter (·.kind.hasCodec)).getLast?.map (·.id)).elim root cache'.get? := by
  induction ds generalizing built root cache with
  | nil =>
    cases h
    rfl
  | cons d ds ih =>
    unfold buildAll at h
    cases hcodec : d.kind.hasCodec with
    | true =>
      rw [hcodec, if_pos rfl] at h
      obtain ⟨c, cache₁, hresolve, hrest⟩ := bind_eq_ok.mp h
      have hlast := ih hrest
      have hkept := keptIn_buildAll (built.push (some c)) (some c) ds cache₁
      have hfilter : (d :: ds).filter (·.kind.hasCodec) = d :: ds.filter (·.kind.hasCodec) :=
        List.filter_cons_of_pos hcodec
      rw [hrest] at hkept
      rw [hfilter, List.getLast?_cons]
      cases hds : (ds.filter (·.kind.hasCodec)).getLast? with
      | none =>
        rw [hds] at hlast
        rw [hlast]
        exact (hkept d.id c (get?_of_resolve hresolve)).symm
      | some e =>
        rw [hds] at hlast
        exact hlast
    | false =>
      have hfilter : (d :: ds).filter (·.kind.hasCodec) = ds.filter (·.kind.hasCodec) :=
        List.filter_cons_of_neg (by rw [hcodec]; exact Bool.false_ne_true)
      rw [hcodec, if_neg Bool.false_ne_true] at h
      rw [hfilter]
      exact ih h

/-- What a build gives is found under the type that it is kept under. -/
theorem get?_of_run {b : BuildRequest} {c : Codec} (h : b.run cache = .ok c cache') :
    ∃ id, b.keptUnder? cache = some id ∧ cache'.get? id = some c := by
  unfold BuildRequest.keptUnder?
  cases hroot : cache.get? b.rootId with
  | some c' =>
    rw [TypeAssignment.run_of_get?_eq_some hroot] at h
    cases h
    exact ⟨b.rootId, rfl, hroot⟩
  | none =>
    rw [TypeAssignment.run_of_get?_eq_none hroot] at h
    cases hparse : Descriptor.parse b.version b.descriptors with
    | error e =>
      rw [hparse] at h
      cases h
    | ok ds =>
      rw [hparse] at h
      dsimp only at h
      split at h
      next c' cache₁ hall =>
        cases h
        have hlast := get?_of_buildAll hall
        rw [Option.isSome_none, if_neg Bool.false_ne_true]
        dsimp only
        cases hid : (ds.filter (·.kind.hasCodec)).getLast?.map (·.id) with
        | none =>
          rw [hid] at hlast
          cases hlast
        | some id =>
          rw [hid] at hlast
          exact ⟨id, rfl, hlast.symm⟩
      all_goals cases h

/-- Whatever becomes of some descriptors, the recorded queries stay. -/
theorem queries_buildAll (built : BuiltCodecs) (root : Option Codec) (ds : List Descriptor)
    (cache : CodecCache) : (final (buildAll built root ds cache)).queries = cache.queries := by
  induction ds generalizing built root cache with
  | nil => rfl
  | cons d ds ih =>
    have hresolve : (final (resolve built d cache)).queries = cache.queries := by
      rw [resolve_apply]
      cases cache.get? d.id with
      | some c => rfl
      | none => cases built.construct d <;> rfl
    unfold buildAll
    split
    · refine final_bind (p := fun cache' : CodecCache => cache'.queries = cache.queries) hresolve ?_
      intro c cache' hd
      rw [hd] at hresolve
      exact (ih _ _ cache').trans hresolve
    · exact ih _ _ cache

/-- Whatever becomes of a build, the codecs that were cached stay, and so do the recorded queries. -/
theorem keptIn_run (b : BuildRequest) (cache : CodecCache) :
    cache.KeptIn (final (b.run cache)) ∧ (final (b.run cache)).queries = cache.queries := by
  cases hroot : cache.get? b.rootId with
  | some c =>
    rw [TypeAssignment.run_of_get?_eq_some hroot]
    exact ⟨.refl cache, rfl⟩
  | none =>
    rw [TypeAssignment.run_of_get?_eq_none hroot]
    cases Descriptor.parse b.version b.descriptors with
    | error e => exact ⟨.refl cache, rfl⟩
    | ok ds =>
      have hkept := keptIn_buildAll #[] none ds cache
      have hqueries := queries_buildAll #[] none ds cache
      dsimp only
      split
      all_goals
        next hall =>
          rw [hall] at hkept hqueries
          exact ⟨hkept, hqueries⟩

/-- Looking up a query leaves the codecs as they are. -/
theorem get?_query? (cache : CodecCache) (key : UInt64) (id : Uuid) :
    (cache.query? key).2.get? id = cache.get? id := by
  unfold query?
  split
  · rfl
  · split <;> rfl

/-- The types of a query are recorded, and both have codecs. -/
structure Prepares (cache : CodecCache) (key : UInt64) (p : PreparedQuery) : Prop where
  lookup_eq : cache.queries.lookup key = some p.types
  input_eq : cache.get? p.inputId = some p.input
  output_eq : cache.get? p.outputId = some p.output

variable {key : UInt64} {p : PreparedQuery}

/-- A query that is prepared is found, and nothing is dropped. -/
theorem Prepares.query?_eq (h : cache.Prepares key p) : cache.query? key = (some p, cache) := by
  unfold query?
  rw [h.lookup_eq]
  dsimp only [PreparedQuery.types]
  rw [h.input_eq, h.output_eq]

/-- A query stays prepared where its codecs and its entry stay. -/
theorem Prepares.of_keptIn (h : cache.Prepares key p) (hkept : cache.KeptIn cache')
    (hqueries : cache'.queries.lookup key = cache.queries.lookup key) : cache'.Prepares key p where
  lookup_eq := hqueries.trans h.lookup_eq
  input_eq := hkept _ _ h.input_eq
  output_eq := hkept _ _ h.output_eq

/-- A query stays prepared when types are recorded, under its key only its own ones. -/
theorem Prepares.updateQuery (h : cache.Prepares key p) {key' : UInt64} {types : QueryTypes}
    (htypes : key' = key → types = p.types) : (cache.updateQuery key' types).Prepares key p := by
  by_cases hkey : key = key'
  · obtain rfl := htypes hkey.symm
    subst hkey
    exact ⟨List.lookup_cons_self, h.input_eq, h.output_eq⟩
  · refine h.of_keptIn (fun _ _ hc => hc) ?_
    have hother : (key == key') = false := beq_eq_false_iff_ne.mpr hkey
    rw [CodecCache.updateQuery, List.lookup_cons, hother]
    exact lookup_filter_of_ne hkey cache.queries

/-- A query stays prepared when any query is looked up. -/
theorem Prepares.query? (h : cache.Prepares key p) (key' : UInt64) :
    (cache.query? key').2.Prepares key p := by
  by_cases hkey : key = key'
  · subst hkey
    rw [h.query?_eq]
    exact h
  · unfold CodecCache.query?
    split
    · exact h
    · split
      · exact h
      · exact h.of_keptIn (fun _ _ hc => hc) (lookup_filter_of_ne hkey cache.queries)

end CodecCache

/-- Builds the codec that is asked for in its version. -/
def BuildRequest.runIn (b : BuildRequest) : CodecRegistry.Action Codec :=
  CodecRegistry.build b.version b.rootId b.descriptors

/-- A use of a registry: a codec is built, looked up or bound to a target, or the types of a query are
recorded or looked up. -/
inductive RegistryUse where
  | build (b : BuildRequest)
  | get (version : ProtocolVersion) (id : Uuid)
  | bind (version : ProtocolVersion) (target : ObjectTarget) (id : Uuid)
  | record (version : ProtocolVersion) (key : UInt64) (types : QueryTypes)
  | lookup (version : ProtocolVersion) (key : UInt64)

namespace CodecRegistry

/-- The registry after a use, whatever came of it. -/
def afterUse (registry : CodecRegistry) : RegistryUse → CodecRegistry
  | .build b => final (b.runIn registry)
  | .get .. | .bind .. => registry
  | .record version key types => registry.updateQuery version key types
  | .lookup version key => (registry.query? version key).2

/-- A version has the cache that was put there, and the other versions have those that they had. -/
theorem cache_withCache (registry : CodecRegistry) (version version' : ProtocolVersion)
    (cache : CodecCache) : (registry.withCache version cache).cache version' =
      if version' = version then cache else registry.cache version' := by
  by_cases h : version' = version
  · rw [if_pos h, h, CodecRegistry.cache, withCache, List.lookup_cons_self, Option.getD_some]
  · have hother : (version' == version) = false := beq_eq_false_iff_ne.mpr h
    rw [if_neg h, CodecRegistry.cache, withCache, List.lookup_cons, hother,
      CodecCache.lookup_filter_of_ne h]
    rfl

/-- A build in a registry is a build in the cache of its version. -/
theorem afterUse_build (registry : CodecRegistry) (b : BuildRequest) : registry.afterUse (.build b) =
    registry.withCache b.version (final (b.run (registry.cache b.version))) := by
  rw [afterUse, BuildRequest.runIn, CodecRegistry.build, onCache, BuildRequest.run]
  cases CodecCache.build b.version b.rootId b.descriptors (registry.cache b.version) <;> rfl

/-- What holds of the cache of a version holds after another cache was put somewhere, if it holds of that
one when it was put there. -/
theorem of_withCache {P : CodecCache → Prop} {registry : CodecRegistry}
    {version version' : ProtocolVersion} {cache : CodecCache} (h : P (registry.cache version'))
    (hcache : version = version' → P cache) : P ((registry.withCache version cache).cache version') := by
  rw [cache_withCache]
  split
  next hversion => exact hcache hversion.symm
  next => exact h

/-- What every use of a cache preserves is preserved by a use of the registry. -/
theorem of_afterUse {P : CodecCache → Prop} {version : ProtocolVersion} {use : RegistryUse}
    (hrun : ∀ b cache, P cache → P (final (BuildRequest.run b cache)))
    (hrecord : ∀ key types cache, use = .record version key types → P cache →
      P (cache.updateQuery key types))
    (hlookup : ∀ key cache, P cache → P (cache.query? key).2) {registry : CodecRegistry}
    (h : P (registry.cache version)) : P ((registry.afterUse use).cache version) := by
  cases use with
  | build b =>
    rw [afterUse_build]
    refine of_withCache h ?_
    rintro rfl
    exact hrun b _ h
  | get | bind => exact h
  | record version' key types =>
    refine of_withCache h ?_
    rintro rfl
    exact hrecord key types _ rfl h
  | lookup version' key =>
    refine of_withCache h ?_
    rintro rfl
    exact hlookup key _ h

/-- What every use of a cache preserves holds after any number of uses of the registry. -/
theorem of_foldl_afterUse {P : CodecCache → Prop} {version : ProtocolVersion} {uses : List RegistryUse}
    (hrun : ∀ b cache, P cache → P (final (BuildRequest.run b cache)))
    (hrecord : ∀ key types cache, .record version key types ∈ uses → P cache →
      P (cache.updateQuery key types))
    (hlookup : ∀ key cache, P cache → P (cache.query? key).2) {registry : CodecRegistry}
    (h : P (registry.cache version)) : P ((uses.foldl afterUse registry).cache version) := by
  induction uses generalizing registry with
  | nil => exact h
  | cons use uses ih =>
    have hfirst : P ((registry.afterUse use).cache version) := by
      refine of_afterUse hrun (fun key types cache huse hP => ?_) hlookup h
      exact hrecord key types cache (huse ▸ List.mem_cons_self) hP
    exact ih (fun key types cache hmem => hrecord key types cache (List.mem_cons_of_mem use hmem)) hfirst

/-- A codec is found again after any number of uses. -/
theorem get?_foldl_afterUse {registry : CodecRegistry} {version : ProtocolVersion} {id : Uuid} {c : Codec}
    (h : registry.get? version id = some c) (uses : List RegistryUse) :
    (uses.foldl afterUse registry).get? version id = some c := by
  refine of_foldl_afterUse (P := fun cache => cache.get? id = some c) ?_ ?_ ?_ h
  · exact fun b cache hc => (CodecCache.keptIn_run b cache).1 id c hc
  · exact fun _ _ _ _ hc => hc
  · exact fun key cache hc => (CodecCache.get?_query? cache key id).trans hc

/-- A query stays prepared while only its own types are recorded under its key. -/
theorem prepares_foldl_afterUse {registry : CodecRegistry} {version : ProtocolVersion} {key : UInt64}
    {p : PreparedQuery} (h : (registry.cache version).Prepares key p) {uses : List RegistryUse}
    (huses : ∀ types, .record version key types ∈ uses → types = p.types) :
    ((uses.foldl afterUse registry).cache version).Prepares key p := by
  refine of_foldl_afterUse (P := fun cache => cache.Prepares key p) ?_ ?_ ?_ h
  · intro b cache hp
    obtain ⟨hkept, hqueries⟩ := CodecCache.keptIn_run b cache
    exact hp.of_keptIn hkept (by rw [hqueries])
  · intro key' types cache hmem hp
    refine hp.updateQuery fun hkey => huses types ?_
    rwa [hkey] at hmem
  · exact fun key' cache hp => hp.query? key'

/-- What a build gives is found under the type that it is kept under. -/
theorem get?_of_runIn {registry built : CodecRegistry} {b : BuildRequest} {c : Codec}
    (h : b.runIn registry = .ok c built) : ∃ id, b.keptUnder? (registry.cache b.version) = some id ∧
      built.get? b.version id = some c := by
  rw [BuildRequest.runIn, CodecRegistry.build, onCache] at h
  split at h
  next c' cache hrun =>
    cases h
    obtain ⟨id, hid, hget⟩ := CodecCache.get?_of_run (b := b) hrun
    refine ⟨id, hid, ?_⟩
    rw [get?, cache_withCache, if_pos rfl, hget]
  next => cases h

/-- A build of a type that is known gives its codec, whatever descriptors come with it. -/
theorem build_of_get? {registry : CodecRegistry} {version : ProtocolVersion} {id : Uuid} {c : Codec}
    (h : registry.get? version id = some c) (descriptors : Bytes) :
    ∃ registry', CodecRegistry.build version id descriptors registry = .ok c registry' := by
  have hrun : BuildRequest.run ⟨version, id, descriptors⟩ (registry.cache version) =
      .ok c (registry.cache version) := TypeAssignment.run_of_get?_eq_some h
  rw [BuildRequest.run] at hrun
  rw [CodecRegistry.build, onCache, hrun]
  exact ⟨_, rfl⟩

end CodecRegistry

namespace CommandDataDescription

/-- What a description asks for to get the codec of the arguments. -/
def inputRequest (d : CommandDataDescription) (version : ProtocolVersion) : BuildRequest :=
  ⟨version, d.inputTypeId, d.inputDescriptors⟩

/-- What a description asks for to get the codec of the results. -/
def outputRequest (d : CommandDataDescription) (version : ProtocolVersion) : BuildRequest :=
  ⟨version, d.outputTypeId, d.outputDescriptors⟩

end CommandDataDescription

namespace Connection

variable {connection connection' : Connection} {key : UInt64} {d : CommandDataDescription}
  {p : PreparedQuery}

/-- An action on the codecs succeeds as it does there. -/
theorem onRegistry_eq_ok {α : Type} {x : CodecRegistry.Action α} {a : α}
    (h : onRegistry x connection = .ok a connection') :
    ∃ registry, x connection.registry = .ok a registry ∧
      connection' = { connection with registry } := by
  unfold onRegistry at h
  split at h
  next b registry hx =>
    cases h
    exact ⟨registry, hx, rfl⟩
  next => cases h

/-- A description is applied by building its two codecs, first that of the arguments, and recording their
types. -/
theorem applyDescription_eq_ok (h : applyDescription key d connection = .ok p connection') :
    ∃ registry registry', (d.inputRequest connection.version).runIn connection.registry =
        .ok p.input registry ∧
      (d.outputRequest connection.version).runIn registry = .ok p.output registry' ∧
      connection'.registry = registry'.updateQuery connection.version key p.types ∧
      p.inputId = d.inputTypeId ∧ p.outputId = d.outputTypeId := by
  rw [applyDescription, get_bind_apply] at h
  obtain ⟨input, c₁, hinput, h⟩ := bind_eq_ok.mp h
  obtain ⟨output, c₂, houtput, h⟩ := bind_eq_ok.mp h
  obtain ⟨registry, hbuilt, rfl⟩ := onRegistry_eq_ok hinput
  obtain ⟨registry', hbuilt', rfl⟩ := onRegistry_eq_ok houtput
  rw [modify_bind_apply] at h
  cases h
  exact ⟨registry, registry', hbuilt, hbuilt', rfl, rfl, rfl⟩

/-- A query is prepared by its description if both codecs are kept under the types that it names. -/
theorem prepares_of_applyDescription (h : applyDescription key d connection = .ok p connection')
    (hinput : (d.inputRequest connection.version).keptUnder?
      (connection.registry.cache connection.version) = some d.inputTypeId)
    (houtput : (d.outputRequest connection.version).keptUnder?
      ((connection.registry.afterUse (.build (d.inputRequest connection.version))).cache
        connection.version) = some d.outputTypeId) :
    (connection'.registry.cache connection.version).Prepares key p := by
  obtain ⟨registry, registry', hin, hout, hregistry, hinputId, houtputId⟩ := applyDescription_eq_ok h
  have hafter : connection.registry.afterUse (.build (d.inputRequest connection.version)) = registry := by
    rw [CodecRegistry.afterUse, hin]
    rfl
  have hafter' : registry.afterUse (.build (d.outputRequest connection.version)) = registry' := by
    rw [CodecRegistry.afterUse, hout]
    rfl
  obtain ⟨id, hid, hgetin⟩ := CodecRegistry.get?_of_runIn hin
  obtain ⟨id', hid', hgetout⟩ := CodecRegistry.get?_of_runIn hout
  rw [hafter] at houtput
  obtain rfl := Option.some.inj (hid.symm.trans hinput)
  obtain rfl := Option.some.inj (hid'.symm.trans houtput)
  -- The codec of the arguments is still there after the other build.
  have hkept : registry'.get? connection.version d.inputTypeId = some p.input := by
    rw [← hafter']
    exact CodecRegistry.get?_foldl_afterUse hgetin [.build (d.outputRequest connection.version)]
  rw [hregistry, CodecRegistry.updateQuery, CodecRegistry.cache_withCache, if_pos rfl]
  refine ⟨List.lookup_cons_self, ?_, ?_⟩
  · rw [hinputId]
    exact hkept
  · rw [houtputId]
    exact hgetout

end Connection

namespace CodecRegistry

/-- What a build gives is kept. After any uses of a registry, a build that succeeds leaves its codec under
the type that it is kept under, which is the one asked for if that is known or if the descriptors end with
its own; there it is found right afterwards, and every later build of this type gives it again, whatever
descriptors come with it. So a description that names the types under which its codecs are kept leads,
until other types are recorded under its key, back to the codecs that it made. -/
theorem get?_of_build (history : List RegistryUse) :
    let registry := history.foldl afterUse .empty
    (∀ (b : BuildRequest) (c : Codec) (built : CodecRegistry), b.runIn registry = .ok c built →
      ∃ id, b.keptUnder? (registry.cache b.version) = some id ∧ built.get? b.version id = some c ∧
        ∀ (later : List RegistryUse) (descriptors : Bytes), ∃ last,
          CodecRegistry.build b.version id descriptors (later.foldl afterUse built) = .ok c last) ∧
    ∀ (connection connection' : Connection) (key : UInt64) (d : CommandDataDescription)
      (p : PreparedQuery), connection.registry = registry →
      Connection.applyDescription key d connection = .ok p connection' →
      (d.inputRequest connection.version).keptUnder? (registry.cache connection.version) =
        some d.inputTypeId →
      (d.outputRequest connection.version).keptUnder?
        ((registry.afterUse (.build (d.inputRequest connection.version))).cache connection.version) =
          some d.outputTypeId →
      ∀ later : List RegistryUse,
        (∀ types, .record connection.version key types ∈ later → types = p.types) →
        ((later.foldl afterUse connection'.registry).query? connection.version key).1 = some p := by
  intro registry
  constructor
  · intro b c built hrun
    obtain ⟨id, hid, hget⟩ := get?_of_runIn hrun
    exact ⟨id, hid, hget, fun later descriptors => build_of_get? (get?_foldl_afterUse hget later) descriptors⟩
  · intro connection connection' key d p hregistry happly hinput houtput later hlater
    rw [← hregistry] at hinput houtput
    have hp := Connection.prepares_of_applyDescription happly hinput houtput
    rw [query?, (prepares_foldl_afterUse hp hlater).query?_eq]

/-- A registry that was asked in another version before. -/
def askedInV2 : CodecRegistry :=
  [RegistryUse.build ⟨.v2, ⟨0, 0xA1⟩, TypeAssignment.int32ArrayBytes⟩].foldl afterUse .empty

/-- A query without arguments that gives arrays. -/
def arrayDescription : CommandDataDescription :=
  ⟨[], .readOnly, .many, .nil, [], ⟨0, 0xA1⟩, TypeAssignment.int32ArrayBytes⟩

/-- The query with its codecs. -/
def preparedArray : PreparedQuery :=
  ⟨.nil, .null, ⟨0, 0xA1⟩, .array (.scalar .int32), .many, .readOnly⟩

/-- A connection that shares the registry. -/
def arrayConnection : Connection :=
  { stream := { socket := { reads := [] } }, registry := askedInV2, version := .v1, implicitLimit := 0 }

/-- An array is built from descriptors that end with its own; it is given by every later build, and a
query that was described with it is found with it. -/
theorem get?_of_build_array :
    (∃ built, TypeAssignment.int32ArrayRequest.runIn askedInV2 = .ok (.array (.scalar .int32)) built ∧
      ∀ (later : List RegistryUse) (descriptors : Bytes), ∃ last,
        CodecRegistry.build .v1 ⟨0, 0xA1⟩ descriptors (later.foldl afterUse built) =
          .ok (.array (.scalar .int32)) last) ∧
    ∃ connection', Connection.applyDescription 7 arrayDescription arrayConnection =
        .ok preparedArray connection' ∧
      ((([.build TypeAssignment.selfReference].foldl afterUse connection'.registry).query? .v1 7).1 =
        some preparedArray) := by
  obtain ⟨hbuild, hquery⟩ :=
    get?_of_build [.build ⟨.v2, ⟨0, 0xA1⟩, TypeAssignment.int32ArrayBytes⟩]
  constructor
  · obtain ⟨id, hid, -, hlater⟩ := hbuild TypeAssignment.int32ArrayRequest _ _ rfl
    have hkept : TypeAssignment.int32ArrayRequest.keptUnder? (askedInV2.cache .v1) = some ⟨0, 0xA1⟩ := rfl
    obtain rfl := Option.some.inj (hkept.symm.trans hid)
    exact ⟨_, rfl, hlater⟩
  · refine ⟨_, rfl, ?_⟩
    refine hquery arrayConnection _ 7 arrayDescription preparedArray rfl rfl rfl rfl _ ?_
    intro types htypes
    simp at htypes

/-- The descriptors of an array, followed by that of a scalar. -/
def strBehindArray : BuildRequest :=
  ⟨.v1, ⟨0, 0xA1⟩, TypeAssignment.int32ArrayBytes ++ [2] ++ Scalar.str.id.toBytes⟩

/-- What a build gives is not always kept under the type that was asked for. -/
theorem exists_build_of_other_type :
    ¬ ∀ (history : List RegistryUse) (b : BuildRequest) (c : Codec) (built : CodecRegistry),
      b.runIn (history.foldl afterUse .empty) = .ok c built →
        built.get? b.version b.rootId = some c ∧
          ∀ (later : List RegistryUse) (descriptors : Bytes), ∃ last,
            CodecRegistry.build b.version b.rootId descriptors (later.foldl afterUse built) =
              .ok c last := by
  intro h
  have hget := (h [] strBehindArray (.scalar .str) _ rfl).1
  cases hget

end CodecRegistry

end GelClient
