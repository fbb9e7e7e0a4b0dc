import GelClient.Proofs.Actions
import GelClient.Schema.Registry
import Mathlib.Data.List.Induction

/-!
# The cache of codecs is transparent

A cache holds what earlier builds made, those that failed included, and a build takes from it what it
finds. None of this can be seen in the results as long as a type identifier always stands for one
type. `TypeAssignment` gives the codec of every type, and a build is consistent with it if every
descriptor makes the codec of its type out of those of the types that it refers to. Then all that a
cache holds are codecs of their types, and it never refuses what an empty cache would build.
-/

namespace GelClient

open Actions

/-- The positions of the descriptors that a codec is made from. A scalar that derives from others
needs its base, or else its last ancestor. -/
def DescriptorKind.references : DescriptorKind → List UInt16
  | .set p | .array p _ | .range p | .multirange p => [p]
  | .objectShape elements | .inputShape elements => elements.map (·.position)
  | .scalar (some base) _ => [base]
  | .scalar none ancestors => ancestors.getLast?.toList
  | .tuple ps | .compound _ ps => ps
  | .namedTuple elements => elements.map (·.2)
  | .baseScalar | .enumeration _ | .objectType | .note => []

/-- The position of the codec that a scalar has in common with the one that it derives from. -/
def DescriptorKind.shared? : DescriptorKind → Option UInt16
  | .scalar (some base) _ => some base
  | .scalar none ancestors => ancestors.getLast?
  | _ => none

/-- The codecs that a codec owns. -/
def Codec.parts : Codec → List Codec
  | null | scalar _ | enumeration _ => []
  | array c | set c | range c | multirange c => [c]
  | tuple cs | compound _ cs => cs
  | namedTuple fields => fields.map (·.2)
  | object shape | sparseObject shape => shape.map (·.codec)

/-- A codec for every type, the right one for each type that every cache knows. -/
structure TypeAssignment where
  codec : Uuid → Codec
  codec_nil : codec .nil = .null
  codec_id (s : Scalar) : codec s.id = .scalar s

/-- What a codec is asked for with: its type and the descriptors that lead to it. -/
structure BuildRequest where
  version : ProtocolVersion
  rootId : Uuid
  descriptors : Bytes

/-- Builds the codec that is asked for. -/
def BuildRequest.run (b : BuildRequest) : CodecCache.Action Codec :=
  CodecCache.build b.version b.rootId b.descriptors

/-- The cache after a build, whatever came of it. -/
def CodecCache.after (cache : CodecCache) (b : BuildRequest) : CodecCache :=
  final (b.run cache)

namespace TypeAssignment

variable (U : TypeAssignment)

/-- The codecs of the types of some descriptors. -/
def built (ds : List Descriptor) : BuiltCodecs :=
  (ds.map fun d => if d.kind.hasCodec then some (U.codec d.id) else none).toArray

/-- Descriptors of a type that make the codecs of their types. A descriptor with a reference that
leads nowhere, and one that makes no codec for another reason, may have any type. -/
structure Describes (rootId : Uuid) (ds : List Descriptor) : Prop where
  codec_eq {front back : List Descriptor} {d : Descriptor} {c : Codec} : ds = front ++ d :: back →
    d.kind.hasCodec = true →
    (∀ p ∈ d.kind.references, ∃ e, front[p.toNat]? = some e ∧ e.kind.hasCodec = true) →
    (U.built front).construct d = .ok c → c = U.codec d.id
  root_eq {d : Descriptor} : (ds.filter (·.kind.hasCodec)).getLast? = some d → d.id = rootId

/-- A build whose descriptors, if they can be read, make the codecs of their types. -/
def Consistent (b : BuildRequest) : Prop :=
  ∀ ds, Descriptor.parse b.version b.descriptors = .ok ds → U.Describes b.rootId ds

/-- A cache that holds the codecs of their types. -/
def Agrees (cache : CodecCache) : Prop :=
  ∀ id c, cache.get? id = some c → c = U.codec id

end TypeAssignment

namespace BuiltCodecs

variable {α β γ : Type} {built : BuiltCodecs} {d : Descriptor} {c : Codec}

/-- A sequence of computations succeeds only if both do. -/
theorem bind_eq_ok {x : Except CodecError α} {f : α → Except CodecError β} {b : β}
    (h : (x >>= f) = .ok b) : ∃ a, x = .ok a ∧ f a = .ok b := by
  cases x with
  | error e => cases h
  | ok a => exact ⟨a, rfl, h⟩

/-- What holds of every item and what is made of it holds of the lists. -/
private theorem map_eq_of_mapM {f : α → Except CodecError β} {g : α → γ} {h : β → γ} {as : List α} {bs : List β}
    (hmap : as.mapM f = .ok bs) (hf : ∀ a b, f a = .ok b → g a = h b) : as.map g = bs.map h := by
  induction as generalizing bs with
  | nil =>
    cases hmap
    rfl
  | cons a as ih =>
    rw [List.mapM_cons] at hmap
    obtain ⟨b, ha, hmap⟩ := bind_eq_ok hmap
    obtain ⟨bs, has, hmap⟩ := bind_eq_ok hmap
    cases hmap
    rw [List.map_cons, List.map_cons, hf a b ha, ih has]

/-- A scalar that derives from another has the codec at its position. -/
theorem construct_of_shared? {p : UInt16} (h : d.kind.shared? = some p) :
    built.construct d = built.at? p := by
  unfold construct
  cases hd : d.kind with
  | scalar base ancestors =>
    rw [hd] at h
    cases base with
    | some base =>
      cases h
      rfl
    | none =>
      rw [DescriptorKind.shared?] at h
      dsimp only
      rw [h]
  | _ =>
    rw [hd] at h
    cases h

/-- A shape owns the codecs of its elements. -/
theorem map_at?_of_shape {elements : List ShapeDescriptor} {shape : ObjectShape}
    (h : built.shape elements = .ok shape) :
    (elements.map (·.position)).map built.at? = (shape.map (·.codec)).map .ok := by
  rw [List.map_map, List.map_map]
  refine map_eq_of_mapM h fun e element helement => ?_
  obtain ⟨c, hc, helement⟩ := bind_eq_ok helement
  cases helement
  exact hc

/-- A codec that is not that of another type owns those at the positions that its descriptor refers to. -/
theorem map_at?_of_construct (hshared : d.kind.shared? = none) (h : built.construct d = .ok c) :
    d.kind.references.map built.at? = c.parts.map .ok := by
  have hone {p : UInt16} {f : Codec → Codec} (hf : ∀ x, (f x).parts = [x])
      (h : (do return f (← built.at? p)) = Except.ok c) : [p].map built.at? = c.parts.map .ok := by
    obtain ⟨x, hx, h⟩ := bind_eq_ok h
    cases h
    rw [hf, List.map_singleton, List.map_singleton, hx]
  have hmany {ps : List UInt16} {f : List Codec → Codec} (hf : ∀ xs, (f xs).parts = xs)
      (h : (do return f (← ps.mapM built.at?)) = Except.ok c) : ps.map built.at? = c.parts.map .ok := by
    obtain ⟨xs, hxs, h⟩ := bind_eq_ok h
    cases h
    rw [hf]
    exact map_eq_of_mapM hxs fun _ _ hx => hx
  have hshape {elements : List ShapeDescriptor} {f : ObjectShape → Codec}
      (hf : ∀ shape, (f shape).parts = shape.map (·.codec))
      (h : (do return f (← built.shape elements)) = Except.ok c) :
      (elements.map (·.position)).map built.at? = c.parts.map .ok := by
    obtain ⟨shape, hs, h⟩ := bind_eq_ok h
    cases h
    rw [hf]
    exact map_at?_of_shape hs
  unfold construct at h
  cases hd : d.kind with
  | set p | range p | multirange p =>
    rw [hd] at h
    exact hone (fun _ => rfl) h
  | objectShape elements | inputShape elements =>
    rw [hd] at h
    exact hshape (fun _ => rfl) h
  | tuple ps | compound _ ps =>
    rw [hd] at h
    exact hmany (fun _ => rfl) h
  | array p dimensions =>
    simp only [hd] at h
    split at h
    · cases h
    · exact hone (fun _ => rfl) h
  | scalar base ancestors =>
    rw [hd] at hshared
    cases base with
    | some base => cases hshared
    | none =>
      rw [DescriptorKind.shared?] at hshared
      simp only [hd, hshared] at h
      cases h
  | namedTuple elements =>
    rw [hd] at h
    obtain ⟨fields, hfields, h⟩ := bind_eq_ok h
    cases h
    rw [DescriptorKind.references, Codec.parts, List.map_map, List.map_map]
    refine map_eq_of_mapM hfields fun e field hfield => ?_
    obtain ⟨x, hx, hfield⟩ := bind_eq_ok hfield
    cases hfield
    exact hx
  | baseScalar =>
    simp only [hd] at h
    split at h
    · cases h
      rfl
    · cases h
  | enumeration members =>
    rw [hd] at h
    cases h
    rfl
  | objectType | note =>
    rw [hd] at h
    cases h

/-- A scalar that derives from another refers to nothing else. -/
theorem references_of_shared? {p : UInt16} (h : d.kind.shared? = some p) : d.kind.references = [p] := by
  cases hd : d.kind with
  | scalar base ancestors =>
    rw [hd] at h
    cases base with
    | some base =>
      cases h
      rfl
    | none =>
      rw [DescriptorKind.shared?] at h
      rw [DescriptorKind.references, h]
      rfl
  | _ =>
    rw [hd] at h
    cases h

/-- A codec is made only if there is one at each position that its descriptor refers to. -/
theorem at?_of_construct (h : built.construct d = .ok c) :
    ∀ p ∈ d.kind.references, ∃ c, built.at? p = .ok c := by
  cases hshared : d.kind.shared? with
  | some p =>
    rw [construct_of_shared? hshared] at h
    rw [references_of_shared? hshared]
    exact List.forall_mem_singleton.mpr ⟨c, h⟩
  | none =>
    intro p hp
    have hmem : built.at? p ∈ c.parts.map .ok :=
      map_at?_of_construct hshared h ▸ List.mem_map_of_mem hp
    obtain ⟨part, -, hpart⟩ := List.mem_map.mp hmem
    exact ⟨part, hpart.symm⟩

end BuiltCodecs

namespace CodecCache

/-- Every codec of a cache is in another one under the same identifier. -/
def KeptIn (cache cache' : CodecCache) : Prop :=
  ∀ id c, cache.get? id = some c → cache'.get? id = some c

/-- A cache keeps its own codecs. -/
theorem KeptIn.refl (cache : CodecCache) : cache.KeptIn cache := fun _ _ h => h

/-- What is kept twice is kept. -/
theorem KeptIn.trans {cache cache' cache'' : CodecCache} (h : cache.KeptIn cache')
    (h' : cache'.KeptIn cache'') : cache.KeptIn cache'' :=
  fun id c hc => h' id c (h id c hc)

/-- The codecs under the other identifiers stay. -/
theorem get?_insert_of_ne {id id' : Uuid} (h : id' ≠ id) (cache : CodecCache) (codec : Codec) :
    (cache.insert id codec).get? id' = cache.get? id' := by
  rw [get?, get?, insert, List.lookup_cons, beq_eq_false_iff_ne.mpr h]

/-- A codec under a new identifier replaces nothing. -/
theorem keptIn_insert {cache : CodecCache} {id : Uuid} (h : cache.get? id = none) (codec : Codec) :
    cache.KeptIn (cache.insert id codec) := by
  intro id' c hc
  rw [get?_insert_of_ne _ cache codec, hc]
  rintro rfl
  rw [h] at hc
  cases hc

/-- What becomes of a descriptor: the cached codec, or else a new one that is cached. -/
theorem resolve_apply (built : BuiltCodecs) (d : Descriptor) (cache : CodecCache) :
    resolve built d cache = match cache.get? d.id, built.construct d with
      | some c, _ => .ok c cache
      | none, .ok c => .ok c (cache.insert d.id c)
      | none, .error e => .error e cache := by
  rw [resolve, get_bind_apply]
  cases cache.get? d.id with
  | some c => rfl
  | none => cases built.construct d <;> rfl

/-- Whatever becomes of a descriptor, the codecs that were cached stay. -/
theorem keptIn_resolve (built : BuiltCodecs) (d : Descriptor) (cache : CodecCache) :
    cache.KeptIn (final (resolve built d cache)) := by
  rw [resolve_apply]
  cases h : cache.get? d.id with
  | some c => exact .refl cache
  | none =>
    cases built.construct d with
    | ok c => exact keptIn_insert h c
    | error e => exact .refl cache

/-- Whatever becomes of some descriptors, the codecs that were cached stay. -/
theorem keptIn_buildAll (built : BuiltCodecs) (root : Option Codec) (ds : List Descriptor)
    (cache : CodecCache) : cache.KeptIn (final (buildAll built root ds cache)) := by
  induction ds generalizing built root cache with
  | nil => exact .refl cache
  | cons d ds ih =>
    unfold buildAll
    split
    · refine final_bind (keptIn_resolve built d cache) fun c cache' hd => ?_
      have hfirst := keptIn_resolve built d cache
      rw [hd] at hfirst
      exact hfirst.trans (ih _ _ cache')
    · exact ih _ _ cache

end CodecCache

namespace TypeAssignment

open CodecCache

variable {U : TypeAssignment}

/-- A descriptor that makes a codec adds the codec of its type. -/
theorem built_push_codec {d : Descriptor} (h : d.kind.hasCodec = true) (front : List Descriptor) :
    (U.built front).push (some (U.codec d.id)) = U.built (front ++ [d]) := by
  simp [built, h]

/-- A descriptor that makes no codec takes a position all the same. -/
theorem built_push_none {d : Descriptor} (h : d.kind.hasCodec = false) (front : List Descriptor) :
    (U.built front).push none = U.built (front ++ [d]) := by
  simp [built, h]

/-- A codec is found at the positions of descriptors that make one. -/
theorem hasCodec_of_at? {front : List Descriptor} {p : UInt16} {c : Codec}
    (h : (U.built front).at? p = .ok c) :
    ∃ e, front[p.toNat]? = some e ∧ e.kind.hasCodec = true := by
  unfold BuiltCodecs.at? at h
  rw [built, List.getElem?_toArray, List.getElem?_map] at h
  cases he : front[p.toNat]? with
  | none =>
    rw [he] at h
    cases h
  | some e =>
    refine ⟨e, rfl, ?_⟩
    cases hcodec : e.kind.hasCodec with
    | true => rfl
    | false =>
      rw [he, Option.map_some, hcodec] at h
      cases h

/-- What is made of a descriptor out of the codecs of the types before it is the codec of its type. -/
theorem Describes.codec_eq_of_construct {rootId : Uuid} {front back : List Descriptor}
    {d : Descriptor} {c : Codec} (h : U.Describes rootId (front ++ d :: back))
    (hd : d.kind.hasCodec = true) (hc : (U.built front).construct d = .ok c) : c = U.codec d.id := by
  refine h.codec_eq rfl hd (fun p hp => ?_) hc
  obtain ⟨_, hat⟩ := BuiltCodecs.at?_of_construct hc p hp
  exact hasCodec_of_at? hat

/-- An empty cache holds the codecs of their types. -/
theorem agrees_empty : U.Agrees .empty := by
  intro id c h
  rw [get?, Option.or_eq_some_iff] at h
  obtain h | ⟨-, h⟩ := h
  · rw [empty, List.lookup_cons] at h
    split at h
    next hid =>
      rw [eq_of_beq hid, U.codec_nil]
      exact (Option.some.inj h).symm
    next => cases h
  · obtain ⟨s, hs, rfl⟩ := Option.map_eq_some_iff.mp h
    have hid : s.id = id := eq_of_beq (List.find?_some (p := fun s : Scalar => s.id == id) hs)
    rw [← hid, U.codec_id]

/-- A cache still agrees with the codec of a type. -/
theorem Agrees.insert {cache : CodecCache} (h : U.Agrees cache) (id : Uuid) :
    U.Agrees (cache.insert id (U.codec id)) := by
  intro id' c hc
  by_cases hid : id' = id
  · rw [hid, get?_insert_self] at hc
    rw [hid, Option.some.inj hc]
  · rw [get?_insert_of_ne hid] at hc
    exact h id' c hc

/-- Whatever becomes of a descriptor, the cache still agrees, and a codec that comes of it is that of
its type. -/
theorem Agrees.resolve {cache : CodecCache} (h : U.Agrees cache) {built : BuiltCodecs}
    {d : Descriptor} (hd : ∀ c, built.construct d = .ok c → c = U.codec d.id) :
    U.Agrees (final (resolve built d cache)) ∧
      ∀ c cache', CodecCache.resolve built d cache = .ok c cache' → c = U.codec d.id := by
  rw [resolve_apply]
  cases hget : cache.get? d.id with
  | some c =>
    refine ⟨h, fun c' cache' hok => ?_⟩
    cases hok
    exact h _ _ hget
  | none =>
    cases hc : built.construct d with
    | ok c =>
      obtain rfl := hd c hc
      refine ⟨h.insert d.id, fun c' cache' hok => ?_⟩
      cases hok
      rfl
    | error e => exact ⟨h, nofun⟩

/-- Whatever becomes of descriptors that make the codecs of their types, the cache still agrees, and
the codec that comes of them is that of the last type. -/
theorem Agrees.buildAll {rootId : Uuid} {front ds : List Descriptor} {root : Option Codec}
    {cache : CodecCache} (hds : U.Describes rootId (front ++ ds)) (h : U.Agrees cache) :
    U.Agrees (final (buildAll (U.built front) root ds cache)) ∧
      ∀ r cache', CodecCache.buildAll (U.built front) root ds cache = .ok r cache' →
        r = ((ds.filter (·.kind.hasCodec)).getLast?.map fun d => U.codec d.id).or root := by
  induction ds generalizing front root cache with
  | nil =>
    refine ⟨h, fun r cache' hok => ?_⟩
    cases hok
    rfl
  | cons d ds ih =>
    have hassoc : front ++ d :: ds = (front ++ [d]) ++ ds := by simp
    unfold CodecCache.buildAll
    cases hcodec : d.kind.hasCodec with
    | true =>
      obtain ⟨hfirst, hvalue⟩ := h.resolve fun c => hds.codec_eq_of_construct hcodec
      rw [hassoc] at hds
      have hfilter : (d :: ds).filter (·.kind.hasCodec) = d :: ds.filter (·.kind.hasCodec) :=
        List.filter_cons_of_pos hcodec
      rw [if_pos rfl, hfilter]
      constructor
      · refine final_bind hfirst fun c cache' hd => ?_
        rw [hd] at hfirst
        rw [hvalue c cache' hd, built_push_codec hcodec]
        exact (ih hds hfirst).1
      · intro r cache'' hok
        obtain ⟨c, cache', hd, hok⟩ := bind_eq_ok.mp hok
        rw [hd] at hfirst
        rw [hvalue c cache' hd, built_push_codec hcodec] at hok
        rw [(ih hds hfirst).2 r cache'' hok, List.getLast?_cons]
        cases (ds.filter (·.kind.hasCodec)).getLast? <;> rfl
    | false =>
      rw [hassoc] at hds
      have hfilter : (d :: ds).filter (·.kind.hasCodec) = ds.filter (·.kind.hasCodec) :=
        List.filter_cons_of_neg (by rw [hcodec]; nofun)
      rw [if_neg nofun, built_push_none hcodec, hfilter]
      exact ih hds h

/-- What a cache makes of a descriptor is made as well by one that knows more. -/
theorem Agrees.resolve_of_keptIn {cache cache₁ warm : CodecCache} {built : BuiltCodecs}
    {d : Descriptor} {c : Codec} (hwarm : U.Agrees warm) (hkept : cache.KeptIn warm)
    (hd : ∀ c, built.construct d = .ok c → c = U.codec d.id) (hcache : U.Agrees cache)
    (h : CodecCache.resolve built d cache = .ok c cache₁) :
    ∃ warm₁, CodecCache.resolve built d warm = .ok c warm₁ ∧ cache₁.KeptIn warm₁ := by
  have hc : c = U.codec d.id := (hcache.resolve hd).2 c cache₁ h
  rw [resolve_apply] at h ⊢
  cases hget : cache.get? d.id with
  | some c' =>
    rw [hget] at h
    cases h
    rw [hkept d.id c hget]
    exact ⟨warm, rfl, hkept⟩
  | none =>
    rw [hget] at h
    cases hconstruct : built.construct d with
    | error e =>
      rw [hconstruct] at h
      cases h
    | ok c' =>
      rw [hconstruct] at h
      cases h
      cases hgetwarm : warm.get? d.id with
      | some c' =>
        obtain rfl : c' = c := (hwarm _ _ hgetwarm).trans hc.symm
        refine ⟨warm, rfl, fun id x hx => ?_⟩
        by_cases hid : id = d.id
        · rw [hid, get?_insert_self] at hx
          rw [hid, hgetwarm, hx]
        · rw [get?_insert_of_ne hid] at hx
          exact hkept id x hx
      | none =>
        refine ⟨_, rfl, fun id x hx => ?_⟩
        by_cases hid : id = d.id
        · rw [hid, get?_insert_self] at hx ⊢
          exact hx
        · rw [get?_insert_of_ne hid] at hx ⊢
          exact hkept id x hx

/-- What a cache makes of descriptors is made as well by one that knows more. -/
theorem Agrees.buildAll_of_keptIn {rootId : Uuid} {front ds : List Descriptor}
    {root r : Option Codec} {cache cache' warm : CodecCache} (hwarm : U.Agrees warm)
    (hds : U.Describes rootId (front ++ ds)) (hkept : cache.KeptIn warm) (hcache : U.Agrees cache)
    (h : CodecCache.buildAll (U.built front) root ds cache = .ok r cache') :
    ∃ warm', CodecCache.buildAll (U.built front) root ds warm = .ok r warm' := by
  induction ds generalizing front root cache warm with
  | nil =>
    cases h
    exact ⟨warm, rfl⟩
  | cons d ds ih =>
    have hassoc : front ++ d :: ds = (front ++ [d]) ++ ds := by simp
    unfold CodecCache.buildAll at h ⊢
    cases hcodec : d.kind.hasCodec with
    | true =>
      rw [hcodec, if_pos rfl] at h
      have hd (c : Codec) : (U.built front).construct d = .ok c → c = U.codec d.id :=
        hds.codec_eq_of_construct hcodec
      obtain ⟨c, cache₁, hresolve, hrest⟩ := bind_eq_ok.mp h
      obtain ⟨warm₁, hresolvewarm, hkept₁⟩ := hwarm.resolve_of_keptIn hkept hd hcache hresolve
      have hagrees := (hcache.resolve hd).1
      have hagreeswarm := (hwarm.resolve hd).1
      rw [hresolve] at hagrees
      rw [hresolvewarm] at hagreeswarm
      rw [(hcache.resolve hd).2 c cache₁ hresolve, built_push_codec hcodec] at hrest
      rw [if_pos rfl, bind_of_ok hresolvewarm, (hcache.resolve hd).2 c cache₁ hresolve,
        built_push_codec hcodec]
      rw [hassoc] at hds
      exact ih hagreeswarm hds hkept₁ hagrees hrest
    | false =>
      rw [hcodec, if_neg nofun, built_push_none hcodec] at h
      rw [if_neg nofun, built_push_none hcodec]
      rw [hassoc] at hds
      exact ih hwarm hds hkept hcache h

/-- A build on a cache with the type gives it and changes nothing. -/
theorem run_of_get?_eq_some {b : BuildRequest} {cache : CodecCache} {c : Codec}
    (h : cache.get? b.rootId = some c) : b.run cache = .ok c cache := by
  rw [BuildRequest.run, CodecCache.build, get_bind_apply, h]
  rfl

/-- A build on a cache without the type reads the descriptors and makes them all. -/
theorem run_of_get?_eq_none {b : BuildRequest} {cache : CodecCache}
    (h : cache.get? b.rootId = none) :
    b.run cache = match Descriptor.parse b.version b.descriptors with
      | .error e => .error e cache
      | .ok ds => match CodecCache.buildAll #[] none ds cache with
        | .ok (some c) cache' => .ok c cache'
        | .ok none cache' => .error (.malformedDescriptor .noRoot) cache'
        | .error e cache' => .error e cache' := by
  rw [BuildRequest.run, CodecCache.build, get_bind_apply, h]
  cases Descriptor.parse b.version b.descriptors with
  | error e => rfl
  | ok ds =>
    dsimp only
    cases hall : CodecCache.buildAll #[] none ds cache with
    | ok r cache' =>
      rw [bind_of_ok hall]
      cases r <;> rfl
    | error e cache' => exact bind_of_error hall

/-- Whatever becomes of a consistent build, the cache still agrees and keeps its codecs, and a codec
that comes of it is that of the type that was asked for. -/
theorem Agrees.run {cache : CodecCache} (h : U.Agrees cache) {b : BuildRequest}
    (hb : U.Consistent b) :
    U.Agrees (final (b.run cache)) ∧ cache.KeptIn (final (b.run cache)) ∧
      ∀ c cache', b.run cache = .ok c cache' → c = U.codec b.rootId := by
  cases hroot : cache.get? b.rootId with
  | some c =>
    rw [run_of_get?_eq_some hroot]
    refine ⟨h, .refl cache, fun c' cache' hok => ?_⟩
    cases hok
    exact h _ _ hroot
  | none =>
    rw [run_of_get?_eq_none hroot]
    cases hparse : Descriptor.parse b.version b.descriptors with
    | error e => exact ⟨h, .refl cache, nofun⟩
    | ok ds =>
      have hds : U.Describes b.rootId ([] ++ ds) := hb ds hparse
      have hkept := keptIn_buildAll #[] none ds cache
      obtain ⟨hagrees, hvalue⟩ : U.Agrees (final (CodecCache.buildAll #[] none ds cache)) ∧ _ :=
        h.buildAll hds
      dsimp only
      cases hall : CodecCache.buildAll #[] none ds cache with
      | error e cache' =>
        rw [hall] at hagrees hkept
        exact ⟨hagrees, hkept, nofun⟩
      | ok r cache' =>
        rw [hall] at hagrees hkept
        cases r with
        | none => exact ⟨hagrees, hkept, nofun⟩
        | some c =>
          refine ⟨hagrees, hkept, fun c' cache'' hok => ?_⟩
          cases hok
          have hlast := hvalue _ _ hall
          rw [Option.or_none] at hlast
          obtain ⟨d, hd, hc⟩ := Option.map_eq_some_iff.mp hlast.symm
          rw [← hc, hds.root_eq hd]

/-- A consistent build that succeeds on some cache succeeds with the same codec on one that knows
more. -/
theorem Agrees.run_of_keptIn {cache cache' warm : CodecCache} {b : BuildRequest} {c : Codec}
    (hwarm : U.Agrees warm) (hb : U.Consistent b) (hkept : cache.KeptIn warm)
    (hcache : U.Agrees cache) (h : b.run cache = .ok c cache') :
    ∃ warm', b.run warm = .ok c warm' := by
  have hc : c = U.codec b.rootId := (hcache.run hb).2.2 c cache' h
  cases hrootwarm : warm.get? b.rootId with
  | some c' =>
    obtain rfl : c' = c := (hwarm _ _ hrootwarm).trans hc.symm
    exact ⟨warm, run_of_get?_eq_some hrootwarm⟩
  | none =>
    have hroot : cache.get? b.rootId = none := by
      rw [Option.eq_none_iff_forall_ne_some]
      intro c' hc'
      rw [hkept _ _ hc'] at hrootwarm
      cases hrootwarm
    rw [run_of_get?_eq_none hroot] at h
    rw [run_of_get?_eq_none hrootwarm]
    cases hparse : Descriptor.parse b.version b.descriptors with
    | error e =>
      rw [hparse] at h
      cases h
    | ok ds =>
      have hds : U.Describes b.rootId ([] ++ ds) := hb ds hparse
      rw [hparse] at h
      dsimp only at h ⊢
      split at h
      next c' cache₁ hall =>
        cases h
        obtain ⟨warm', hallwarm⟩ :=
          hwarm.buildAll_of_keptIn hds hkept hcache hall
        change CodecCache.buildAll #[] none ds warm = .ok (some c) warm' at hallwarm
        rw [hallwarm]
        exact ⟨warm', rfl⟩
      all_goals cases h

/-- After any number of consistent builds a cache agrees, and it still knows what an empty one does. -/
theorem agrees_foldl_after {history : List BuildRequest} (h : ∀ b ∈ history, U.Consistent b) :
    U.Agrees (history.foldl CodecCache.after .empty) ∧
      CodecCache.empty.KeptIn (history.foldl CodecCache.after .empty) := by
  induction history using List.reverseRecOn with
  | nil => exact ⟨agrees_empty, .refl _⟩
  | append_singleton history b ih =>
    obtain ⟨hhistory, hb⟩ := List.forall_mem_append.mp h
    obtain ⟨hagrees, hkept⟩ := ih hhistory
    obtain ⟨hagrees', hkept', -⟩ := hagrees.run (hb b (List.mem_singleton_self b))
    rw [List.foldl_append, List.foldl_cons, List.foldl_nil]
    exact ⟨hagrees', hkept.trans hkept'⟩

/-- The cache is transparent. After any number of consistent builds, whatever came of them, every
codec that it holds is that of its type, and every consistent build that succeeds on an empty cache
succeeds on it with the same codec. -/
theorem run_after_consistent {history : List BuildRequest} (h : ∀ b ∈ history, U.Consistent b) :
    let cache := history.foldl CodecCache.after .empty
    (∀ id c, cache.get? id = some c → c = U.codec id) ∧
      ∀ b, U.Consistent b → ∀ c fresh, b.run .empty = .ok c fresh → ∃ warm, b.run cache = .ok c warm := by
  obtain ⟨hagrees, hkept⟩ := agrees_foldl_after h
  exact ⟨hagrees, fun b hb c fresh hrun => hagrees.run_of_keptIn hb hkept agrees_empty hrun⟩

/-- The well known scalars, and arrays of one of them. -/
def int32Array : TypeAssignment where
  codec id :=
    if id = ⟨0, 0xA1⟩ then .array (.scalar .int32)
    else ((Scalar.ofId? id).map .scalar).getD .null
  codec_nil := rfl
  codec_id s := by cases s <;> rfl

/-- Descriptors of an array: its scalar and itself. -/
def int32ArrayDescriptors : List Descriptor :=
  [⟨Scalar.int32.id, none, .baseScalar⟩, ⟨⟨0, 0xA1⟩, none, .array 0 [-1]⟩]

/-- The bytes of these descriptors. -/
def int32ArrayBytes : Bytes :=
  [2] ++ Scalar.int32.id.toBytes ++ [6] ++ (Uuid.mk 0 0xA1).toBytes ++ [0, 0, 0, 1, 255, 255, 255, 255]

/-- What is asked for to get the array. -/
def int32ArrayRequest : BuildRequest :=
  ⟨.v1, ⟨0, 0xA1⟩, int32ArrayBytes⟩

/-- The descriptors of the array in front of a set that refers to itself. -/
def selfReference : BuildRequest :=
  ⟨.v1, ⟨0, 0xB1⟩, int32ArrayBytes ++ [0] ++ (Uuid.mk 0 0xB1).toBytes ++ [0, 2]⟩

/-- The descriptors of the array make the codecs of their types. -/
private theorem consistent_int32ArrayRequest : int32Array.Consistent int32ArrayRequest := by
  intro ds hds
  have hparse : Descriptor.parse .v1 int32ArrayBytes = .ok int32ArrayDescriptors := rfl
  obtain rfl := Except.ok.inj (hparse.symm.trans hds)
  constructor
  · intro front back d c hsplit hd hrefs hc
    rcases front with _ | ⟨_, _ | ⟨_, front⟩⟩
    · cases hsplit
      cases hc
      rfl
    · cases hsplit
      cases hc
      rfl
    · simp [int32ArrayDescriptors] at hsplit
  · intro d hd
    cases hd
    rfl

/-- The set that refers to itself makes no codec. -/
private theorem consistent_selfReference : int32Array.Consistent selfReference := by
  intro ds hds
  have hparse : Descriptor.parse .v1 selfReference.descriptors =
      .ok (int32ArrayDescriptors ++ [⟨⟨0, 0xB1⟩, none, .set 2⟩]) := rfl
  obtain rfl := Except.ok.inj (hparse.symm.trans hds)
  constructor
  · intro front back d c hsplit hd hrefs hc
    rcases front with _ | ⟨_, _ | ⟨_, _ | ⟨_, front⟩⟩⟩
    · cases hsplit
      cases hc
      rfl
    · cases hsplit
      cases hc
      rfl
    · cases hsplit
      cases hc
    · simp [int32ArrayDescriptors] at hsplit
  · intro d hd
    cases hd
    rfl

/-- A build that failed left the array behind, which is then found in place of being made. -/
theorem run_after_consistent_selfReference :
    int32Array.Consistent selfReference ∧ int32Array.Consistent int32ArrayRequest ∧
      (CodecCache.empty.after selfReference).get? ⟨0, 0xB1⟩ = none ∧
      ∃ warm, int32ArrayRequest.run (CodecCache.empty.after selfReference) =
        .ok (.array (.scalar .int32)) warm := by
  have hhistory : ∀ b ∈ [selfReference], int32Array.Consistent b :=
    List.forall_mem_singleton.mpr consistent_selfReference
  have hrun := run_after_consistent hhistory
  exact ⟨consistent_selfReference, consistent_int32ArrayRequest, rfl,
    hrun.2 _ consistent_int32ArrayRequest _ _ rfl⟩

end TypeAssignment

end GelClient
