import GelClient.Codec.Object
import GelClient.Schema.Descriptor

/-!
# The codec registry

A registry keeps the codecs that were built from descriptors, one cache for each version of the
protocol, because servers may give one identifier different meanings in different versions. An
identifier keeps the codec that it was first built with. A build takes every descriptor whose
identifier is cached from the cache and constructs the others, caching each as it goes, so a
build that fails leaves behind the codecs that it finished.

A cache also remembers, under a key made of the query and of the requested shape of its result,
the types of queries that were compiled before.
-/

namespace GelClient

/-- The types of a compiled query and what the server said about it. -/
structure QueryTypes where
  inputId : Uuid
  outputId : Uuid
  cardinality : Cardinality
  capabilities : Capabilities
  deriving DecidableEq, Repr

/-- A compiled query with the codecs of its input and of its output. -/
structure PreparedQuery where
  inputId : Uuid
  input : Codec
  outputId : Uuid
  output : Codec
  cardinality : Cardinality
  capabilities : Capabilities

/-- The codecs and the compiled queries of one version, latest first. -/
structure CodecCache where
  codecs : List (Uuid × Codec) := [(Uuid.nil, .null)]
  queries : List (UInt64 × QueryTypes) := []

/-- The codecs of the descriptors before one, by position; none for those that make no codec. -/
abbrev BuiltCodecs := Array (Option Codec)

namespace BuiltCodecs

/-- The codec at a position that the descriptor at hand refers to. -/
def at? (built : BuiltCodecs) (position : UInt16) : Except CodecError Codec :=
  match built[position.toNat]? with
  | none => .error (.malformedDescriptor (.badReference built.size position.toNat))
  | some none => .error (.malformedDescriptor (.noCodecAt position.toNat))
  | some (some codec) => .ok codec

/-- The elements of a shape with their codecs. -/
def shape (built : BuiltCodecs) (elements : List ShapeDescriptor) :
    Except CodecError ObjectShape :=
  elements.mapM fun e => do
    let codec ← built.at? e.position
    return { name := e.name, codec, cardinality := e.cardinality, flags := e.flags }

/-- The codec of a descriptor over the codecs of those before it. A scalar that derives from
others has the codec of its base, or else of its last ancestor. -/
def construct (built : BuiltCodecs) (d : Descriptor) : Except CodecError Codec :=
  match d.kind with
  | .set element => return .set (← built.at? element)
  | .objectShape elements => return .object (← built.shape elements)
  | .inputShape elements => return .sparseObject (← built.shape elements)
  | .baseScalar =>
    match Scalar.ofId? d.id with
    | some s => return .scalar s
    | none => throw (.unknownScalar d.id)
  | .scalar (some base) _ => built.at? base
  | .scalar none ancestors =>
    match ancestors.getLast? with
    | some ancestor => built.at? ancestor
    | none => throw (.unknownScalar d.id)
  | .tuple elements => return .tuple (← elements.mapM built.at?)
  | .namedTuple elements =>
    return .namedTuple (← elements.mapM fun (name, position) => do
      return (name, ← built.at? position))
  | .array element dimensions => do
    if dimensions.length ≠ 1 then throw (.unsupportedDimensions dimensions.length)
    return .array (← built.at? element)
  | .enumeration members => return .enumeration members
  | .range element => return .range (← built.at? element)
  | .multirange element => return .multirange (← built.at? element)
  | .compound op components => return .compound op (← components.mapM built.at?)
  | .objectType | .note => throw (.malformedDescriptor .makesNoCodec)

end BuiltCodecs

namespace CodecCache

/-- A cache that knows the type without data and, as every cache, the well known scalars. -/
def empty : CodecCache := {}

/-- The codec of a type, if it is cached or a well known scalar. -/
def get? (cache : CodecCache) (id : Uuid) : Option Codec :=
  (cache.codecs.lookup id).or ((Scalar.ofId? id).map .scalar)

/-- The codec of a type that has to be known. -/
def find (cache : CodecCache) (id : Uuid) : Except CodecError Codec :=
  match cache.get? id with
  | some codec => .ok codec
  | none => .error (.missingCodec id)

/-- The cache with a codec for a type. -/
def insert (cache : CodecCache) (id : Uuid) (codec : Codec) : CodecCache :=
  { cache with codecs := (id, codec) :: cache.codecs }

/-- An action on a cache that can fail, keeping what was cached before the failure. -/
abbrev Action := EStateM CodecError CodecCache

/-- The codec of a descriptor, from the cache if its type is cached and else constructed and
cached. -/
def resolve (built : BuiltCodecs) (d : Descriptor) : Action Codec := do
  let cache ← get
  match cache.get? d.id with
  | some codec => return codec
  | none =>
    match built.construct d with
    | .ok codec =>
      set (cache.insert d.id codec)
      return codec
    | .error e => throw e

/-- Builds the codecs of descriptors in order and gives the last one, which is the given one if
no descriptor makes a codec. -/
def buildAll (built : BuiltCodecs) (root : Option Codec) : List Descriptor → Action (Option Codec)
  | [] => return root
  | d :: rest =>
    if d.kind.hasCodec then do
      let codec ← resolve built d
      buildAll (built.push (some codec)) (some codec) rest
    else buildAll (built.push none) root rest

/-- The codec of a type: the cached one, or else the last one that its descriptors make. -/
def build (version : ProtocolVersion) (rootId : Uuid) (descriptors : Bytes) : Action Codec := do
  match (← get).get? rootId with
  | some codec => return codec
  | none =>
    match Descriptor.parse version descriptors with
    | .error e => throw e
    | .ok parsed =>
      match ← buildAll #[] none parsed with
      | some codec => return codec
      | none => throw (.malformedDescriptor .noRoot)

/-- Remembers the types of a query. -/
def updateQuery (cache : CodecCache) (key : UInt64) (types : QueryTypes) : CodecCache :=
  { cache with queries := (key, types) :: cache.queries.filter (·.1 != key) }

/-- The types of a query with their codecs. An entry whose codecs are not known is dropped. -/
def query? (cache : CodecCache) (key : UInt64) : Option PreparedQuery × CodecCache :=
  match cache.queries.lookup key with
  | none => (none, cache)
  | some types =>
    match cache.get? types.inputId, cache.get? types.outputId with
    | some input, some output =>
      (some {
        inputId := types.inputId, input, outputId := types.outputId, output
        cardinality := types.cardinality, capabilities := types.capabilities }, cache)
    | _, _ => (none, { cache with queries := cache.queries.filter (·.1 != key) })

/-- The codec of a type bound to a target. -/
def bind (cache : CodecCache) (target : ObjectTarget) (id : Uuid) :
    Except CodecError BoundObject := do
  BoundObject.bind target (← cache.find id)

end CodecCache

/-- The caches of all versions that were asked for, latest first. -/
structure CodecRegistry where
  caches : List (ProtocolVersion × CodecCache) := []

namespace CodecRegistry

/-- A registry without a cache. -/
def empty : CodecRegistry := {}

/-- The cache of a version, which is empty until something is put into it. -/
def cache (registry : CodecRegistry) (version : ProtocolVersion) : CodecCache :=
  (registry.caches.lookup version).getD .empty

/-- The registry with a cache for a version. -/
def withCache (registry : CodecRegistry) (version : ProtocolVersion) (cache : CodecCache) :
    CodecRegistry :=
  { caches := (version, cache) :: registry.caches.filter (·.1 != version) }

/-- An action on a registry that can fail, keeping what was cached before the failure. -/
abbrev Action := EStateM CodecError CodecRegistry

/-- Runs an action on the cache of a version. -/
def onCache {α : Type} (version : ProtocolVersion) (action : CodecCache.Action α) : Action α :=
  fun registry =>
    match action (registry.cache version) with
    | .ok a cache => .ok a (registry.withCache version cache)
    | .error e cache => .error e (registry.withCache version cache)

/-- The codec of a type in a version. -/
def get? (registry : CodecRegistry) (version : ProtocolVersion) (id : Uuid) : Option Codec :=
  (registry.cache version).get? id

/-- The codec of a type in a version, which has to be known. -/
def find (registry : CodecRegistry) (version : ProtocolVersion) (id : Uuid) :
    Except CodecError Codec :=
  (registry.cache version).find id

/-- The codec of a type in a version: the cached one, or else the last one that its descriptors
make. -/
def build (version : ProtocolVersion) (rootId : Uuid) (descriptors : Bytes) : Action Codec :=
  onCache version (CodecCache.build version rootId descriptors)

/-- Remembers the types of a query in a version. -/
def updateQuery (registry : CodecRegistry) (version : ProtocolVersion) (key : UInt64)
    (types : QueryTypes) : CodecRegistry :=
  registry.withCache version ((registry.cache version).updateQuery key types)

/-- The types of a query in a version with their codecs. -/
def query? (registry : CodecRegistry) (version : ProtocolVersion) (key : UInt64) :
    Option PreparedQuery × CodecRegistry :=
  let (found, cache) := (registry.cache version).query? key
  (found, registry.withCache version cache)

/-- The codec of a type in a version bound to a target. -/
def bind (registry : CodecRegistry) (version : ProtocolVersion) (target : ObjectTarget)
    (id : Uuid) : Except CodecError BoundObject :=
  (registry.cache version).bind target id

end CodecRegistry

/-- The key of a query: a multiplicative hash of its characters, to which the bytes of the
requested multiplicity and encoding are added. -/
def queryKey (query : String) (cardinality : Cardinality) (format : IoFormat) : UInt64 :=
  let hash := query.toList.foldl
    (fun hash c => (hash + UInt64.ofNat c.toNat) * 3074457345618258799) 3074457345618258791
  hash + UInt64.ofNat cardinality.toByte.toNat + UInt64.ofNat format.toByte.toNat

/-- A codec that was put into a cache is found there. -/
@[simp]
theorem CodecCache.get?_insert_self (cache : CodecCache) (id : Uuid) (codec : Codec) :
    (cache.insert id codec).get? id = some codec := by
  simp [CodecCache.get?, CodecCache.insert]

end GelClient
