import GelClient.Schema.Registry
import Mathlib.Algebra.Group.Nat.Defs
import Mathlib.Data.List.Induction

/-!
# Which queries share a key

The key of a query is a hash of its text to which the bytes of the requested multiplicity and encoding
are added. So two shapes of one text have one key exactly if their bytes have one sum, which happens for
two pairs of shapes. A lookup finds what was recorded last under its key. For the text that is looked up
this was recorded for the same shape, or else for the other one of such a pair.
-/

namespace GelClient

/-- What is asked for of the result of a query. -/
structure ResultShape where
  cardinality : Cardinality
  format : IoFormat
  deriving DecidableEq, Repr

namespace ResultShape

/-- The key of a query of this shape. -/
def key (shape : ResultShape) (query : String) : UInt64 :=
  queryKey query shape.cardinality shape.format

/-- The sum of the bytes of a shape. -/
def weight (shape : ResultShape) : Nat :=
  shape.cardinality.toByte.toNat + shape.format.toByte.toNat

/-- Every shape. -/
def all : List ResultShape :=
  Cardinality.all.flatMap fun cardinality => IoFormat.all.map fun format => { cardinality, format }

/-- No shape is missing. -/
private theorem mem_all (shape : ResultShape) : shape ∈ all := by
  obtain ⟨cardinality, format⟩ := shape
  cases cardinality <;> cases format <;> decide

/-- The other shape that shares the keys of a shape, if there is one. -/
def alias? : ResultShape → Option ResultShape
  | ⟨.one, .none⟩ => some ⟨.atLeastOne, .binary⟩
  | ⟨.atLeastOne, .binary⟩ => some ⟨.one, .none⟩
  | ⟨.many, .jsonElements⟩ => some ⟨.atLeastOne, .json⟩
  | ⟨.atLeastOne, .json⟩ => some ⟨.many, .jsonElements⟩
  | _ => none

/-- Two shapes weigh the same exactly if they are one or share their keys. -/
theorem weight_eq_iff (a b : ResultShape) : a.weight = b.weight ↔ a = b ∨ a.alias? = some b := by
  have h : ∀ a ∈ all, ∀ b ∈ all, a.weight = b.weight ↔ a = b ∨ a.alias? = some b := by decide
  exact h a (mem_all a) b (mem_all b)

/-- The bytes of a shape have a small sum. -/
theorem weight_lt (shape : ResultShape) : shape.weight < 2 ^ 64 := by
  have hcardinality := shape.cardinality.toByte.toNat_lt
  have hformat := shape.format.toByte.toNat_lt
  unfold weight
  omega

/-- The bytes of a shape are added to what the text makes. -/
theorem exists_key_eq (query : String) :
    ∃ hash : UInt64, ∀ shape : ResultShape, shape.key query = hash + UInt64.ofNat shape.weight := by
  unfold key queryKey
  generalize query.toList.foldl _ _ = hash
  refine ⟨hash, fun shape => ?_⟩
  rw [weight, UInt64.ofNat_add, ← UInt64.add_assoc]

/-- Two shapes of one text have one key exactly if they are one or share their keys. -/
theorem key_eq_iff (query : String) (a b : ResultShape) :
    a.key query = b.key query ↔ a = b ∨ a.alias? = some b := by
  obtain ⟨hash, hkey⟩ := exists_key_eq query
  rw [hkey, hkey, ← weight_eq_iff, UInt64.add_right_inj, ← UInt64.toNat_inj,
    UInt64.toNat_ofNat_of_lt' a.weight_lt, UInt64.toNat_ofNat_of_lt' b.weight_lt]

end ResultShape

/-- A use of a cache for a query: its types are recorded, or they are looked up. -/
inductive QueryUse where
  | record (query : String) (shape : ResultShape) (types : QueryTypes)
  | lookup (query : String) (shape : ResultShape)

/-- The types were recorded for a query and a shape with a key, and no others with this key since. -/
def RecordedLast (history : List QueryUse) (key : UInt64) (query : String) (shape : ResultShape)
    (types : QueryTypes) : Prop :=
  ∃ front back, history = front ++ .record query shape types :: back ∧ shape.key query = key ∧
    ∀ query' shape' types', .record query' shape' types' ∈ back → shape'.key query' ≠ key

/-- What is recorded stays the last under its key while others are recorded or looked up. -/
theorem RecordedLast.append {history : List QueryUse} {key : UInt64} {query : String}
    {shape : ResultShape} {types : QueryTypes} (h : RecordedLast history key query shape types)
    {use : QueryUse} (huse : ∀ query' shape' types', use = .record query' shape' types' →
      shape'.key query' ≠ key) : RecordedLast (history ++ [use]) key query shape types := by
  obtain ⟨front, back, rfl, hkey, hback⟩ := h
  refine ⟨front, back ++ [use], by simp, hkey, ?_⟩
  intro query' shape' types' hmem
  rcases List.mem_append.mp hmem with hmem | hmem
  · exact hback query' shape' types' hmem
  · exact huse query' shape' types' (List.mem_singleton.mp hmem).symm

namespace CodecCache

/-- The cache after a use. -/
def afterUse (cache : CodecCache) : QueryUse → CodecCache
  | .record query shape types => cache.updateQuery (shape.key query) types
  | .lookup query shape => (cache.query? (shape.key query)).2

/-- Dropping the entries of a key leaves those of the other keys. -/
theorem lookup_filter_of_ne {α β : Type} [BEq α] [LawfulBEq α] {key key' : α} (h : key' ≠ key)
    (entries : List (α × β)) : (entries.filter (·.1 != key)).lookup key' = entries.lookup key' := by
  induction entries with
  | nil => rfl
  | cons entry entries ih =>
    obtain ⟨key₁, value⟩ := entry
    by_cases hkey : key₁ = key
    · have hne : (key' == key₁) = false := by rwa [hkey, beq_eq_false_iff_ne]
      rw [List.filter_cons_of_neg (by simp [hkey]), ih, List.lookup_cons, hne]
    · rw [List.filter_cons_of_pos (by simpa using hkey), List.lookup_cons, List.lookup_cons, ih]

/-- No entry of a key is left when its entries are dropped. -/
private theorem lookup_filter_self (key : UInt64) (entries : List (UInt64 × QueryTypes)) :
    (entries.filter (·.1 != key)).lookup key = none := by
  rw [List.lookup_eq_none_iff]
  intro entry hentry
  have hkey := (List.mem_filter.mp hentry).2
  rw [bne_iff_ne] at hkey
  rw [bne_iff_ne]
  exact hkey.symm

/-- A lookup takes an entry of the cache, or drops entries. -/
theorem lookup_of_query? {cache : CodecCache} {key key' : UInt64} {types : QueryTypes}
    (h : (cache.query? key).2.queries.lookup key' = some types) :
    cache.queries.lookup key' = some types := by
  unfold query? at h
  split at h
  · exact h
  · split at h
    · exact h
    · dsimp only at h
      by_cases hkey : key' = key
      · rw [hkey, lookup_filter_self] at h
        cases h
      · rwa [lookup_filter_of_ne hkey] at h

/-- An entry of a cache was recorded last under its key. -/
theorem recordedLast_of_lookup {codecs : List (Uuid × Codec)} {history : List QueryUse} {key : UInt64}
    {types : QueryTypes}
    (h : (history.foldl afterUse { codecs, queries := [] }).queries.lookup key = some types) :
    ∃ query shape, RecordedLast history key query shape types := by
  induction history using List.reverseRecOn with
  | nil => cases h
  | append_singleton history use ih =>
    rw [List.foldl_append, List.foldl_cons, List.foldl_nil] at h
    cases use with
    | lookup query shape =>
      obtain ⟨query', shape', hlast⟩ := ih (lookup_of_query? h)
      exact ⟨query', shape', hlast.append nofun⟩
    | record query shape types' =>
      by_cases hkey : key = shape.key query
      · have hself : (key == shape.key query) = true := beq_iff_eq.mpr hkey
        rw [afterUse, updateQuery, List.lookup_cons, hself] at h
        cases h
        exact ⟨query, shape, history, [], rfl, hkey.symm, nofun⟩
      · have hother : (key == shape.key query) = false := beq_eq_false_iff_ne.mpr hkey
        rw [afterUse, updateQuery, List.lookup_cons, hother, lookup_filter_of_ne hkey] at h
        obtain ⟨query', shape', hlast⟩ := ih h
        refine ⟨query', shape', hlast.append ?_⟩
        intro query₁ shape₁ types₁ huse
        cases huse
        exact Ne.symm hkey

/-- A lookup gives what an entry says. -/
theorem lookup_of_query?_eq_some {cache : CodecCache} {key : UInt64} {p : PreparedQuery}
    (h : (cache.query? key).1 = some p) :
    cache.queries.lookup key = some ⟨p.inputId, p.outputId, p.cardinality, p.capabilities⟩ := by
  unfold query? at h
  split at h
  · cases h
  next types htypes =>
    split at h
    · cases h
      exact htypes
    · cases h

/-- A lookup gives what was recorded last under its key. If this was recorded for the same text, it was
recorded for the same shape or for the one that shares its keys. -/
theorem shape_of_query? {codecs : List (Uuid × Codec)} {history : List QueryUse} {query : String}
    {shape : ResultShape} {p : PreparedQuery}
    (h : ((history.foldl afterUse { codecs, queries := [] }).query? (shape.key query)).1 = some p) :
    ∃ query' shape', RecordedLast history (shape.key query) query' shape'
        ⟨p.inputId, p.outputId, p.cardinality, p.capabilities⟩ ∧
      (query' = query → shape' = shape ∨ shape.alias? = some shape') := by
  obtain ⟨query', shape', hlast⟩ := recordedLast_of_lookup (lookup_of_query?_eq_some h)
  refine ⟨query', shape', hlast, ?_⟩
  rintro rfl
  obtain ⟨-, -, -, hkey, -⟩ := hlast
  rw [eq_comm (a := shape')]
  exact (ResultShape.key_eq_iff query' shape shape').mp hkey.symm

/-- The types of a query that gives numbers. -/
def int64Types : QueryTypes :=
  ⟨.nil, Scalar.int64.id, .atLeastOne, .readOnly⟩

/-- A query whose types are recorded for at least one row of bytes. -/
def int64History : List QueryUse :=
  [.record "select 1" ⟨.atLeastOne, .binary⟩ int64Types]

/-- What is recorded last for one shape has the key of the other one. -/
private theorem recordedLast_int64History :
    RecordedLast int64History (ResultShape.key ⟨.one, .none⟩ "select 1") "select 1"
      ⟨.atLeastOne, .binary⟩ int64Types :=
  ⟨[], [], rfl, (ResultShape.key_eq_iff "select 1" ⟨.atLeastOne, .binary⟩ ⟨.one, .none⟩).mpr (.inr rfl),
    nofun⟩

/-- What is recorded for at least one row of bytes is found for one row that is not sent. -/
private theorem query?_int64History :
    ((int64History.foldl afterUse .empty).query? (ResultShape.key ⟨.one, .none⟩ "select 1")).1 =
      some ⟨.nil, .null, Scalar.int64.id, .scalar .int64, .atLeastOne, .readOnly⟩ := by
  obtain ⟨-, -, -, hkey, -⟩ := recordedLast_int64History
  rw [← hkey, int64History, List.foldl_cons, List.foldl_nil, afterUse, query?, updateQuery,
    List.lookup_cons_self]
  rfl

/-- The types that are found for the other shape were recorded last under its key. -/
theorem shape_of_query?_int64History :
    ((int64History.foldl afterUse .empty).query? (ResultShape.key ⟨.one, .none⟩ "select 1")).1 =
      some ⟨.nil, .null, Scalar.int64.id, .scalar .int64, .atLeastOne, .readOnly⟩ ∧
    ∃ query shape, RecordedLast int64History (ResultShape.key ⟨.one, .none⟩ "select 1") query shape
        int64Types ∧
      (query = "select 1" → shape = ⟨.one, .none⟩ ∨ some ⟨.atLeastOne, .binary⟩ = some shape) :=
  ⟨query?_int64History, shape_of_query? query?_int64History⟩

/-- What a lookup finds for a text was not always recorded for the shape that is looked up. -/
theorem exists_query?_other_shape :
    ¬ ∀ (history : List QueryUse) (query : String) (shape : ResultShape) (p : PreparedQuery),
      ((history.foldl afterUse .empty).query? (shape.key query)).1 = some p →
      ∀ (shape' : ResultShape) (types : QueryTypes),
        RecordedLast history (shape.key query) query shape' types → shape' = shape := by
  intro h
  have hshape := h int64History "select 1" ⟨.one, .none⟩ _ query?_int64History _ _
    recordedLast_int64History
  cases hshape

end CodecCache

end GelClient
