import GelClient.Proofs.Codec.Choice

/-!
# Kinds that a codec takes

The kinds of values that a codec takes stand in two places: where a codec is chosen for a value, and in the
writing of the payload, which refuses a value of another kind. Here the two are shown to be the same table. A
codec refuses a kind that is not in the table before it looks at what the value holds, whatever this is; and it
never fails for a kind in the table before it has written something, so that a failure for a kind is then one of
an element. Only the type without data, which takes no kind and writes anything, and sets, which are never
written, differ in both places.
-/

namespace GelClient

open Packet (Put PutM Writer)
open Packet.PutM (IsUniform isUniform_signedCount isUniform_raw)

variable {v : Value}

/-- An action that does not fail for the kind of a value. -/
def NeverMismatches {α : Type} (x : PutM CodecError α) : Prop :=
  ∀ w u expected found, x w ≠ .error (.typeMismatch expected found) u

/-- An action that does not fail for the kind of a value before it has written something. -/
def MismatchesLate (x : PutM CodecError Unit) : Prop :=
  ∀ w, w.IsOpen → ∀ expected found, x w ≠ .error (.typeMismatch expected found) w

/-- A failure for another reason is none for the kind. -/
theorem neverMismatches_throw {α : Type} {e : CodecError} (h : ∀ expected found, e ≠ .typeMismatch expected found) :
    NeverMismatches (throw e : PutM CodecError α) := by
  intro w u expected found hrun
  rw [Actions.throw_apply] at hrun
  exact h expected found (EStateM.Result.error.inj hrun).1

/-- A failure of the packet is none for the kind. -/
theorem neverMismatches_lift {α : Type} (x : Put α) : NeverMismatches (liftM x : PutM CodecError α) := by
  intro w u expected found
  rw [PutM.liftM_apply]
  cases x w with
  | ok a s => exact fun h => by cases h
  | error e s => exact fun h => by cases h

/-- A sequence does not fail for the kind if its actions do not. -/
theorem NeverMismatches.bind {α β : Type} {x : PutM CodecError α} {f : α → PutM CodecError β}
    (hx : NeverMismatches x) (hf : ∀ a, NeverMismatches (f a)) : NeverMismatches (x >>= f) := by
  intro w u expected found h
  obtain h | ⟨a, s, -, h⟩ := Actions.bind_eq_error.mp h
  · exact hx w u expected found h
  · exact hf a s u expected found h

/-- What never fails for the kind does not do so early. -/
theorem NeverMismatches.late {x : PutM CodecError Unit} (h : NeverMismatches x) : MismatchesLate x :=
  fun w _ => h w w

/-- A failure for the kind behind bytes that were written is late. -/
theorem mismatchesLate_bind {x : PutM CodecError Unit} {f : Unit → PutM CodecError Unit} (hx : NeverMismatches x)
    (hux : IsUniform x) (hempty : x.bytes? ≠ .ok []) (hf : IsUniform (f ())) : MismatchesLate (x >>= f) := by
  intro w hw expected found h
  obtain h | ⟨_, s, hs, h⟩ := Actions.bind_eq_error.mp h
  · exact hx w w expected found h
  · obtain ⟨b, hb, rfl⟩ := hux.exists_bytes? hw hs
    rw [hf _ (hw.append b)] at h
    have hpos : b ≠ [] := fun hnil => hempty (hnil ▸ hb)
    -- what follows keeps the bytes that were written, so the writer is not the one from the start
    have hlonger (r : Writer) : (w.append b).append r.toBytes ≠ w := by
      intro heq
      have hsize := congrArg Writer.size heq
      rw [Writer.size_append, Writer.size_append] at hsize
      have := List.length_pos_iff.mpr hpos
      omega
    cases hr : f () Writer.empty with
    | ok a r =>
      rw [hr] at h
      cases h
    | error e r =>
      rw [hr] at h
      exact hlonger r (EStateM.Result.error.inj h).2

/-- A count does not fail for the kind of a value. -/
theorem neverMismatches_signedCount (n : Nat) : NeverMismatches (PutM.signedCount n) := by
  unfold PutM.signedCount
  split
  · exact neverMismatches_lift _
  · exact neverMismatches_throw fun _ _ h => by cases h

/-- A failure for the kind behind a count is late. -/
theorem mismatchesLate_signedCount {n : Nat} {f : Unit → PutM CodecError Unit} (hf : IsUniform (f ())) :
    MismatchesLate (PutM.signedCount n >>= f) := by
  refine mismatchesLate_bind (neverMismatches_signedCount n) (isUniform_signedCount n) (fun h => ?_) hf
  have hlength := congrArg List.length (PutM.bytes?_signedCount_eq_ok.mp h).2
  rw [BigEndian.length_encode] at hlength
  cases hlength

/-- A failure for the kind behind a number is late. -/
theorem mismatchesLate_number (width n : Nat) {f : Unit → PutM CodecError Unit} (hwidth : width ≠ 0)
    (hf : IsUniform (f ())) : MismatchesLate ((liftM (Put.number width n) : PutM CodecError Unit) >>= f) := by
  refine mismatchesLate_bind (neverMismatches_lift _) (isUniform_raw _).lift (fun h => ?_) hf
  rw [PutM.bytes?_liftM_eq_ok, Put.number, PutM.bytes?_raw, Except.ok.injEq] at h
  exact hwidth ((BigEndian.length_encode width n).symm.trans (congrArg List.length h))

/-- A number does not fail for its kind. -/
theorem Decimal.neverMismatches_put (n : Decimal) : NeverMismatches n.put := by
  rw [Decimal.put_eq]
  repeat' split
  all_goals first
    | exact neverMismatches_lift _
    | exact neverMismatches_throw fun _ _ h => by cases h

/-- An integer does not fail for its kind. -/
theorem BigInt.neverMismatches_put (n : BigInt) : NeverMismatches n.put := by
  rw [BigInt.put_eq]
  repeat' split
  all_goals first
    | exact neverMismatches_lift _
    | exact neverMismatches_throw fun _ _ h => by cases h

/-- A scalar does not fail for its own kind. -/
theorem Scalar.neverMismatches_put {s : Scalar} (h : v.kind = s.kind) : NeverMismatches (s.put v) := by
  cases v <;> cases s <;> try cases h
  all_goals first
    | exact neverMismatches_lift _
    | exact (neverMismatches_lift _).bind fun _ => neverMismatches_lift _
    | exact (neverMismatches_lift _).bind fun _ => (neverMismatches_lift _).bind fun _ => neverMismatches_lift _
    | exact Decimal.neverMismatches_put _
    | exact BigInt.neverMismatches_put _

/-- A scalar refuses a value of another kind before all else. -/
theorem Scalar.put_eq_throw {s : Scalar} (h : v.kind ≠ s.kind) :
    s.put v = throw (.typeMismatch s.name v.kind) := by
  unfold Scalar.put
  split
  case h_21 => rfl
  all_goals exact absurd rfl h

namespace Codec

variable {d c : Codec}

/-- The kinds of the values that a codec other than a compound takes. -/
def kinds : Codec → List ValueKind
  | scalar s => [s.kind]
  | array _ => [.array]
  | set _ => [.set, .array]
  | range _ => [.range]
  | multirange _ => [.multirange]
  | tuple _ => [.tuple]
  | namedTuple _ | object _ | sparseObject _ => [.namedTuple, .object]
  | enumeration _ => [.enumMember, .str]
  | null | compound _ _ => []

/-- What a codec says it expects when it refuses the kind of a value. -/
def kindName : Codec → String
  | scalar s => s.name
  | array _ => "array"
  | range _ => "range"
  | multirange _ => "multirange"
  | tuple _ => "tuple"
  | namedTuple _ => "named tuple"
  | object _ | sparseObject _ => "object"
  | enumeration _ => "enum"
  | null => "null"
  | set _ => "set"
  | compound _ _ => "compound"

/-- Whether a codec takes a value depends on the kind of the value alone. -/
theorem takesKind_iff (d : Codec) (v : Value) : d.takesKind v = true ↔ v.kind ∈ d.kinds := by
  cases d with
  | scalar s => rw [takesKind, Scalar.accepts, beq_iff_eq, kinds, List.mem_singleton, eq_comm]
  | _ =>
    rw [← List.contains_iff_mem, ← Bool.eq_iff_iff]
    cases v <;> rfl

/-- A codec other than a compound that checks the kind of what it writes. -/
def ChecksKind : Codec → Prop
  | null | set _ | compound _ _ => False
  | _ => True

/-- Named tuples and objects hold fields, and no other values do. -/
theorem fields?_isSome (v : Value) : (fields? v).isSome = true ↔ v.kind ∈ [.namedTuple, .object] := by
  rw [← List.contains_iff_mem, ← Bool.eq_iff_iff]
  cases v <;> rfl

/-- A kind that is not in the table is refused before all else. -/
theorem put_eq_throw (hd : d.ChecksKind) (h : v.kind ∉ d.kinds) :
    d.put v = throw (.typeMismatch d.kindName v.kind) := by
  rw [put]
  cases d with
  | null | set | compound => exact hd.elim
  | scalar s =>
    simp only [putAs]
    exact Scalar.put_eq_throw (by simpa [kinds] using h)
  | array | range | multirange | tuple | enumeration =>
    simp only [putAs]
    split
    all_goals first
      | rfl
      | exact absurd (by simp [kinds, Value.kind]) h
  | namedTuple | object | sparseObject =>
    have hnone : fields? v = none := Option.not_isSome_iff_eq_none.mp (mt (fields?_isSome v).mp h)
    simp only [putAs, hnone]
    rfl

/-- A counted row of elements fails late for the kind, and for another count before. -/
theorem mismatchesLate_putCounted (expected found : Nat) {elements : PutM CodecError Unit}
    (h : IsUniform elements) : MismatchesLate (putCounted expected found elements) := by
  unfold putCounted
  split
  · split
    · exact (neverMismatches_throw fun _ _ h => by cases h).late
    · exact (neverMismatches_throw fun _ _ h => by cases h).late
  · exact mismatchesLate_signedCount h

/-- The bounds of an interval are written uniformly. -/
theorem isUniform_putBound (bound : Codec) (w : Value) :
    IsUniform (putBoundWith bound (fun pick => putAs pick bound) w) :=
  isUniform_putBoundWith w fun pick => isUniform_putAs bound pick w

/-- An array fails late for the kind: its dimensions stand in front of its elements. -/
theorem mismatchesLate_array (item : Codec) (items : List Value) :
    MismatchesLate ((array item).put (.array items)) := by
  have hword (n : Int32) : IsUniform (liftM (Put.int32 n) : PutM CodecError Unit) := (isUniform_raw _).lift
  have helements : IsUniform (items.forM (putElementWith item (putAs true item))) :=
    PutM.isUniform_forM _ fun w _ => isUniform_putElementWith w (isUniform_putAs item true w)
  rw [put]
  cases items with
  | nil =>
    simp only [putAs]
    exact mismatchesLate_number 4 _ (by decide) ((hword _).bind fun _ => hword _)
  | cons first rest =>
    simp only [putAs]
    refine mismatchesLate_number 4 _ (by decide) ((hword _).bind fun _ => (hword _).bind fun _ => ?_)
    exact (isUniform_signedCount _).bind fun _ => (hword _).bind fun _ => helements

/-- An interval fails late for the kind: its flags stand in front of its bounds. -/
theorem mismatchesLate_range (bound : Codec) (r : Range Value) :
    MismatchesLate ((range bound).put (.range r)) := by
  have hbounds (o : Option Value) := isUniform_forM_option o (isUniform_putBound bound)
  simp only [put, putAs, putRangeWith]
  refine mismatchesLate_number 1 _ (by decide) ?_
  split
  · exact PutM.isUniform_pure ()
  · exact (hbounds r.lower).bind fun _ => hbounds r.upper

/-- Several intervals fail late for the kind: their count stands in front of them. -/
theorem mismatchesLate_multirange (bound : Codec) (rs : List (Range Value)) :
    MismatchesLate ((multirange bound).put (.multirange rs)) := by
  simp only [put, putAs]
  refine mismatchesLate_signedCount (PutM.isUniform_forM _ fun r _ => ?_)
  exact PutM.isUniform_withLength (isUniform_putRangeWith r (isUniform_putBound bound))

/-- A codec does not fail for a kind in the table before it has written something. -/
theorem mismatchesLate_put (hd : d.ChecksKind) (h : v.kind ∈ d.kinds) : MismatchesLate (d.put v) := by
  cases d with
  | null | set | compound => exact hd.elim
  | scalar s =>
    simp only [put, putAs]
    exact (Scalar.neverMismatches_put (by simpa [kinds] using h)).late
  | array item =>
    cases v
    case array items => exact mismatchesLate_array item items
    all_goals simp [kinds, Value.kind] at h
  | range bound =>
    cases v
    case range r => exact mismatchesLate_range bound r
    all_goals simp [kinds, Value.kind] at h
  | multirange bound =>
    cases v
    case multirange rs => exact mismatchesLate_multirange bound rs
    all_goals simp [kinds, Value.kind] at h
  | tuple codecs =>
    cases v
    case tuple items =>
      simp only [put, putAs]
      exact mismatchesLate_putCounted _ _ (isUniform_putEach codecs (fun c _ => isUniform_putAs c) items)
    all_goals simp [kinds, Value.kind] at h
  | namedTuple codecs =>
    obtain ⟨fields, hfields⟩ := Option.isSome_iff_exists.mp ((fields?_isSome v).mpr h)
    simp only [put, putAs, hfields]
    split
    · exact (neverMismatches_throw fun _ _ h => by cases h).late
    · exact mismatchesLate_signedCount (isUniform_putNamed codecs (fun f _ => isUniform_putAs f.2) fields)
  | object shape =>
    obtain ⟨fields, hfields⟩ := Option.isSome_iff_exists.mp ((fields?_isSome v).mpr h)
    simp only [put, putAs, hfields]
    exact mismatchesLate_signedCount (isUniform_putShape shape (fun e _ => isUniform_putAs e.codec) fields)
  | sparseObject shape =>
    obtain ⟨fields, hfields⟩ := Option.isSome_iff_exists.mp ((fields?_isSome v).mpr h)
    simp only [put, putAs, hfields]
    split
    · exact (neverMismatches_throw fun _ _ h => by cases h).late
    · refine mismatchesLate_signedCount (PutM.isUniform_forM _ fun f _ => ?_)
      exact isUniform_putSparseEntry shape (fun e _ => isUniform_putAs e.codec) f
  | enumeration members =>
    cases v
    case enumMember | str =>
      simp only [put, putAs]
      split
      · exact (neverMismatches_lift _).late
      · exact (neverMismatches_throw fun _ _ h => by cases h).late
    all_goals simp [kinds, Value.kind] at h

/-- Writing `v` with `d` gets past the check of the kind: a writer that is open is never left as it was for a
mismatch of kinds. -/
def PassesKind (d : Codec) (v : Value) : Prop := MismatchesLate (d.put v)

/-- The table of kinds that a codec is chosen by is the one that its writing goes by. -/
theorem takesKind_iff_passesKind (hd : d.ChecksKind) : d.takesKind v = true ↔ d.PassesKind v := by
  rw [takesKind_iff]
  refine ⟨mismatchesLate_put hd, fun hpasses => ?_⟩
  by_contra hkind
  refine hpasses Writer.empty Writer.isOpen_empty d.kindName v.kind ?_
  rw [put_eq_throw hd hkind, Actions.throw_apply]

/-- The codec that a value is written with is the first one to take its kind. -/
theorem visit_eq_ok_iff (hv : v.isNothing = false) : c.visit v = .ok d ↔
    ∃ before after, c.leaves = before ++ d :: after ∧ (∀ e ∈ before, e.takesKind v = false) ∧
      d.takesKind v = true := by
  have hresolve : c.visit v = .ok d ↔ c.leaves.find? (·.takesKind v) = some d := by
    rw [visit, if_neg (by simp [hv]), ← resolve?_eq_find?]
    cases c.resolve? v <;> simp
  rw [hresolve, List.find?_eq_some_iff_append]
  constructor
  · rintro ⟨htakes, before, after, hleaves, hbefore⟩
    exact ⟨before, after, hleaves, by simpa using hbefore, htakes⟩
  · rintro ⟨before, after, hleaves, hbefore, htakes⟩
    exact ⟨htakes, before, after, hleaves, by simpa using hbefore⟩

/-- A value has a codec to be written with if some codec takes its kind. -/
theorem exists_visit_iff (hv : v.isNothing = false) :
    (∃ d, c.visit v = .ok d) ↔ ∃ d ∈ c.leaves, d.takesKind v = true := by
  rw [visit, if_neg (by simp [hv]), resolve?_eq_find?, ← List.find?_isSome, Option.isSome_iff_exists]
  cases c.leaves.find? (·.takesKind v) <;> simp

/-- A present value is written with the first codec below a compound type that takes its kind, and is refused
only if there is none. A codec takes the kinds that its own writing goes on for, and refuses all others for
nothing but the kind. -/
theorem visit_finds_first (c : Codec) (v : Value) (hv : v.isNothing = false) :
    (∀ d, c.visit v = .ok d ↔
        ∃ before after, c.leaves = before ++ d :: after ∧ (∀ e ∈ before, e.takesKind v = false) ∧
          d.takesKind v = true) ∧
      ((∃ d, c.visit v = .ok d) ↔ ∃ d ∈ c.leaves, d.takesKind v = true) ∧
      (∀ e, c.visit v = .error e → e = .typeMismatch c.typeName v.kind) ∧
      (∀ d ∈ c.leaves, d.IsMember) ∧
      (∀ (d : Codec) (u : Value), u.kind = v.kind → d.takesKind u = d.takesKind v) ∧
      ∀ d : Codec, d.ChecksKind →
        (d.takesKind v = true ↔ d.PassesKind v) ∧
          (d.takesKind v = false → d.put v = throw (.typeMismatch d.kindName v.kind)) := by
  refine ⟨fun d => visit_eq_ok_iff hv, exists_visit_iff hv, fun e he => ?_, fun d => isMember_of_mem_leaves,
    fun d u hu => ?_, fun d hd => ⟨takesKind_iff_passesKind hd, fun hkind => put_eq_throw hd fun hmem => ?_⟩⟩
  · rw [visit, if_neg (by simp [hv])] at he
    cases hd : c.resolve? v with
    | some d =>
      rw [hd] at he
      cases he
    | none =>
      rw [hd] at he
      exact (Except.error.inj he).symm
  · rw [Bool.eq_iff_iff, takesKind_iff, takesKind_iff, hu]
  · rw [(takesKind_iff d v).mpr hmem] at hkind
    cases hkind

/-- A text is written by the enumeration in front of the text type, though it is none of its members, while an
array passes on to a type inside of another compound. -/
theorem visit_finds_first_red :
    let c := compound .union [compound .intersection [.enumeration ["red"], .array (.scalar .str)], .scalar .str]
    c.visit (.str "blue") = .ok (.enumeration ["red"]) ∧
      c.visit (.array [.int64 1]) = .ok (.array (.scalar .str)) ∧
      ¬ (∃ d, c.visit (.int64 1) = .ok d) ∧
      (array (.scalar .str)).PassesKind (.array [.int64 1]) := by
  intro c
  have hleaves : c.leaves = [.enumeration ["red"], .array (.scalar .str), .scalar .str] := rfl
  refine ⟨?_, ?_, ?_, ?_⟩
  · refine ((visit_finds_first c (.str "blue") rfl).1 _).mpr ⟨[], _, hleaves, by simp, rfl⟩
  · refine ((visit_finds_first c (.array [.int64 1]) rfl).1 _).mpr ⟨[_], _, hleaves, ?_, rfl⟩
    simp [takesKind]
  · rw [(visit_finds_first c (.int64 1) rfl).2.1, hleaves]
    simp [takesKind, Scalar.accepts, Scalar.kind, Value.kind]
  · exact ((visit_finds_first c (.array [.int64 1]) rfl).2.2.2.2.2 (.array (.scalar .str)) trivial).1.mp rfl

end Codec

end GelClient
