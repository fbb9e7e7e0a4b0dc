import GelClient.Proofs.Codec.Numeric
import GelClient.Proofs.Packet.Need

/-!
# Which groups of a record are read

A `Record` is the packet of a number: the four words of its header and whatever follows them, in which the
groups stand two bytes each. The weight may point far before the first group or far behind the last one,
and the payload may end early or go on. Reading passes over positions, and only those that the header says
the record holds take a group from the payload: before any position, `heldBefore` many.

The main statements are that a number is read just if the groups held before its last position are
present and below ten thousand, and that then exactly those are taken, with zeros for all other positions.
-/

namespace GelClient

open Packet (Get GetM Reader)
open Packet.GetM (Reads FailsOn)

/-- The numbers of two bytes that stand in a row; a single byte at the end is none. -/
def groupsOf : Bytes → List Nat
  | a :: b :: rest => BigEndian.decode [a, b] :: groupsOf rest
  | _ => []

/-- The packet of a number: the words of its header, and all bytes that follow them. -/
structure Record where
  present : UInt16
  weight : Int16
  sign : UInt16
  scale : UInt16
  payload : Bytes
  deriving DecidableEq, Repr

/-- How many groups a record of `present` ones holds at positions before `stop`. -/
def heldBefore (present : Nat) (stop : Int) : Nat := min present stop.toNat

/-- The group at a position of a record, zero where it holds none. -/
def groupAt (present : Nat) (groups : List Nat) (position : Int) : Nat :=
  if 0 ≤ position ∧ position < present then groups[position.toNat]?.getD 0 else 0

/-- The groups at `count` positions of a record from `start` on. -/
def groupsAt (present : Nat) (groups : List Nat) (start : Int) (count : Nat) : List Nat :=
  (List.range count).map fun (j : Nat) => groupAt present groups (start + j)

/-- The first `count` groups are present and below ten thousand. -/
def Readable (groups : List Nat) (count : Nat) : Prop :=
  ∀ i < count, ∃ g, groups[i]? = some g ∧ g < 10000

/-- Reads what stands at a position of a record, which is a zero of no bytes where it holds none. -/
def getAt (present : Nat) (position : Int) : GetM CodecError Nat :=
  if 0 ≤ position ∧ position < present then getGroup else pure 0

/-- The reader of a payload when some groups were taken off it. -/
def readerAt (payload : Bytes) (start taken : Nat) : Reader :=
  ⟨payload.drop (2 * taken), start + 2 * taken⟩

/-- Bytes without their first groups hold the other groups. -/
private theorem groupsOf_drop (bytes : Bytes) (k : Nat) :
    groupsOf (bytes.drop (2 * k)) = (groupsOf bytes).drop k := by
  induction k generalizing bytes with
  | zero => rfl
  | succ k ih =>
    match bytes with
    | [] => simp [groupsOf]
    | [b] => simp [groupsOf, Nat.mul_succ]
    | a :: b :: rest => exact ih rest

/-- Fewer groups are readable, too. -/
theorem Readable.mono {groups : List Nat} {k m : Nat} (h : Readable groups m) (hk : k ≤ m) :
    Readable groups k :=
  fun i hi => h i (Nat.lt_of_lt_of_le hi hk)

/-- No group is needed before the first one. -/
private theorem readable_zero (groups : List Nat) : Readable groups 0 :=
  fun i hi => absurd hi (Nat.not_lt_zero i)

/-- No fewer groups are held before a later position. -/
theorem heldBefore_mono (present : Nat) {a b : Int} (h : a ≤ b) :
    heldBefore present a ≤ heldBefore present b := by
  simp only [heldBefore]
  omega

/-- At a position that the record holds, all groups before it were held. -/
theorem heldBefore_of_held {present : Nat} {position : Int} (h : 0 ≤ position ∧ position < present) :
    heldBefore present position = position.toNat ∧
      heldBefore present (position + 1) = position.toNat + 1 := by
  simp only [heldBefore]
  omega

/-- A position that the record does not hold adds no group. -/
theorem heldBefore_of_absent {present : Nat} {position : Int} (h : ¬(0 ≤ position ∧ position < present)) :
    heldBefore present (position + 1) = heldBefore present position := by
  simp only [heldBefore]
  omega

/-- A group of a readable record is below ten thousand. -/
theorem Readable.groupAt_lt {groups : List Nat} {present : Nat} {position : Int}
    (h : Readable groups (heldBefore present (position + 1))) : groupAt present groups position < 10000 := by
  unfold groupAt
  split
  next hin =>
    obtain ⟨g, hg, hlt⟩ := h position.toNat (by rw [(heldBefore_of_held hin).2]; omega)
    rwa [hg]
  next => decide

/-- The first position comes before the others. -/
theorem groupsAt_succ (present : Nat) (groups : List Nat) (start : Int) (count : Nat) :
    groupsAt present groups start (count + 1) =
      groupAt present groups start :: groupsAt present groups (start + 1) count := by
  rw [groupsAt, List.range_succ_eq_map, List.map_cons, List.map_map, Int.natCast_zero, Int.add_zero]
  congr 1
  refine List.map_congr_left fun j _ => ?_
  rw [Function.comp_apply, Nat.succ_eq_add_one]
  congr 1
  omega

/-- The last position comes behind the others. -/
theorem groupsAt_concat (present : Nat) (groups : List Nat) (start : Int) (count : Nat) :
    groupsAt present groups start (count + 1) =
      groupsAt present groups start count ++ [groupAt present groups (start + count)] := by
  rw [groupsAt, List.range_succ, List.map_append]
  rfl

/-- Positions that follow others come behind them. -/
theorem groupsAt_add (present : Nat) (groups : List Nat) (start : Int) (a b : Nat) :
    groupsAt present groups start (a + b) =
      groupsAt present groups start a ++ groupsAt present groups (start + a) b := by
  rw [groupsAt, List.range_add, List.map_append, List.map_map]
  refine congrArg (groupsAt present groups start a ++ ·) (List.map_congr_left fun j _ => ?_)
  rw [Function.comp_apply, Int.natCast_add, Int.add_assoc]

/-- There is a group for every position. -/
@[simp]
theorem length_groupsAt (present : Nat) (groups : List Nat) (start : Int) (count : Nat) :
    (groupsAt present groups start count).length = count := by
  rw [groupsAt, List.length_map, List.length_range]

/-- A group is read if it is present and below ten thousand. -/
theorem getGroup_of_lt {bytes : Bytes} {g : Nat} (hg : (groupsOf bytes)[0]? = some g) (hlt : g < 10000)
    (n : Nat) : getGroup ⟨bytes, n⟩ = .ok g ⟨bytes.drop 2, n + 2⟩ := by
  match bytes with
  | [] => simp [groupsOf] at hg
  | [b] => simp [groupsOf] at hg
  | a :: b :: rest =>
    obtain rfl : BigEndian.decode [a, b] = g := by simpa [groupsOf] using hg
    have hencode : BigEndian.encode 2 (BigEndian.decode [a, b]) = [a, b] := BigEndian.encode_decode [a, b]
    have hreads := reads_getGroup hlt rest n
    rw [toNat_ofNat_uint16 (by omega), hencode] at hreads
    exact hreads

/-- A group that is missing or not below ten thousand is not read. -/
theorem failsOn_getGroup {bytes : Bytes} (h : ¬ ∃ g, (groupsOf bytes)[0]? = some g ∧ g < 10000) (n : Nat) :
    FailsOn getGroup ⟨bytes, n⟩ := by
  match bytes with
  | [] => exact ⟨_, _, rfl⟩
  | [b] => exact ⟨_, _, rfl⟩
  | a :: b :: rest =>
    have hlarge : ¬ BigEndian.decode [a, b] < 10000 := fun hlt => h ⟨_, rfl, hlt⟩
    have hencode : BigEndian.encode 2 (BigEndian.decode [a, b]) = [a, b] := BigEndian.encode_decode [a, b]
    have hword : (UInt16.ofNat (BigEndian.decode [a, b])).toNat = BigEndian.decode [a, b] := by
      have hdecode := BigEndian.decode_encode 2 (BigEndian.decode [a, b])
      rw [hencode] at hdecode
      exact toNat_ofNat_uint16 (by omega)
    have hreads := (Get.reads_uint16 (UInt16.ofNat (BigEndian.decode [a, b]))).lift (ε := CodecError) rest n
    rw [hword, hencode] at hreads
    refine ⟨.invalidValue (.badDigitGroup (BigEndian.decode [a, b])), ⟨rest, n + 2⟩, ?_⟩
    refine (Actions.bind_of_ok hreads).trans ?_
    rw [hword, if_neg hlarge]
    rfl

/-- A position is read if all groups that are held up to it are readable. -/
theorem Readable.getAt_eq {present : Nat} {payload : Bytes} {position : Int}
    (h : Readable (groupsOf payload) (heldBefore present (position + 1))) (n : Nat) :
    getAt present position (readerAt payload n (heldBefore present position)) =
      .ok (groupAt present (groupsOf payload) position)
        (readerAt payload n (heldBefore present (position + 1))) := by
  unfold getAt groupAt
  split
  next hin =>
    obtain ⟨hnow, hnext⟩ := heldBefore_of_held hin
    obtain ⟨g, hg, hlt⟩ := h position.toNat (by omega)
    have hfirst : (groupsOf (payload.drop (2 * position.toNat)))[0]? = some g := by
      rw [groupsOf_drop, List.getElem?_drop, Nat.add_zero, hg]
    rw [hnow, hnext, hg, readerAt, getGroup_of_lt hfirst hlt, List.drop_drop]
    rfl
  next hout =>
    rw [heldBefore_of_absent hout]
    rfl

/-- A position is not read if its group is the first one that is not readable. -/
theorem failsOn_getAt {present : Nat} {payload : Bytes} {position : Int}
    (h : ¬ Readable (groupsOf payload) (heldBefore present (position + 1)))
    (hbefore : Readable (groupsOf payload) (heldBefore present position)) (n : Nat) :
    FailsOn (getAt present position) (readerAt payload n (heldBefore present position)) := by
  have hin : 0 ≤ position ∧ position < present := by
    by_contra hout
    exact h (heldBefore_of_absent hout ▸ hbefore)
  obtain ⟨hnow, hnext⟩ := heldBefore_of_held hin
  rw [hnow] at hbefore ⊢
  rw [hnext] at h
  rw [getAt, if_pos hin]
  refine failsOn_getGroup (fun hg => h fun i hi => ?_) _
  rw [groupsOf_drop, List.getElem?_drop, Nat.add_zero] at hg
  obtain hlt | rfl := Nat.lt_succ_iff_lt_or_eq.mp hi
  · exact hbefore i hlt
  · exact hg

/-- The first position is read before the others. -/
theorem getGroupsFrom_succ (present : Nat) (found : List Nat) (start : Int) (count : Nat) :
    getGroupsFrom present found start (count + 1) =
      getAt present start >>= fun group => getGroupsFrom present (group :: found) (start + 1) count := by
  rw [getGroupsFrom, getAt]
  split <;> rfl

/-- Positions in a row are read if all groups that are held up to the last one are readable. -/
theorem Readable.getGroupsFrom_eq {present : Nat} {payload : Bytes} {start : Int} {count : Nat}
    (h : Readable (groupsOf payload) (heldBefore present (start + count))) (found : List Nat) (n : Nat) :
    getGroupsFrom present found start count (readerAt payload n (heldBefore present start)) =
      .ok (found.reverse ++ groupsAt present (groupsOf payload) start count)
        (readerAt payload n (heldBefore present (start + count))) := by
  induction count generalizing start found with
  | zero => simp [getGroupsFrom, groupsAt]
  | succ count ih =>
    have hstop : start + (count + 1 : Nat) = start + 1 + count := by omega
    rw [hstop] at h ⊢
    have hfirst := (h.mono (heldBefore_mono present (a := start + 1) (by omega))).getAt_eq n
    rw [getGroupsFrom_succ, Actions.bind_of_ok hfirst, ih h, groupsAt_succ, List.reverse_cons,
      List.append_assoc]
    rfl

/-- Positions in a row are not read if one of their groups is not readable. -/
theorem failsOn_getGroupsFrom {present : Nat} {payload : Bytes} {start : Int} {count : Nat}
    (h : ¬ Readable (groupsOf payload) (heldBefore present (start + count)))
    (hbefore : Readable (groupsOf payload) (heldBefore present start)) (found : List Nat) (n : Nat) :
    FailsOn (getGroupsFrom present found start count) (readerAt payload n (heldBefore present start)) := by
  induction count generalizing start found with
  | zero =>
    rw [Int.natCast_zero, Int.add_zero] at h
    exact absurd hbefore h
  | succ count ih =>
    have hstop : start + (count + 1 : Nat) = start + 1 + count := by omega
    rw [hstop] at h
    rw [getGroupsFrom_succ]
    by_cases hnext : Readable (groupsOf payload) (heldBefore present (start + 1))
    · obtain ⟨e, s, hfail⟩ := ih h hnext (groupAt present (groupsOf payload) start :: found)
      exact ⟨e, s, (Actions.bind_of_ok (hnext.getAt_eq n)).trans hfail⟩
    · exact (failsOn_getAt hnext hbefore n).bind _

namespace Record

/-- The bytes of the header. -/
def headerBytes (r : Record) : Bytes :=
  BigEndian.encode 2 r.present.toNat ++ (BigEndian.encode 2 r.weight.toUInt16.toNat
    ++ (BigEndian.encode 2 r.sign.toNat ++ BigEndian.encode 2 r.scale.toNat))

/-- The bytes of the packet. -/
def toBytes (r : Record) : Bytes := r.headerBytes ++ r.payload

/-- What the header says. -/
def header (r : Record) : RecordHeader :=
  ⟨r.present.toNat, r.weight.toInt, r.sign != 0, r.scale.toNat⟩

/-- The groups that stand behind the header, also those that the header does not count. -/
def groups (r : Record) : List Nat := groupsOf r.payload

/-- How many groups count for an integer. -/
def integerGroups (r : Record) : Nat := heldBefore r.present.toNat (r.weight.toInt + 1)

/-- How many groups count for a decimal number. -/
def decimalGroups (r : Record) : Nat :=
  heldBefore r.present.toNat (r.weight.toInt + 1 + Digits.groupCount r.scale.toNat)

/-- The groups in front of the point. -/
def integralGroups (r : Record) : List Nat :=
  groupsAt r.present.toNat r.groups 0 (r.weight.toInt + 1).toNat

/-- The groups behind the point, up to the scale. -/
def fractionGroups (r : Record) : List Nat :=
  groupsAt r.present.toNat r.groups (r.weight.toInt + 1) (Digits.groupCount r.scale.toNat)

/-- The decimal number that the groups make up. -/
def decimal (r : Record) : Decimal :=
  Decimal.ofGroups (r.sign != 0) r.scale.toNat r.integralGroups r.fractionGroups

/-- The integer that the groups make up. -/
def integer (r : Record) : BigInt :=
  BigInt.ofDigits (r.sign != 0) (Digits.ofGroups r.integralGroups)

/-- A header has eight bytes. -/
@[simp]
theorem length_headerBytes (r : Record) : r.headerBytes.length = 8 := by
  simp [headerBytes]

/-- The header is read from its bytes. -/
theorem reads_header (r : Record) : Reads getHeader r.headerBytes r.header :=
  (Get.reads_uint16 r.present).lift.bind <| (Get.reads_int16 r.weight).lift.bind <|
    (Get.reads_uint16 r.sign).lift.bind (Get.reads_uint16 r.scale).lift.bind_pure

/-- Whatever is read as the header of a record is its header. -/
theorem header_of_getHeader {r : Record} {n : Nat} {header : RecordHeader} {s : Reader}
    (h : getHeader ⟨r.toBytes, n⟩ = .ok header s) : r.header = header := by
  rw [toBytes, r.reads_header r.payload n] at h
  exact (EStateM.Result.ok.inj h).1

/-- What reads the header first goes on at the start of the payload. -/
theorem getHeader_bind {α : Type} (r : Record) (n : Nat) (f : RecordHeader → GetM CodecError α) :
    (getHeader >>= f) ⟨r.toBytes, n⟩ = f r.header (readerAt r.payload (n + 8) 0) := by
  have h := r.reads_header r.payload n
  rw [length_headerBytes] at h
  exact Actions.bind_of_ok h

/-- Every packet from which a header is read is a record. -/
theorem exists_of_getHeader {bytes : Bytes} {n : Nat} {header : RecordHeader} {s : Reader}
    (h : getHeader ⟨bytes, n⟩ = .ok header s) : ∃ r : Record, bytes = r.toBytes := by
  obtain ⟨present, t, hpresent, h⟩ := Actions.bind_eq_ok.mp h
  obtain ⟨weight, u, hweight, h⟩ := Actions.bind_eq_ok.mp h
  obtain ⟨sign, v, hsign, h⟩ := Actions.bind_eq_ok.mp h
  obtain ⟨scale, w, hscale, h⟩ := Actions.bind_eq_ok.mp h
  refine ⟨⟨present, weight, sign, scale, w.rest⟩, ?_⟩
  have hbytes := Get.rest_of_uint16 (GetM.liftM_eq_ok.mp hpresent)
  rw [Get.rest_of_int16 (GetM.liftM_eq_ok.mp hweight), Get.rest_of_uint16 (GetM.liftM_eq_ok.mp hsign),
    Get.rest_of_uint16 (GetM.liftM_eq_ok.mp hscale)] at hbytes
  simpa [toBytes, headerBytes] using hbytes

/-- Counting positions from zero on, as many groups are held as before the last one. -/
theorem heldBefore_toNat (present : Nat) (stop : Int) :
    heldBefore present (0 + (stop.toNat : Int)) = heldBefore present stop := by
  simp only [heldBefore]
  omega

/-- No group is held before the first position. -/
private theorem heldBefore_zero (present : Nat) : heldBefore present 0 = 0 :=
  Nat.min_zero present

/-- The groups in front of the point are read if they are readable. -/
theorem getIntegral_eq (r : Record) (n : Nat) (h : Readable r.groups r.integerGroups) :
    getGroups r.present.toNat 0 (r.weight.toInt + 1).toNat (readerAt r.payload n 0) =
      .ok r.integralGroups (readerAt r.payload n r.integerGroups) := by
  rw [integerGroups, ← heldBefore_toNat] at h ⊢
  have hread := h.getGroupsFrom_eq [] n
  rw [heldBefore_zero] at hread
  exact hread

/-- The groups in front of the point are not read unless they are readable. -/
theorem failsOn_getIntegral (r : Record) (n : Nat) (h : ¬ Readable r.groups r.integerGroups) :
    FailsOn (getGroups r.present.toNat 0 (r.weight.toInt + 1).toNat) (readerAt r.payload n 0) := by
  rw [integerGroups, ← heldBefore_toNat] at h
  have hnone : Readable r.groups (heldBefore r.present.toNat 0) := heldBefore_zero _ ▸ readable_zero r.groups
  have hfail := failsOn_getGroupsFrom h hnone [] n
  rw [heldBefore_zero] at hfail
  exact hfail

/-- A decimal number is read from a record if the groups that count are readable. -/
theorem getDecimal_eq (r : Record) (n : Nat) (h : Readable r.groups r.decimalGroups) :
    Decimal.get ⟨r.toBytes, n⟩ = .ok r.decimal (readerAt r.payload (n + 8) r.decimalGroups) := by
  have hintegral : Readable r.groups r.integerGroups := h.mono (heldBefore_mono _ (by omega))
  refine (r.getHeader_bind n _).trans ?_
  refine (Actions.bind_of_ok (r.getIntegral_eq (n + 8) hintegral)).trans ?_
  exact Actions.bind_of_ok (h.getGroupsFrom_eq [] (n + 8))

/-- A decimal number is not read from a record unless the groups that count are readable. -/
theorem failsOn_getDecimal (r : Record) (n : Nat) (h : ¬ Readable r.groups r.decimalGroups) :
    FailsOn Decimal.get ⟨r.toBytes, n⟩ := by
  have hheader := r.getHeader_bind n fun header => do
    let integral ← getGroups header.present 0 (header.weight + 1).toNat
    let fraction ← getGroups header.present (header.weight + 1) (Digits.groupCount header.scale)
    return Decimal.ofGroups header.negative header.scale integral fraction
  by_cases hintegral : Readable r.groups r.integerGroups
  · -- The groups in front of the point are read, so it is the fraction that fails.
    obtain ⟨e, s, hfail⟩ := (failsOn_getGroupsFrom h hintegral [] (n + 8)).bind fun fraction =>
      (pure (Decimal.ofGroups (r.sign != 0) r.scale.toNat r.integralGroups fraction) : GetM CodecError Decimal)
    exact ⟨e, s, hheader.trans ((Actions.bind_of_ok (r.getIntegral_eq (n + 8) hintegral)).trans hfail)⟩
  · obtain ⟨e, s, hfail⟩ := (r.failsOn_getIntegral (n + 8) hintegral).bind _
    exact ⟨e, s, hheader.trans hfail⟩

/-- An integer is read from a record if the groups that count are readable. -/
theorem getInteger_eq (r : Record) (n : Nat) (h : Readable r.groups r.integerGroups) :
    BigInt.get ⟨r.toBytes, n⟩ = .ok r.integer (readerAt r.payload (n + 8) r.integerGroups) :=
  (r.getHeader_bind n _).trans (Actions.bind_of_ok (r.getIntegral_eq (n + 8) h))

/-- An integer is not read from a record unless the groups that count are readable. -/
theorem failsOn_getInteger (r : Record) (n : Nat) (h : ¬ Readable r.groups r.integerGroups) :
    FailsOn BigInt.get ⟨r.toBytes, n⟩ := by
  obtain ⟨e, s, hfail⟩ := (r.failsOn_getIntegral (n + 8) h).bind _
  exact ⟨e, s, (r.getHeader_bind n _).trans hfail⟩

/-- A packet from which a decimal number is read is a record of that number. -/
theorem exists_of_getDecimal {bytes : Bytes} {n : Nat} {d : Decimal} {s : Reader}
    (h : Decimal.get ⟨bytes, n⟩ = .ok d s) :
    ∃ r : Record, bytes = r.toBytes ∧ Readable r.groups r.integerGroups ∧ d = r.decimal := by
  obtain ⟨header, t, hheader, -⟩ := Actions.bind_eq_ok.mp h
  obtain ⟨r, rfl⟩ := exists_of_getHeader hheader
  obtain ⟨hread, -, rfl⟩ := (GetM.exists_ok_iff (r.getDecimal_eq n) (r.failsOn_getDecimal n)).2 d s h
  exact ⟨r, rfl, hread.mono (heldBefore_mono _ (by omega)), rfl⟩

/-- A packet from which an integer is read is a record of that integer. -/
theorem exists_of_getInteger {bytes : Bytes} {n : Nat} {i : BigInt} {s : Reader}
    (h : BigInt.get ⟨bytes, n⟩ = .ok i s) :
    ∃ r : Record, bytes = r.toBytes ∧ Readable r.groups r.integerGroups ∧ i = r.integer := by
  obtain ⟨header, t, hheader, -⟩ := Actions.bind_eq_ok.mp h
  obtain ⟨r, rfl⟩ := exists_of_getHeader hheader
  obtain ⟨hread, -, rfl⟩ := (GetM.exists_ok_iff (r.getInteger_eq n) (r.failsOn_getInteger n)).2 i s h
  exact ⟨r, rfl, hread, rfl⟩

end Record

end GelClient
