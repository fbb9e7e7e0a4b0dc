import GelClient.Proofs.Number.Groups
import GelClient.Proofs.Packet.Append
import GelClient.Proofs.Packet.Read
import Mathlib.Algebra.Group.Int.Defs

/-!
# Numbers as records

What is written for a number of any size is read back as that number. The record of a zero has no
groups and no sign; every other record holds all groups that its weight and its scale ask for, so
reading takes them all.
-/

namespace GelClient

open Packet (Put PutM Get GetM)
open Packet.GetM (Reads)

/-- The bytes of groups. -/
def groupBytes (groups : List Nat) : Bytes :=
  groups.flatMap fun group => BigEndian.encode 2 (UInt16.ofNat group).toNat

/-- The bytes of a record: its header, its scale and its groups. -/
def recordBytes (weight : Int) (negative : Bool) (scale : Nat) (groups : List Nat) : Bytes :=
  BigEndian.encode 2 (UInt16.ofNat groups.length).toNat
    ++ (BigEndian.encode 2 (Int16.ofInt weight).toUInt16.toNat
    ++ (BigEndian.encode 2 (if negative then negativeSign else 0 : UInt16).toNat
    ++ (BigEndian.encode 2 (UInt16.ofNat scale).toNat ++ groupBytes groups)))

/-- Groups are written uniformly. -/
theorem isUniform_groups (groups : List Nat) :
    PutM.IsUniform (groups.forM fun group => Put.uint16 (UInt16.ofNat group)) :=
  PutM.isUniform_forM groups fun _ _ => PutM.isUniform_raw _

/-- A record is written uniformly. -/
theorem isUniform_putRecord (weight : Int) (negative : Bool) (scale : Nat) (groups : List Nat) :
    PutM.IsUniform (putRecord weight negative scale groups) :=
  (PutM.isUniform_raw _).bind fun _ => (PutM.isUniform_raw _).bind fun _ =>
    (PutM.isUniform_raw _).bind fun _ => (PutM.isUniform_raw _).bind fun _ => isUniform_groups groups

/-- The bytes that are written for groups. -/
theorem bytes?_groups (groups : List Nat) :
    PutM.bytes? (groups.forM fun group => Put.uint16 (UInt16.ofNat group)) =
      .ok (groupBytes groups) := by
  induction groups with
  | nil => rfl
  | cons group groups ih =>
    exact PutM.bytes?_bind (PutM.isUniform_raw _) (isUniform_groups groups) (PutM.bytes?_raw _) ih

/-- The bytes that are written for a record. -/
theorem bytes?_putRecord (weight : Int) (negative : Bool) (scale : Nat) (groups : List Nat) :
    (putRecord weight negative scale groups).bytes? =
      .ok (recordBytes weight negative scale groups) := by
  have hraw (bytes : Bytes) : PutM.IsUniform (Put.raw bytes) := PutM.isUniform_raw bytes
  have hgroups := isUniform_groups groups
  have hscale := (hraw (BigEndian.encode 2 (UInt16.ofNat scale).toNat)).bind fun _ => hgroups
  have hsign := (hraw (BigEndian.encode 2 (if negative then negativeSign else 0 : UInt16).toNat)).bind
    fun _ => hscale
  have hweight := (hraw (BigEndian.encode 2 (Int16.ofInt weight).toUInt16.toNat)).bind fun _ => hsign
  refine PutM.bytes?_bind (hraw _) hweight (PutM.bytes?_raw _) ?_
  refine PutM.bytes?_bind (hraw _) hsign (PutM.bytes?_raw _) ?_
  refine PutM.bytes?_bind (hraw _) hscale (PutM.bytes?_raw _) ?_
  exact PutM.bytes?_bind (hraw _) hgroups (PutM.bytes?_raw _) (bytes?_groups groups)

/-- A number below the limit of two bytes is kept by them. -/
theorem toNat_ofNat_uint16 {n : Nat} (h : n < 2 ^ 16) : (UInt16.ofNat n).toNat = n := by
  rw [UInt16.toNat_ofNat']
  exact Nat.mod_eq_of_lt h

/-- A group below ten thousand is read back. -/
theorem reads_getGroup {group : Nat} (h : group < 10000) :
    Reads getGroup (BigEndian.encode 2 (UInt16.ofNat group).toNat) group := by
  have hgroup : (UInt16.ofNat group).toNat = group := toNat_ofNat_uint16 (by omega)
  refine (Get.reads_uint16 (UInt16.ofNat group)).lift.bind_nil ?_
  simp only [hgroup, if_pos h]
  exact GetM.reads_pure group

/-- The groups at positions that a record holds are read one after the other. -/
theorem reads_getGroupsFrom (present start : Nat) (found : List Nat) {groups : List Nat}
    (h : ∀ g ∈ groups, g < 10000) (hp : start + groups.length ≤ present) :
    Reads (getGroupsFrom present found start groups.length) (groupBytes groups)
      (found.reverse ++ groups) := by
  induction groups generalizing found start with
  | nil => simpa [getGroupsFrom, groupBytes] using GetM.reads_pure found.reverse
  | cons group groups ih =>
    rw [List.length_cons] at hp
    have hin : (0 : Int) ≤ start ∧ (start : Int) < present := by omega
    have hrest := ih (start + 1) (group :: found) (fun g hg => h g (by simp [hg])) (by omega)
    rw [List.reverse_cons, List.append_assoc] at hrest
    rw [List.length_cons, getGroupsFrom, if_pos hin]
    exact (reads_getGroup (h group (by simp))).bind hrest

/-- Positions that a record does not hold are read as zeros, from no bytes. -/
theorem reads_getGroupsFrom_absent (present count : Nat) (start : Int) (found : List Nat)
    (hp : present ≤ start) :
    Reads (getGroupsFrom present found start count) [] (found.reverse ++ List.replicate count 0) := by
  induction count generalizing found start with
  | zero => simpa [getGroupsFrom] using GetM.reads_pure found.reverse
  | succ count ih =>
    have hout : ¬ (0 ≤ start ∧ start < present) := by omega
    have hrest := ih (start + 1) (0 :: found) (by omega)
    simpa [getGroupsFrom, hout, List.replicate_succ] using hrest

/-- The header of a record is read back in front of its groups. -/
theorem reads_record {α : Type} (header : RecordHeader) {groups : List Nat}
    {f : RecordHeader → GetM CodecError α} {a : α} (hp : header.present = groups.length)
    (hg : groups.length < 2 ^ 16) (hw : -2 ^ 15 ≤ header.weight ∧ header.weight < 2 ^ 15)
    (hs : header.scale < 2 ^ 16) (hf : Reads (f header) (groupBytes groups) a) :
    Reads (getHeader >>= f) (recordBytes header.weight header.negative header.scale groups) a := by
  obtain ⟨present, weight, negative, scale⟩ := header
  obtain rfl : present = groups.length := hp
  have hsign : ((if negative then negativeSign else 0 : UInt16) != 0) = negative := by
    cases negative <;> rfl
  have hheader : Reads getHeader
      (BigEndian.encode 2 (UInt16.ofNat groups.length).toNat
        ++ (BigEndian.encode 2 (Int16.ofInt weight).toUInt16.toNat
        ++ (BigEndian.encode 2 (if negative then negativeSign else 0 : UInt16).toNat
        ++ BigEndian.encode 2 (UInt16.ofNat scale).toNat)))
      ⟨groups.length, weight, negative, scale⟩ := by
    refine (Get.reads_uint16 _).lift.bind ((Get.reads_int16 _).lift.bind ?_)
    refine (Get.reads_uint16 _).lift.bind ((Get.reads_uint16 _).lift.bind_nil ?_)
    rw [toNat_ofNat_uint16 hg, Int16.toInt_ofInt_of_le hw.1 hw.2, hsign, toNat_ofNat_uint16 hs]
    exact GetM.reads_pure _
  simpa [recordBytes] using hheader.bind hf

namespace Decimal

/-- The integral digits in whole groups. -/
def paddedIntegral (d : Decimal) : Digits := d.integralDigits.padFront

/-- The groups of all digits. -/
def allGroups (d : Decimal) : List Nat := (d.paddedIntegral ++ d.fraction.padBack).groups

/-- The guards of writing a number, in their order. -/
theorem put_eq (d : Decimal) :
    d.put =
      if 2 ^ 16 ≤ d.scale then throw (.invalidValue .decimalScaleTooLarge)
      else if d.isZero then liftM (putRecord 0 false d.scale [])
      else if 2 ^ 16 ≤ d.allGroups.length then throw (.invalidValue .decimalTooManyDigits)
      else if 2 ^ 15 ≤ d.paddedIntegral.length / 4 then
        throw (.invalidValue .decimalWeightTooLarge)
      else liftM (putRecord ((d.paddedIntegral.length / 4 : Nat) - 1) d.negative d.scale d.allGroups) :=
  rfl

/-- A number is written uniformly. -/
theorem isUniform_put (d : Decimal) : d.put.IsUniform := by
  rw [put_eq]
  repeat' split
  all_goals first
    | exact PutM.isUniform_throw _
    | exact (isUniform_putRecord _ _ _ _).lift

/-- The padded digits of the integral part fill whole groups. -/
theorem dvd_length_paddedIntegral (d : Decimal) : 4 ∣ d.paddedIntegral.length := by
  rw [paddedIntegral, Digits.length_padFront]
  exact Nat.dvd_mul_left 4 _

/-- Without their padding the integral digits are those of the number. -/
private theorem canonical_paddedIntegral (d : Decimal) : d.paddedIntegral.canonical = d.integral := by
  rw [paddedIntegral, Digits.canonical_padFront, integralDigits]
  split
  next h => exact (beq_iff_eq.mp h).symm
  next h => exact d.canonical_integral

/-- The groups are those of the integral part and then those of the fraction. -/
theorem allGroups_eq (d : Decimal) :
    d.allGroups = d.paddedIntegral.groups ++ d.fraction.padBack.groups := by
  refine Digits.groups_append d.dvd_length_paddedIntegral ?_
  rw [Digits.length_padBack]
  exact Nat.dvd_mul_left 4 _

/-- A number is made of groups that give its digits, but for the sign of a zero. -/
theorem ofGroups_eq {d : Decimal} {negative : Bool} {integral fraction : List Nat}
    (hs : d.isZero = true ∨ negative = d.negative)
    (hi : (Digits.ofGroups integral).canonical = d.integral)
    (hf : (Digits.ofGroups fraction).take d.scale = d.fraction) :
    ofGroups negative d.scale integral fraction = d.unsignedZero := by
  have hzero : ({ negative
                  integral := (Digits.ofGroups integral).canonical
                  fraction := (Digits.ofGroups fraction).take d.scale } : Decimal).isZero = d.isZero := by
    simp only [isZero, hi, hf]
  simp only [ofGroups, unsignedZero, hzero]
  split
  next hz =>
    ext1
    · rfl
    · exact hi
    · exact hf
  next hz =>
    ext1
    · exact hs.resolve_left hz
    · exact hi
    · exact hf

/-- A zero is read back from a record without groups, without its sign. -/
theorem reads_get_of_isZero {d : Decimal} (hz : d.isZero = true) (hs : d.scale < 2 ^ 16) :
    Reads get (recordBytes 0 false d.scale []) d.unsignedZero := by
  have hzeros : d.integral.allZero = true ∧ d.fraction.allZero = true := by
    simpa [isZero] using hz
  have hintegral : (Digits.ofGroups (List.replicate 1 0)).canonical = d.integral := by
    rw [Digits.ofGroups_replicate_zero, Digits.canonical_replicate,
      Digits.eq_zero_of_allZero d.canonical_integral hzeros.1]
  have hfraction : (Digits.ofGroups (List.replicate (Digits.groupCount d.scale) 0)).take d.scale =
      d.fraction := by
    have hcount : d.scale ≤ Digits.groupCount d.scale * 4 := by
      rw [Digits.groupCount]
      omega
    rw [Digits.ofGroups_replicate_zero, List.take_replicate, Nat.min_eq_left hcount]
    exact (Digits.eq_replicate_of_allZero hzeros.2).symm
  have hfirst := reads_getGroupsFrom_absent 0 1 0 [] (by simp)
  have hsecond := reads_getGroupsFrom_absent 0 (Digits.groupCount d.scale) 1 [] (by simp)
  refine reads_record ⟨0, 0, false, d.scale⟩ rfl (by simp) (by simp) hs ?_
  refine hfirst.bind (q := []) (hsecond.bind_nil ?_)
  rw [← ofGroups_eq (.inl hz) hintegral hfraction]
  exact GetM.reads_pure _

/-- A number with groups is read back from its record. -/
theorem reads_get_of_not_isZero {d : Decimal} (hs : d.scale < 2 ^ 16)
    (hg : d.allGroups.length < 2 ^ 16) (hi : d.paddedIntegral.length / 4 < 2 ^ 15) :
    Reads get (recordBytes ((d.paddedIntegral.length / 4 : Nat) - 1) d.negative d.scale d.allGroups)
      d.unsignedZero := by
  have hdvd : 4 ∣ d.fraction.padBack.length := by
    rw [Digits.length_padBack]
    exact Nat.dvd_mul_left 4 _
  have hcount : d.paddedIntegral.groups.length = d.paddedIntegral.length / 4 :=
    Digits.length_groups d.dvd_length_paddedIntegral
  have hrest : d.fraction.padBack.groups.length = Digits.groupCount d.scale := by
    rw [Digits.length_groups hdvd, Digits.length_padBack, scale]
    omega
  have hall : d.allGroups.length = d.paddedIntegral.length / 4 + Digits.groupCount d.scale := by
    rw [allGroups_eq, List.length_append, hcount, hrest]
  have hintegral : (Digits.ofGroups d.paddedIntegral.groups).canonical = d.integral := by
    rw [Digits.ofGroups_groups d.dvd_length_paddedIntegral, canonical_paddedIntegral]
  have hfraction : (Digits.ofGroups d.fraction.padBack.groups).take d.scale = d.fraction := by
    rw [Digits.ofGroups_groups hdvd, scale, Digits.take_padBack]
  have hfirst := reads_getGroupsFrom d.allGroups.length 0 []
    (Digits.groups_lt d.dvd_length_paddedIntegral) (by omega)
  have hsecond := reads_getGroupsFrom d.allGroups.length (d.paddedIntegral.length / 4) []
    (Digits.groups_lt hdvd) (by omega)
  rw [hcount] at hfirst
  rw [hrest] at hsecond
  have hweight : ((d.paddedIntegral.length / 4 : Nat) : Int) - 1 + 1 = (d.paddedIntegral.length / 4 : Nat) := by
    omega
  have hbytes : groupBytes d.allGroups =
      groupBytes d.paddedIntegral.groups ++ groupBytes d.fraction.padBack.groups := by
    simp only [groupBytes, allGroups_eq, List.flatMap_append]
  refine reads_record
    ⟨d.allGroups.length, (d.paddedIntegral.length / 4 : Nat) - 1, d.negative, d.scale⟩ rfl hg ?_ hs ?_
  · dsimp only
    omega
  · simp only [hweight, hbytes, Int.toNat_natCast]
    refine hfirst.bind (hsecond.bind_nil ?_)
    rw [← ofGroups_eq (.inr rfl) hintegral hfraction]
    exact GetM.reads_pure _

/-- What is written for a number is read back as that number, with no sign if it is zero. -/
theorem reads_get {d : Decimal} {b : Bytes} (h : d.put.bytes? = .ok b) : Reads get b d.unsignedZero := by
  rw [put_eq] at h
  split at h
  · simp at h
  next hs =>
    split at h
    next hz =>
      rw [PutM.bytes?_liftM_eq_ok, bytes?_putRecord, Except.ok.injEq] at h
      exact h ▸ reads_get_of_isZero hz (by omega)
    next hz =>
      split at h
      · simp at h
      next hg =>
        split at h
        · simp at h
        next hi =>
          rw [PutM.bytes?_liftM_eq_ok, bytes?_putRecord, Except.ok.injEq] at h
          exact h ▸ reads_get_of_not_isZero (by omega) (by omega) (by omega)

end Decimal

namespace BigInt

/-- The groups of an integer. -/
def allGroups (n : BigInt) : List Nat := n.digits.padFront.groups

/-- The guards of writing an integer, in their order. -/
theorem put_eq (n : BigInt) :
    n.put =
      if n.isZero then liftM (putRecord 0 false 0 [])
      else if 2 ^ 16 ≤ n.allGroups.length then throw (.invalidValue .bigintTooManyDigits)
      else if 2 ^ 15 ≤ n.allGroups.length then throw (.invalidValue .bigintWeightTooLarge)
      else liftM (putRecord ((n.allGroups.length : Int) - 1) n.negative 0 n.allGroups) :=
  rfl

/-- An integer is written uniformly. -/
theorem isUniform_put (n : BigInt) : n.put.IsUniform := by
  rw [put_eq]
  repeat' split
  all_goals first
    | exact PutM.isUniform_throw _
    | exact (isUniform_putRecord _ _ _ _).lift

/-- An integer is made of groups that give its digits. -/
theorem ofDigits_ofGroups {n : BigInt} {groups : List Nat}
    (h : (Digits.ofGroups groups).canonical = n.digits) :
    ofDigits n.negative (Digits.ofGroups groups) = n := by
  ext1
  · by_cases hz : n.digits = [0]
    · simp [ofDigits, h, hz, n.unsigned_zero hz]
    · simp [ofDigits, h, hz]
  · exact h

/-- Zero is read back from a record without groups. -/
theorem reads_get_of_isZero {n : BigInt} (hz : n.isZero = true) :
    Reads get (recordBytes 0 false 0 []) n := by
  have hdigits : n.digits = [0] := beq_iff_eq.mp hz
  have hgroups : (Digits.ofGroups (List.replicate 1 0)).canonical = n.digits := by
    rw [Digits.ofGroups_replicate_zero, Digits.canonical_replicate, hdigits]
  have hvalue := ofDigits_ofGroups hgroups
  rw [n.unsigned_zero hdigits] at hvalue
  have hfirst := reads_getGroupsFrom_absent 0 1 0 [] (by simp)
  refine reads_record ⟨0, 0, false, 0⟩ rfl (by simp) (by simp) (by simp) ?_
  refine hfirst.bind_nil ?_
  rw [← hvalue]
  exact GetM.reads_pure _

/-- An integer with groups is read back from its record. -/
theorem reads_get_of_groups {n : BigInt} (hg : n.allGroups.length < 2 ^ 15) :
    Reads get (recordBytes ((n.allGroups.length : Int) - 1) n.negative 0 n.allGroups) n := by
  have hdvd : 4 ∣ n.digits.padFront.length := by
    rw [Digits.length_padFront]
    exact Nat.dvd_mul_left 4 _
  have hgroups : (Digits.ofGroups n.allGroups).canonical = n.digits := by
    rw [allGroups, Digits.ofGroups_groups hdvd, Digits.canonical_padFront, n.canonical_digits]
  have hfirst := reads_getGroupsFrom n.allGroups.length 0 [] (Digits.groups_lt hdvd)
    (by rw [allGroups]; omega)
  refine reads_record ⟨n.allGroups.length, (n.allGroups.length : Int) - 1, n.negative, 0⟩ rfl
    (by omega) ?_ (by simp) ?_
  · dsimp only
    omega
  · simp only [Int.sub_add_cancel, Int.toNat_natCast]
    refine hfirst.bind_nil ?_
    change Reads (pure (ofDigits n.negative (Digits.ofGroups n.allGroups))) [] n
    rw [ofDigits_ofGroups hgroups]
    exact GetM.reads_pure n

/-- What is written for an integer is read back as that integer. -/
theorem reads_get {n : BigInt} {b : Bytes} (h : n.put.bytes? = .ok b) : Reads get b n := by
  rw [put_eq] at h
  split at h
  next hz =>
    rw [PutM.bytes?_liftM_eq_ok, bytes?_putRecord, Except.ok.injEq] at h
    exact h ▸ reads_get_of_isZero hz
  next hz =>
    split at h
    · simp at h
    next hg =>
      split at h
      · simp at h
      next hw =>
        rw [PutM.bytes?_liftM_eq_ok, bytes?_putRecord, Except.ok.injEq] at h
        exact h ▸ reads_get_of_groups (by omega)

end BigInt

end GelClient
