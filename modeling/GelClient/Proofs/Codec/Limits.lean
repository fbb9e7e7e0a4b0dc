import GelClient.Proofs.Codec.Denotation
import Mathlib.Algebra.Group.Nat.Defs

/-!
# Which numbers fit a record

A record has a scale of two bytes and a weight of two bytes with a sign. A number is written if its scale
fits and if its integral digits fill at most 32767 groups, which is one group less than the weight could
tell; other numbers are refused before anything is written. What was written is read back as the same
number.

So a number that was received can be sent back, unless its first group has the highest weight of all and is
not zero.
-/

namespace GelClient

open Packet (Put PutM Get GetM Reader Writer)
open Packet.GetM (Reads)

namespace Decimal

/-- The number fits a record: its scale does, and so do its integral digits unless it is zero. -/
def FitsRecord (d : Decimal) : Prop :=
  d.scale ≤ 65535 ∧ (d.isZero = false → Digits.groupCount d.integralDigits.length ≤ 32767)

/-- The integral digits that are written have no leading zero. -/
private theorem head?_integralDigits (d : Decimal) : d.integralDigits.head? ≠ some 0 := by
  unfold integralDigits
  split
  next => simp
  next h => exact fun hhead => h (by simp [(Digits.leading_of_canonical d.canonical_integral).2 hhead])

/-- The integral digits that are written denote the integral part. -/
private theorem value_integralDigits (d : Decimal) : d.integralDigits.value = d.integral.value := by
  unfold integralDigits
  split
  next h =>
    rw [beq_iff_eq.mp h]
    rfl
  next => rfl

/-- The integral digits are padded to whole groups. -/
private theorem length_paddedIntegral (d : Decimal) :
    d.paddedIntegral.length / 4 = Digits.groupCount d.integralDigits.length := by
  rw [paddedIntegral, Digits.length_padFront, Nat.mul_div_cancel _ (by decide)]

/-- The groups of a number are those of its integral digits and those of its scale. -/
theorem length_allGroups (d : Decimal) :
    d.allGroups.length = Digits.groupCount d.integralDigits.length + Digits.groupCount d.scale := by
  have hdvd : 4 ∣ d.fraction.padBack.length := by
    rw [Digits.length_padBack]
    exact Nat.dvd_mul_left 4 _
  rw [allGroups_eq, List.length_append, Digits.length_groups d.dvd_length_paddedIntegral,
    length_paddedIntegral, Digits.length_groups hdvd, Digits.length_padBack,
    Nat.mul_div_cancel _ (by decide), scale]

/-- A number that fills groups in front of the point is not zero. -/
theorem isZero_of_integralDigits {d : Decimal} (h : 0 < Digits.groupCount d.integralDigits.length) :
    d.isZero = false := by
  by_contra hz
  have hintegral : d.integral = [0] := by
    refine Digits.eq_zero_of_allZero d.canonical_integral ?_
    rw [Bool.not_eq_false, isZero, Bool.and_eq_true] at hz
    exact hz.1
  rw [integralDigits, hintegral] at h
  exact absurd h (by decide)

/-- A number that fits is written as a record. -/
theorem put_of_fitsRecord {d : Decimal} (h : d.FitsRecord) :
    ∃ weight negative groups, d.put = liftM (putRecord weight negative d.scale groups) := by
  obtain ⟨hscale, hintegral⟩ := h
  rw [put_eq, if_neg (by omega)]
  cases hz : d.isZero with
  | true => exact ⟨0, false, [], if_pos rfl⟩
  | false =>
    have hweight := hintegral hz
    have hcount : Digits.groupCount d.scale ≤ 16384 := by
      rw [Digits.groupCount]
      omega
    rw [if_neg (by decide), if_neg (by rw [length_allGroups]; omega),
      if_neg (by rw [length_paddedIntegral]; omega)]
    exact ⟨_, _, _, rfl⟩

/-- A number that does not fit is refused as an invalid value. -/
theorem put_of_not_fitsRecord {d : Decimal} (h : ¬ d.FitsRecord) :
    ∃ fault, d.put = throw (.invalidValue fault) := by
  rw [put_eq]
  by_cases hscale : 2 ^ 16 ≤ d.scale
  · exact ⟨_, if_pos hscale⟩
  · obtain ⟨hz, hwide⟩ : d.isZero = false ∧ 32767 < Digits.groupCount d.integralDigits.length := by
      by_contra hfits
      exact h ⟨by omega, fun hz => by by_contra hwide; exact hfits ⟨hz, by omega⟩⟩
    rw [if_neg hscale, hz, if_neg (by decide)]
    split
    · exact ⟨_, rfl⟩
    · rw [if_pos (by rw [length_paddedIntegral]; omega)]
      exact ⟨_, rfl⟩

/-- A number with one integral group too many is refused for its weight. -/
theorem put_of_groupCount_eq {d : Decimal} (hs : d.scale ≤ 65535)
    (h : Digits.groupCount d.integralDigits.length = 32768) :
    d.put = throw (.invalidValue .decimalWeightTooLarge) := by
  have hcount : Digits.groupCount d.scale ≤ 16384 := by
    rw [Digits.groupCount]
    omega
  rw [put_eq, if_neg (by omega), isZero_of_integralDigits (by omega), if_neg (by decide),
    if_neg (by rw [length_allGroups]; omega), if_pos (by rw [length_paddedIntegral]; omega)]

end Decimal

namespace BigInt

/-- The integer fits a record: its digits do, unless it is zero. -/
def FitsRecord (n : BigInt) : Prop := n.isZero = false → Digits.groupCount n.digits.length ≤ 32767

/-- The groups of an integer are those that its digits fill. -/
theorem length_allGroups (n : BigInt) : n.allGroups.length = Digits.groupCount n.digits.length := by
  have hdvd : 4 ∣ n.digits.padFront.length := by
    rw [Digits.length_padFront]
    exact Nat.dvd_mul_left 4 _
  rw [allGroups, Digits.length_groups hdvd, Digits.length_padFront, Nat.mul_div_cancel _ (by decide)]

/-- The digits of an integer that is not zero have no leading zero. -/
private theorem head?_digits {n : BigInt} (h : n.isZero = false) : n.digits.head? ≠ some 0 := by
  intro hhead
  have hzero := (Digits.leading_of_canonical n.canonical_digits).2 hhead
  rw [isZero, hzero] at h
  exact absurd h (by decide)

/-- An integer that fits is written as a record. -/
theorem put_of_fitsRecord {n : BigInt} (h : n.FitsRecord) :
    ∃ weight negative groups, n.put = liftM (putRecord weight negative 0 groups) := by
  rw [put_eq]
  cases hz : n.isZero with
  | true => exact ⟨0, false, [], if_pos rfl⟩
  | false =>
    have hwidth := h hz
    rw [← length_allGroups] at hwidth
    rw [if_neg (by decide), if_neg (by omega), if_neg (by omega)]
    exact ⟨_, _, _, rfl⟩

/-- An integer that does not fit is refused as an invalid value. -/
theorem put_of_not_fitsRecord {n : BigInt} (h : ¬ n.FitsRecord) :
    ∃ fault, n.put = throw (.invalidValue fault) := by
  obtain ⟨hz, hwide⟩ := Classical.not_imp.mp h
  rw [← length_allGroups] at hwide
  rw [put_eq, hz, if_neg (by decide)]
  split
  · exact ⟨_, rfl⟩
  · rw [if_pos (by omega)]
    exact ⟨_, rfl⟩

/-- An integer with one group too many is refused for its weight. -/
theorem put_of_groupCount_eq {n : BigInt} (hz : n.isZero = false)
    (h : Digits.groupCount n.digits.length = 32768) :
    n.put = throw (.invalidValue .bigintWeightTooLarge) := by
  rw [← length_allGroups] at h
  rw [put_eq, hz, if_neg (by decide), if_neg (by omega), if_pos (by omega)]

end BigInt

/-- What is written as a record is never refused as an invalid value, whatever the writer. -/
theorem putRecord_ne_invalidValue (weight : Int) (negative : Bool) (scale : Nat) (groups : List Nat)
    (fault : ValueFault) (w v : Writer) :
    (liftM (putRecord weight negative scale groups) : PutM CodecError Unit) w ≠
      .error (.invalidValue fault) v := by
  rw [PutM.liftM_apply]
  cases putRecord weight negative scale groups w with
  | ok a u => exact fun h => by cases h
  | error e u => exact fun h => by cases h

/-- A decimal number that fits is written to every open writer and read back without the sign of a zero. -/
theorem Decimal.FitsRecord.written {d : Decimal} (h : d.FitsRecord) :
    ∃ bytes, (∀ w : Writer, w.IsOpen → d.put w = .ok () (w.append bytes)) ∧
      ∀ n, Decimal.get ⟨bytes, n⟩ = .ok d.unsignedZero ⟨[], n + bytes.length⟩ := by
  obtain ⟨weight, negative, groups, hput⟩ := put_of_fitsRecord h
  have hbytes : d.put.bytes? = .ok (recordBytes weight negative d.scale groups) := by
    rw [hput, PutM.bytes?_liftM_eq_ok, bytes?_putRecord]
  exact ⟨_, fun w hw => d.isUniform_put.eq_ok hbytes hw, (reads_get hbytes).eq_ok⟩

/-- An integer that fits is written to every open writer and read back. -/
theorem BigInt.FitsRecord.written {i : BigInt} (h : i.FitsRecord) :
    ∃ bytes, (∀ w : Writer, w.IsOpen → i.put w = .ok () (w.append bytes)) ∧
      ∀ n, BigInt.get ⟨bytes, n⟩ = .ok i ⟨[], n + bytes.length⟩ := by
  obtain ⟨weight, negative, groups, hput⟩ := put_of_fitsRecord h
  have hbytes : i.put.bytes? = .ok (recordBytes weight negative 0 groups) := by
    rw [hput, PutM.bytes?_liftM_eq_ok, bytes?_putRecord]
  exact ⟨_, fun w hw => i.isUniform_put.eq_ok hbytes hw, (reads_get hbytes).eq_ok⟩

/-- A number is written to every open writer just if it fits a record: no limit but those refuses it, and
beyond them it is refused as an invalid value, with nothing written to any writer. The bytes that are written
are all read, as the same number with the same fraction digits and without the sign of a zero. -/
theorem readBack_iff_fitsRecord :
    (∀ d : Decimal,
      (d.FitsRecord → (∀ w fault v, d.put w ≠ .error (.invalidValue fault) v) ∧
        ∃ bytes, (∀ w : Writer, w.IsOpen → d.put w = .ok () (w.append bytes)) ∧
          ∃ d', (∀ n, Decimal.get ⟨bytes, n⟩ = .ok d' ⟨[], n + bytes.length⟩) ∧ d'.toRat = d.toRat ∧
            d'.integral = d.integral ∧ d'.fraction = d.fraction ∧
            d'.negative = (d.negative && !d.isZero)) ∧
      (¬ d.FitsRecord → ∃ fault, ∀ w, d.put w = .error (.invalidValue fault) w)) ∧
    ∀ i : BigInt,
      (i.FitsRecord → (∀ w fault v, i.put w ≠ .error (.invalidValue fault) v) ∧
        ∃ bytes, (∀ w : Writer, w.IsOpen → i.put w = .ok () (w.append bytes)) ∧
          ∀ n, BigInt.get ⟨bytes, n⟩ = .ok i ⟨[], n + bytes.length⟩) ∧
      (¬ i.FitsRecord → ∃ fault, ∀ w, i.put w = .error (.invalidValue fault) w) := by
  refine ⟨fun d => ⟨fun h => ⟨fun w fault v => ?_, ?_⟩, fun h => ?_⟩,
    fun i => ⟨fun h => ⟨fun w fault v => ?_, h.written⟩, fun h => ?_⟩⟩
  · obtain ⟨weight, negative, groups, hput⟩ := Decimal.put_of_fitsRecord h
    rw [hput]
    exact putRecord_ne_invalidValue _ _ _ _ fault w v
  · obtain ⟨bytes, hwrite, hread⟩ := h.written
    refine ⟨bytes, hwrite, d.unsignedZero, hread, d.toRat_unsignedZero, ?_, ?_, ?_⟩
    all_goals unfold Decimal.unsignedZero; split
    all_goals simp_all
  · obtain ⟨fault, hput⟩ := Decimal.put_of_not_fitsRecord h
    exact ⟨fault, fun w => by rw [hput]; rfl⟩
  · obtain ⟨weight, negative, groups, hput⟩ := BigInt.put_of_fitsRecord h
    rw [hput]
    exact putRecord_ne_invalidValue _ _ _ _ fault w v
  · obtain ⟨fault, hput⟩ := BigInt.put_of_not_fitsRecord h
    exact ⟨fault, fun w => by rw [hput]; rfl⟩

/-- An integer of ones in a row, one more than `count`. -/
def BigInt.ones (count : Nat) : BigInt where
  negative := false
  digits := 1 :: List.replicate count 1
  canonical_digits := Digits.canonical_cons (by decide) _
  unsigned_zero _ := rfl

/-- Ones fit a record as long as they fill no more than 32767 groups. -/
theorem BigInt.fitsRecord_ones (count : Nat) : (ones count).FitsRecord ↔ count < 131068 := by
  have hz : (ones count).isZero = false := by simp [isZero, ones]
  have hlength : (ones count).digits.length = count + 1 := by simp [ones]
  rw [FitsRecord, hlength, Digits.groupCount]
  simp only [hz, true_imp_iff]
  omega

/-- The greatest number of ones is read back and one more is refused, and so is a scale of 65536 digits. -/
theorem readBack_iff_fitsRecord_ones :
    (∃ bytes, (∀ w : Writer, w.IsOpen → (BigInt.ones 131067).put w = .ok () (w.append bytes)) ∧
      ∀ n, BigInt.get ⟨bytes, n⟩ = .ok (BigInt.ones 131067) ⟨[], n + bytes.length⟩) ∧
    (∃ fault, ∀ w, (BigInt.ones 131068).put w = .error (.invalidValue fault) w) ∧
    (∃ bytes, (∀ w : Writer, w.IsOpen → (Decimal.zeroCents true).put w = .ok () (w.append bytes)) ∧
      ∃ d', (∀ n, Decimal.get ⟨bytes, n⟩ = .ok d' ⟨[], n + bytes.length⟩) ∧
        d'.fraction = [0, 0] ∧ d'.negative = false) ∧
    ∃ fault, ∀ w, (⟨false, [0], List.replicate 65536 0, rfl⟩ : Decimal).put w =
      .error (.invalidValue fault) w := by
  have hfits : (Decimal.zeroCents true).FitsRecord := ⟨by decide, fun hz => absurd hz (by decide)⟩
  have hscale : ¬ (⟨false, [0], List.replicate 65536 0, rfl⟩ : Decimal).FitsRecord := by
    rintro ⟨hscale, -⟩
    rw [Decimal.scale, List.length_replicate] at hscale
    omega
  obtain ⟨bytes, hwrite, d', hread, -, -, hfraction, hsign⟩ :=
    ((readBack_iff_fitsRecord.1 (Decimal.zeroCents true)).1 hfits).2
  refine ⟨((readBack_iff_fitsRecord.2 _).1 ((BigInt.fitsRecord_ones _).mpr (by omega))).2,
    (readBack_iff_fitsRecord.2 _).2 fun h => absurd ((BigInt.fitsRecord_ones _).mp h) (by omega),
    ⟨bytes, hwrite, d', hread, hfraction, hsign⟩, (readBack_iff_fitsRecord.1 _).2 hscale⟩

namespace Record

/-- The record's first group has the highest weight that there is, and is not zero. -/
def AtTop (r : Record) : Prop :=
  r.weight.toInt = 32767 ∧ groupAt r.present.toNat r.groups 0 ≠ 0

/-- A record is not at the top if another weight is read from it. -/
theorem not_atTop_of_getHeader {r : Record} {n : Nat} {header : RecordHeader} {s : Reader}
    (h : getHeader ⟨r.toBytes, n⟩ = .ok header s) (hweight : header.weight ≠ 32767) : ¬ r.AtTop := by
  obtain rfl := header_of_getHeader h
  exact fun htop => hweight htop.1

/-- The integral digits of a record fill no more groups than its weight says, and one less just if its first
group is zero. -/
theorem value_integralGroups_lt_iff (r : Record) (h : Readable r.groups r.integerGroups) {m : Nat}
    (hm : r.weight.toInt ≤ m) :
    Digits.value (Digits.ofGroups r.integralGroups) < 10000 ^ m ↔
      ¬ (r.weight.toInt = m ∧ groupAt r.present.toNat r.groups 0 ≠ 0) := by
  by_cases htop : r.weight.toInt = m
  · have hcount : (r.weight.toInt + 1).toNat = m + 1 := by omega
    have hfirst : Readable r.groups (heldBefore r.present.toNat (0 + 1)) :=
      h.mono (heldBefore_mono _ (by omega))
    have hiff := Digits.value_ofGroups_cons_lt_iff hfirst.groupAt_lt
      (groupsAt r.present.toNat r.groups (0 + 1) m)
    rw [length_groupsAt] at hiff
    rw [integralGroups, hcount, groupsAt_succ, hiff]
    simp [htop]
  · have hvalue := Digits.value_ofGroups_lt r.integralGroups
    have hcount : r.integralGroups.length ≤ m := by
      rw [integralGroups, length_groupsAt]
      omega
    exact iff_of_true (Nat.lt_of_lt_of_le hvalue (Nat.pow_le_pow_right (by decide) hcount))
      fun hboth => htop hboth.1

/-- The integral digits of a decimal number are those of the groups in front of the point. -/
theorem integral_decimal (r : Record) : r.decimal.integral = (Digits.ofGroups r.integralGroups).canonical := by
  rw [decimal, Decimal.ofGroups, Decimal.unsignedZero]
  split <;> rfl

/-- How many groups the integral digits of a decimal number fill. -/
theorem groupCount_decimal_le_iff (r : Record) (h : Readable r.groups r.integerGroups) {m : Nat}
    (hm : r.weight.toInt ≤ m) :
    Digits.groupCount r.decimal.integralDigits.length ≤ m ↔
      ¬ (r.weight.toInt = m ∧ groupAt r.present.toNat r.groups 0 ≠ 0) := by
  rw [Digits.groupCount_le_iff r.decimal.head?_integralDigits, Decimal.value_integralDigits,
    integral_decimal, Digits.value_canonical, r.value_integralGroups_lt_iff h hm]

/-- How many groups the digits of an integer that is not zero fill. -/
theorem groupCount_integer_le_iff (r : Record) (h : Readable r.groups r.integerGroups)
    (hz : r.integer.isZero = false) {m : Nat} (hm : r.weight.toInt ≤ m) :
    Digits.groupCount r.integer.digits.length ≤ m ↔
      ¬ (r.weight.toInt = m ∧ groupAt r.present.toNat r.groups 0 ≠ 0) := by
  have hvalue : r.integer.digits.value = Digits.value (Digits.ofGroups r.integralGroups) :=
    Digits.value_canonical _
  rw [Digits.groupCount_le_iff (BigInt.head?_digits hz), hvalue, r.value_integralGroups_lt_iff h hm]

/-- An integer with a first group that is not zero at its weight is not zero. -/
private theorem isZero_integer (r : Record) (h : Readable r.groups r.integerGroups) {m : Nat}
    (hm : r.weight.toInt ≤ m) (htop : r.weight.toInt = m ∧ groupAt r.present.toNat r.groups 0 ≠ 0) :
    r.integer.isZero = false := by
  by_contra hzero
  have hdigits : r.integer.digits = [0] := beq_iff_eq.mp (Bool.not_eq_false _ ▸ hzero)
  have hvalue : Digits.value (Digits.ofGroups r.integralGroups) = 0 := by
    rw [← Digits.value_canonical]
    exact congrArg Digits.value hdigits
  refine (r.value_integralGroups_lt_iff h hm).mp ?_ htop
  rw [hvalue]
  exact Nat.pow_pos (by decide)

/-- No weight is higher than the highest. -/
theorem weight_le (r : Record) : r.weight.toInt ≤ (32767 : Nat) := by
  have := r.weight.toInt_lt
  omega

/-- A decimal number that is received fits a record, unless the record has a first group at the top. -/
theorem fitsRecord_decimal (r : Record) (h : Readable r.groups r.integerGroups) (htop : ¬ r.AtTop) :
    r.decimal.FitsRecord := by
  refine ⟨?_, fun _ => (r.groupCount_decimal_le_iff h r.weight_le).mpr htop⟩
  have := r.scale.toNat_lt
  rw [scale_decimal]
  omega

/-- An integer that is received fits a record, unless the record has a first group at the top. -/
theorem fitsRecord_integer (r : Record) (h : Readable r.groups r.integerGroups) (htop : ¬ r.AtTop) :
    r.integer.FitsRecord :=
  fun hz => (r.groupCount_integer_le_iff h hz r.weight_le).mpr htop

/-- A decimal number with a first group at the top is refused for its weight. -/
theorem put_decimal_of_atTop (r : Record) (h : Readable r.groups r.integerGroups) (htop : r.AtTop) :
    r.decimal.put = throw (.invalidValue .decimalWeightTooLarge) := by
  have hle := (r.groupCount_decimal_le_iff h (m := 32768) (by have := r.weight_le; omega)).mpr
    fun hboth => absurd r.weight_le (by omega)
  have hgt : ¬ Digits.groupCount r.decimal.integralDigits.length ≤ 32767 := fun hle =>
    (r.groupCount_decimal_le_iff h r.weight_le).mp hle htop
  have := r.scale.toNat_lt
  exact Decimal.put_of_groupCount_eq (by rw [scale_decimal]; omega) (by omega)

/-- An integer with a first group at the top is refused for its weight. -/
theorem put_integer_of_atTop (r : Record) (h : Readable r.groups r.integerGroups) (htop : r.AtTop) :
    r.integer.put = throw (.invalidValue .bigintWeightTooLarge) := by
  have hz : r.integer.isZero = false := r.isZero_integer h r.weight_le htop
  have hle := (r.groupCount_integer_le_iff h hz (m := 32768) (by have := r.weight_le; omega)).mpr
    fun hboth => absurd r.weight_le (by omega)
  have hgt : ¬ Digits.groupCount r.integer.digits.length ≤ 32767 := fun hle =>
    (r.groupCount_integer_le_iff h hz r.weight_le).mp hle htop
  exact BigInt.put_of_groupCount_eq hz (by omega)

/-- A number that was read from a packet is written again and read back, unless the first group of the packet
has the highest weight and is not zero. Then it fills one group more than is written, and it is refused for
its weight, with nothing written. -/
theorem sentBack_of_get :
    (∀ bytes n d s, Decimal.get ⟨bytes, n⟩ = .ok d s →
      ∃ r : Record, bytes = r.toBytes ∧
        (¬ r.AtTop → ∃ sent, (∀ w : Writer, w.IsOpen → d.put w = .ok () (w.append sent)) ∧
          ∀ m, Decimal.get ⟨sent, m⟩ = .ok d ⟨[], m + sent.length⟩) ∧
        (r.AtTop → ∀ w, d.put w = .error (.invalidValue .decimalWeightTooLarge) w)) ∧
    ∀ bytes n i s, BigInt.get ⟨bytes, n⟩ = .ok i s →
      ∃ r : Record, bytes = r.toBytes ∧
        (¬ r.AtTop → ∃ sent, (∀ w : Writer, w.IsOpen → i.put w = .ok () (w.append sent)) ∧
          ∀ m, BigInt.get ⟨sent, m⟩ = .ok i ⟨[], m + sent.length⟩) ∧
        (r.AtTop → ∀ w, i.put w = .error (.invalidValue .bigintWeightTooLarge) w) := by
  constructor
  · intro bytes n d s h
    have hsign : d.unsignedZero = d := Decimal.unsignedZero_eq_self.mpr (Decimal.isNegativeZero_of_get h)
    obtain ⟨r, rfl, hread, rfl⟩ := exists_of_getDecimal h
    refine ⟨r, rfl, fun htop => ?_, fun htop w => ?_⟩
    · obtain ⟨sent, hwrite, hback⟩ := (r.fitsRecord_decimal hread htop).written
      rw [hsign] at hback
      exact ⟨sent, hwrite, hback⟩
    · rw [r.put_decimal_of_atTop hread htop]
      rfl
  · intro bytes n i s h
    obtain ⟨r, rfl, hread, rfl⟩ := exists_of_getInteger h
    refine ⟨r, rfl, fun htop => (r.fitsRecord_integer hread htop).written, fun htop w => ?_⟩
    rw [r.put_integer_of_atTop hread htop]
    rfl

/-- A small number is read and sent back. -/
theorem sentBack_of_get_seven :
    Decimal.get ⟨[0, 1, 0, 0, 0, 0, 0, 0, 0, 7], 0⟩ = .ok ⟨false, [7], [], rfl⟩ ⟨[], 10⟩ ∧
    (∃ sent, (∀ w : Writer, w.IsOpen →
        (⟨false, [7], [], rfl⟩ : Decimal).put w = .ok () (w.append sent)) ∧
      ∀ m, Decimal.get ⟨sent, m⟩ = .ok ⟨false, [7], [], rfl⟩ ⟨[], m + sent.length⟩) ∧
    ∃ sent, (∀ w : Writer, w.IsOpen →
        (⟨false, [7], rfl, fun _ => rfl⟩ : BigInt).put w = .ok () (w.append sent)) ∧
      ∀ m, BigInt.get ⟨sent, m⟩ = .ok ⟨false, [7], rfl, fun _ => rfl⟩ ⟨[], m + sent.length⟩ := by
  have hdecimal : Decimal.get ⟨[0, 1, 0, 0, 0, 0, 0, 0, 0, 7], 0⟩ = .ok ⟨false, [7], [], rfl⟩ ⟨[], 10⟩ := rfl
  have hinteger : BigInt.get ⟨[0, 1, 0, 0, 0, 0, 0, 0, 0, 7], 0⟩ =
      .ok ⟨false, [7], rfl, fun _ => rfl⟩ ⟨[], 10⟩ := rfl
  have hheader : getHeader ⟨[0, 1, 0, 0, 0, 0, 0, 0, 0, 7], 0⟩ = .ok ⟨1, 0, false, 0⟩ ⟨[0, 7], 8⟩ := rfl
  obtain ⟨r, hr, hback, -⟩ := sentBack_of_get.1 _ _ _ _ hdecimal
  obtain ⟨q, hq, hreturn, -⟩ := sentBack_of_get.2 _ _ _ _ hinteger
  exact ⟨hdecimal, hback (not_atTop_of_getHeader (hr ▸ hheader) (by decide)),
    hreturn (not_atTop_of_getHeader (hq ▸ hheader) (by decide))⟩

/-- The record of one group at the top, which is a one with 131068 zeros behind it. -/
def oneAtTop : Record := ⟨1, 32767, 0, 0, [0, 1]⟩

/-- Both numbers are read from the record of one group at the top, and no writer takes either of them. -/
theorem exists_received_not_sent :
    (∃ d s, Decimal.get ⟨oneAtTop.toBytes, 0⟩ = .ok d s ∧
      ∀ w, d.put w = .error (.invalidValue .decimalWeightTooLarge) w) ∧
    ∃ i s, BigInt.get ⟨oneAtTop.toBytes, 0⟩ = .ok i s ∧
      ∀ w, i.put w = .error (.invalidValue .bigintWeightTooLarge) w := by
  have hread : Readable oneAtTop.groups 1 := by
    intro i hi
    obtain rfl : i = 0 := by omega
    exact ⟨1, rfl, by decide⟩
  have htop : oneAtTop.AtTop := ⟨by decide, by decide⟩
  refine ⟨⟨_, _, oneAtTop.getDecimal_eq 0 hread, fun w => ?_⟩, _, _, oneAtTop.getInteger_eq 0 hread, fun w => ?_⟩
  · rw [oneAtTop.put_decimal_of_atTop hread htop]
    rfl
  · rw [oneAtTop.put_integer_of_atTop hread htop]
    rfl

end Record

end GelClient
