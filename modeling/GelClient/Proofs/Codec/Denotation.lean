import GelClient.Proofs.Codec.Counters
import GelClient.Proofs.Number.Canonical
import Mathlib.Algebra.Order.BigOperators.Group.Finset
import Mathlib.Algebra.Order.Floor.Semifield
import Mathlib.Data.Rat.Floor

/-!
# The number that a record denotes

A record denotes the sum of its groups, each times ten thousand to the power of its weight, with the sign of
the header. What is read from it is that sum cut towards zero: to the fraction digits of the scale for a
decimal number, and to a whole number for an integer.

Only the groups that reach a place that is kept are read, and the others are not looked at. Below ten
thousand they do not change what is kept, and the sum of all groups is cut to the same number. A group that
is not read may also be ten thousand or more, which makes up a unit of a place that is kept; then only the
sum of the groups that are read is what comes out.
-/

namespace GelClient

open Packet (GetM)

/-- A number without what is behind its point. -/
def truncate (x : ℚ) : ℤ := if 0 ≤ x then ⌊x⌋ else ⌈x⌉

/-- A number without what is behind its first fraction digits. -/
def truncateTo (scale : Nat) (x : ℚ) : ℚ := truncate (x * 10 ^ scale) / 10 ^ scale

/-- Cutting a number towards zero does not look at its sign. -/
private theorem truncate_signed (negative : Bool) {x : ℚ} (h : 0 ≤ x) :
    (truncate (signed negative x) : ℚ) = signed negative ⌊x⌋₊ := by
  have hfloor : ((⌊x⌋₊ : ℕ) : ℤ) = ⌊x⌋ := Int.natCast_floor_eq_floor h
  cases negative with
  | false =>
    simp only [truncate, signed, if_pos h, Bool.false_eq_true, if_false]
    rw [← hfloor, Int.cast_natCast]
  | true =>
    simp only [truncate, signed, if_true]
    split
    next hneg =>
      obtain rfl : x = 0 := le_antisymm (by linarith) h
      simp
    next hneg =>
      rw [Int.ceil_neg, ← hfloor, Int.cast_neg, Int.cast_natCast]

/-- Cutting a number to a scale does not look at its sign. -/
private theorem truncateTo_signed (negative : Bool) (scale : Nat) {x : ℚ} (h : 0 ≤ x) :
    truncateTo scale (signed negative x) = signed negative (⌊x * 10 ^ scale⌋₊ / 10 ^ scale) := by
  have hmul : signed negative x * 10 ^ scale = signed negative (x * 10 ^ scale) := by
    cases negative <;> simp [signed]
  have hdiv (y z : ℚ) : signed negative y / z = signed negative (y / z) := by
    cases negative <;> simp [signed, neg_div]
  rw [truncateTo, hmul, truncate_signed negative (by positivity), hdiv]

namespace Record

/-- The sum of the first groups of a record, each times its power of ten thousand. A group that is
missing counts nothing. -/
def sum (r : Record) (count : Nat) : ℚ :=
  ∑ i ∈ Finset.range count, ((r.groups[i]?.getD 0 : ℕ) : ℚ) * 10000 ^ (r.weight.toInt - i)

/-- Sums of groups are not negative. -/
private theorem sum_nonneg (r : Record) (count : Nat) : 0 ≤ r.sum count :=
  Finset.sum_nonneg fun _ _ => mul_nonneg (Nat.cast_nonneg _) (zpow_nonneg (by norm_num) _)

/-- One more position adds its group to the sum. -/
private theorem sum_heldBefore_succ (r : Record) (position : Int) :
    r.sum (heldBefore r.present.toNat (position + 1)) =
      r.sum (heldBefore r.present.toNat position) +
        (groupAt r.present.toNat r.groups position : ℚ) * 10000 ^ (r.weight.toInt - position) := by
  unfold groupAt
  split
  next hin =>
    obtain ⟨hnow, hnext⟩ := heldBefore_of_held hin
    rw [hnow, hnext, sum, Finset.sum_range_succ, Int.toNat_of_nonneg hin.1]
    rfl
  next hout =>
    rw [heldBefore_of_absent hout, Nat.cast_zero, zero_mul, add_zero]

/-- The digits of a row of positions denote the sum of the groups held before its end, in units of its last
place, if it does not start behind the first group. -/
theorem value_groupsAt (r : Record) {start : Int} (hstart : start ≤ 0) {count : Nat}
    (h : Readable r.groups (heldBefore r.present.toNat (start + count))) :
    (Digits.value (Digits.ofGroups (groupsAt r.present.toNat r.groups start count)) : ℚ) =
      r.sum (heldBefore r.present.toNat (start + count)) *
        10000 ^ (start + count - 1 - r.weight.toInt) := by
  induction count with
  | zero =>
    have hz : heldBefore r.present.toNat (start + (0 : Nat)) = 0 := by
      rw [heldBefore]
      omega
    rw [hz]
    simp [groupsAt, Digits.ofGroups, Digits.value, sum]
  | succ count ih =>
    have hstop : start + (count + 1 : Nat) = start + count + 1 := by omega
    rw [hstop] at h ⊢
    have hbefore := ih (h.mono (heldBefore_mono _ (by omega)))
    have hbase : (10000 : ℚ) ≠ 0 := by norm_num
    have hup : (10000 : ℚ) ^ (start + count + 1 - 1 - r.weight.toInt) =
        10000 ^ (start + count - 1 - r.weight.toInt) * 10000 := by
      rw [← zpow_add_one₀ hbase]
      congr 1
      omega
    have hone : (10000 : ℚ) ^ (r.weight.toInt - (start + count)) *
        10000 ^ (start + count + 1 - 1 - r.weight.toInt) = 1 := by
      rw [← zpow_add₀ hbase, ← zpow_zero (10000 : ℚ)]
      congr 1
      omega
    rw [groupsAt_concat, Digits.value_ofGroups_concat _ h.groupAt_lt, Nat.cast_add, Nat.cast_mul, hbefore,
      sum_heldBefore_succ, add_mul, mul_assoc (groupAt _ _ _ : ℚ), hone, hup]
    push_cast
    ring

/-- The digits of all groups denote the sum, moved by the groups of the fraction. -/
theorem value_allGroups (r : Record) (h : Readable r.groups r.decimalGroups) :
    (Digits.value (Digits.ofGroups (r.integralGroups ++ r.fractionGroups)) : ℚ) =
      r.sum r.decimalGroups * 10000 ^ Digits.groupCount r.scale.toNat := by
  -- Both sides of the point are one row of positions, which starts at the first group or before it.
  obtain ⟨start, count, hstart, hrow, hstop⟩ : ∃ (start : Int) (count : Nat), start ≤ 0 ∧
      r.integralGroups ++ r.fractionGroups = groupsAt r.present.toNat r.groups start count ∧
      start + count = r.weight.toInt + 1 + Digits.groupCount r.scale.toNat := by
    obtain hneg | hnonneg := lt_or_ge (r.weight.toInt + 1) 0
    · refine ⟨r.weight.toInt + 1, Digits.groupCount r.scale.toNat, hneg.le, ?_, rfl⟩
      rw [integralGroups, Int.toNat_of_nonpos hneg.le]
      rfl
    · refine ⟨0, (r.weight.toInt + 1).toNat + Digits.groupCount r.scale.toNat, le_rfl, ?_, by omega⟩
      rw [groupsAt_add, Int.zero_add, Int.toNat_of_nonneg hnonneg]
      rfl
  have hexp : start + count - 1 - r.weight.toInt = Digits.groupCount r.scale.toNat := by omega
  rw [decimalGroups, ← hstop] at h
  rw [hrow, r.value_groupsAt hstart h, hexp, zpow_natCast, decimalGroups, hstop]

/-- The digits of the integral groups denote the sum. -/
theorem value_integralGroups (r : Record) (h : Readable r.groups r.integerGroups) :
    (Digits.value (Digits.ofGroups r.integralGroups) : ℚ) = r.sum r.integerGroups := by
  have hread := h
  rw [integerGroups, ← heldBefore_toNat] at hread
  rw [integralGroups, r.value_groupsAt le_rfl hread, heldBefore_toNat, ← integerGroups]
  obtain hneg | hnonneg := lt_or_ge (r.weight.toInt + 1) 0
  · have hz : r.integerGroups = 0 := by
      rw [integerGroups, heldBefore]
      omega
    simp [hz, sum]
  · have hexp : 0 + ((r.weight.toInt + 1).toNat : Int) - 1 - r.weight.toInt = 0 := by omega
    rw [hexp, zpow_zero, mul_one]

/-- The groups behind those that count come to less than one in the last place that counts. -/
private theorem sum_lt (r : Record) {k n : Nat} {e : Int} (hk : e < k) (hkn : k ≤ n)
    (h : ∀ i < n, r.groups[i]?.getD 0 < 10000) :
    (r.sum n - r.sum k) * 10000 ^ (e - r.weight.toInt) < 1 := by
  have hbase : (10000 : ℚ) ≠ 0 := by norm_num
  -- What is missing to one is a whole unit of the last group.
  have hrest : (r.sum n - r.sum k) * 10000 ^ (e - r.weight.toInt) ≤ 1 - 10000 ^ (e + 1 - n) := by
    induction n, hkn using Nat.le_induction with
    | base =>
      have hunit : (10000 : ℚ) ^ (e + 1 - k) ≤ 1 := zpow_le_one_of_nonpos₀ (by norm_num) (by omega)
      rw [sub_self, zero_mul]
      linarith
    | succ n hkn ih =>
      have hbefore := ih fun i hi => h i (by omega)
      have hgroup : ((r.groups[n]?.getD 0 : ℕ) : ℚ) ≤ 9999 := by
        exact_mod_cast Nat.le_of_lt_succ (h n (by omega))
      have hunit : (10000 : ℚ) ^ (e + 1 - n) = 10000 * 10000 ^ (e - n) := by
        rw [mul_comm, ← zpow_add_one₀ hbase]
        congr 1
        omega
      have hplace : (10000 : ℚ) ^ (r.weight.toInt - n) * 10000 ^ (e - r.weight.toInt) = 10000 ^ (e - n) := by
        rw [← zpow_add₀ hbase]
        congr 1
        omega
      have hlast : (10000 : ℚ) ^ (e + 1 - (n + 1 : ℕ)) = 10000 ^ (e - n) := by
        congr 1
        omega
      have hnonneg : (0 : ℚ) ≤ 10000 ^ (e - n) := zpow_nonneg (by norm_num) _
      have hterm := mul_le_mul_of_nonneg_right hgroup hnonneg
      have hsum : (r.sum (n + 1) - r.sum k) * 10000 ^ (e - r.weight.toInt) =
          (r.sum n - r.sum k) * 10000 ^ (e - r.weight.toInt) + (r.groups[n]?.getD 0 : ℕ) * 10000 ^ (e - n) := by
        rw [sum, Finset.sum_range_succ, ← sum, ← hplace]
        ring
      rw [hsum, hlast]
      linarith
  have hpos : (0 : ℚ) < 10000 ^ (e + 1 - n) := zpow_pos (by norm_num) _
  linarith

/-- More groups make no smaller sum. -/
private theorem sum_mono (r : Record) {k n : Nat} (h : k ≤ n) : r.sum k ≤ r.sum n :=
  Finset.sum_le_sum_of_subset_of_nonneg (Finset.range_mono h) fun _ _ _ =>
    mul_nonneg (Nat.cast_nonneg _) (zpow_nonneg (by norm_num) _)

/-- Groups behind those that are held before a place do not reach it. -/
private theorem floor_sum (r : Record) {n m : Nat} {e : Int}
    (hm : r.sum (heldBefore r.present.toNat (e + 1)) * 10000 ^ (e - r.weight.toInt) = m)
    (hn : heldBefore r.present.toNat (e + 1) ≤ n) (hp : n ≤ r.present.toNat)
    (h : ∀ i < n, r.groups[i]?.getD 0 < 10000) :
    ⌊r.sum n * 10000 ^ (e - r.weight.toInt)⌋₊ = m := by
  have hnonneg : (0 : ℚ) ≤ 10000 ^ (e - r.weight.toInt) := zpow_nonneg (by norm_num) _
  have hge := mul_le_mul_of_nonneg_right (r.sum_mono hn) hnonneg
  have hlt : (r.sum n - r.sum (heldBefore r.present.toNat (e + 1))) * 10000 ^ (e - r.weight.toInt) < 1 := by
    by_cases hshort : e < heldBefore r.present.toNat (e + 1)
    · exact r.sum_lt hshort hn h
    · -- All groups of the record are held before the place.
      have hall : heldBefore r.present.toNat (e + 1) = n := by
        rw [heldBefore] at hshort hn ⊢
        omega
      rw [hall, sub_self, zero_mul]
      exact zero_lt_one
  rw [Nat.floor_eq_iff (mul_nonneg (r.sum_nonneg n) hnonneg)]
  constructor <;> linarith

end Record

/-- Groups that denote the places of a number down to those of their last group make up the decimal that the
number is cut to. -/
theorem Decimal.toRat_ofGroups {negative : Bool} {scale : Nat} {integral fraction : List Nat} {x : ℚ}
    (hx : 0 ≤ x) (hc : fraction.length = Digits.groupCount scale)
    (h : ⌊x * 10000 ^ Digits.groupCount scale⌋₊ = Digits.value (Digits.ofGroups (integral ++ fraction))) :
    (Decimal.ofGroups negative scale integral fraction).toRat = truncateTo scale (signed negative x) := by
  have hlength : ((Digits.ofGroups fraction).take scale).length = scale := by
    rw [List.length_take, Digits.length_ofGroups, hc, Digits.groupCount]
    omega
  have hsplit : (10000 : ℚ) ^ Digits.groupCount scale =
      10 ^ scale * (10 ^ (fraction.length * 4 - scale) : ℕ) := by
    have hfours : (10000 : ℚ) = 10 ^ 4 := by norm_num
    rw [hfours, ← pow_mul, Nat.cast_pow, Nat.cast_ofNat, ← pow_add, hc]
    congr 1
    rw [Digits.groupCount]
    omega
  have hcut : ⌊x * 10 ^ scale⌋₊ =
      Digits.value ((Digits.ofGroups integral).canonical ++ (Digits.ofGroups fraction).take scale) := by
    have hne : ((10 ^ (fraction.length * 4 - scale) : ℕ) : ℚ) ≠ 0 := by positivity
    rw [Digits.value_cut integral fraction hc, ← h, hsplit, ← Nat.floor_div_natCast, ← mul_assoc,
      mul_div_cancel_right₀ _ hne]
  rw [truncateTo_signed negative scale hx, hcut, Decimal.ofGroups, Decimal.toRat_unsignedZero,
    Decimal.toRat, Decimal.magnitude, Decimal.scale, hlength]

namespace Record

/-- The decimal is the number that the record denotes, cut to its scale, in canonical form. -/
structure IsDecimal (r : Record) (d : Decimal) : Prop where
  number : d.toRat = truncateTo r.scale.toNat (signed (r.sign != 0) (r.sum r.decimalGroups))
  /-- Groups that are not read do not change the number if they are below ten thousand. -/
  number_of_all : (∀ i < r.present.toNat, r.groups[i]?.getD 0 < 10000) →
    d.toRat = truncateTo r.scale.toNat (signed (r.sign != 0) (r.sum r.present.toNat))
  scale : d.scale = r.scale.toNat
  leading : d.integral ≠ [] ∧ (d.integral.head? = some 0 → d.integral = [0])
  sign : d.toRat = 0 → d.negative = false

/-- The integer is the number that the record denotes, cut to a whole number, in canonical form. -/
structure IsInteger (r : Record) (n : BigInt) : Prop where
  number : n.toInt = truncate (signed (r.sign != 0) (r.sum r.integerGroups))
  /-- Groups that are not read do not change the number if they are below ten thousand. -/
  number_of_all : (∀ i < r.present.toNat, r.groups[i]?.getD 0 < 10000) →
    n.toInt = truncate (signed (r.sign != 0) (r.sum r.present.toNat))
  leading : n.digits ≠ [] ∧ (n.digits.head? = some 0 → n.digits = [0])
  sign : n.toInt = 0 → n.negative = false

/-- The scale of the decimal number is that of the record. -/
theorem scale_decimal (r : Record) : r.decimal.scale = r.scale.toNat := by
  rw [decimal, Decimal.ofGroups, Decimal.scale_unsignedZero, Decimal.scale, List.length_take,
    Digits.length_ofGroups, fractionGroups, length_groupsAt, Digits.groupCount]
  omega

/-- The groups that are read make up the decimal that the record denotes. -/
theorem isDecimal_decimal (r : Record) (h : Readable r.groups r.decimalGroups) : r.IsDecimal r.decimal := by
  have hlength : r.fractionGroups.length = Digits.groupCount r.scale.toNat := length_groupsAt _ _ _ _
  have hvalue := r.value_allGroups h
  refine ⟨?_, fun hall => ?_, r.scale_decimal, Digits.leading_of_canonical r.decimal.canonical_integral,
    Decimal.negative_of_toRat_eq_zero (Decimal.isNegativeZero_ofGroups _ _ _ _)⟩
  · refine Decimal.toRat_ofGroups (r.sum_nonneg _) hlength ?_
    rw [← hvalue, Nat.floor_natCast]
  · refine Decimal.toRat_ofGroups (r.sum_nonneg _) hlength ?_
    have hlast : r.weight.toInt + Digits.groupCount r.scale.toNat + 1 =
        r.weight.toInt + 1 + Digits.groupCount r.scale.toNat := by omega
    have hplaces : r.weight.toInt + Digits.groupCount r.scale.toNat - r.weight.toInt =
        (Digits.groupCount r.scale.toNat : ℤ) := by omega
    have hfloor := r.floor_sum (n := r.present.toNat) (e := r.weight.toInt + Digits.groupCount r.scale.toNat)
      (by rw [hlast, hplaces, zpow_natCast]; exact hvalue.symm) (Nat.min_le_left _ _) le_rfl hall
    rwa [hplaces, zpow_natCast] at hfloor

/-- The groups that are read make up the integer that the record denotes. -/
theorem isInteger_integer (r : Record) (h : Readable r.groups r.integerGroups) : r.IsInteger r.integer := by
  have hvalue := r.value_integralGroups h
  have hnumber {x : ℚ} (hx : 0 ≤ x) (hfloor : ⌊x⌋₊ = Digits.value (Digits.ofGroups r.integralGroups)) :
      r.integer.toInt = truncate (signed (r.sign != 0) x) := by
    have hcast := (truncate_signed (r.sign != 0) hx).symm
    rw [hfloor, ← BigInt.cast_toInt_ofDigits] at hcast
    exact_mod_cast hcast
  refine ⟨hnumber (r.sum_nonneg _) ?_, fun hall => hnumber (r.sum_nonneg _) ?_,
    Digits.leading_of_canonical r.integer.canonical_digits, BigInt.negative_of_toInt_eq_zero⟩
  · rw [← hvalue, Nat.floor_natCast]
  · have hfloor := r.floor_sum (n := r.present.toNat) (e := r.weight.toInt)
      (by rw [sub_self, zpow_zero, mul_one]; exact hvalue.symm) (Nat.min_le_left _ _) le_rfl hall
    rwa [sub_self, zpow_zero, mul_one] at hfloor

/-- Reading a decimal number from a record succeeds just if the groups that reach a place of its scale are
present and below ten thousand. It takes the header and those groups, and gives the number that the record
denotes, cut to the scale, in canonical form. An integer is read in the same way, from the groups that reach
the place of ones. Neither has a counter that leaves its range, whatever the packet. -/
theorem denoted_of_get :
    (∀ (r : Record) (n : Nat),
      ((∃ d s, Decimal.get ⟨r.toBytes, n⟩ = .ok d s) ↔ Readable r.groups r.decimalGroups) ∧
      ∀ d s, Decimal.get ⟨r.toBytes, n⟩ = .ok d s →
        s = ⟨r.payload.drop (2 * r.decimalGroups), n + (8 + 2 * r.decimalGroups)⟩ ∧ r.IsDecimal d) ∧
    (∀ (r : Record) (n : Nat),
      ((∃ i s, BigInt.get ⟨r.toBytes, n⟩ = .ok i s) ↔ Readable r.groups r.integerGroups) ∧
      ∀ i s, BigInt.get ⟨r.toBytes, n⟩ = .ok i s →
        s = ⟨r.payload.drop (2 * r.integerGroups), n + (8 + 2 * r.integerGroups)⟩ ∧ r.IsInteger i) ∧
    ∀ s, (Counted.getDecimal s = Counted.plain Decimal.get s ∧ ∀ t, Counted.getDecimal s ≠ .error .overflow t) ∧
      (Counted.getInteger s = Counted.plain BigInt.get s ∧ ∀ t, Counted.getInteger s ≠ .error .overflow t) := by
  refine ⟨fun r n => ?_, fun r n => ?_, fun s => ⟨⟨Counted.getDecimal_eq s, fun t => ?_⟩,
    ⟨Counted.getInteger_eq s, fun t => ?_⟩⟩⟩
  · obtain ⟨hiff, hresult⟩ := GetM.exists_ok_iff (r.getDecimal_eq n) (r.failsOn_getDecimal n)
    refine ⟨hiff, fun d s h => ?_⟩
    obtain ⟨hread, rfl, rfl⟩ := hresult d s h
    exact ⟨by rw [readerAt, Nat.add_assoc], r.isDecimal_decimal hread⟩
  · obtain ⟨hiff, hresult⟩ := GetM.exists_ok_iff (r.getInteger_eq n) (r.failsOn_getInteger n)
    refine ⟨hiff, fun i s h => ?_⟩
    obtain ⟨hread, rfl, rfl⟩ := hresult i s h
    exact ⟨by rw [readerAt, Nat.add_assoc], r.isInteger_integer hread⟩
  · rw [Counted.getDecimal_eq]
    exact Counted.plain_ne_overflow _ _ _
  · rw [Counted.getInteger_eq]
    exact Counted.plain_ne_overflow _ _ _

/-- Groups of one and of two behind it, the second one below the scale. -/
def oneAndSmall : Record := ⟨2, 0, 0, 0, [0, 1, 0, 2]⟩

/-- Of two groups, the one behind the point is not read and does not change the number. -/
theorem denoted_of_get_oneAndSmall :
    ∃ d, Decimal.get ⟨oneAndSmall.toBytes, 0⟩ = .ok d ⟨[0, 2], 10⟩ ∧ oneAndSmall.IsDecimal d ∧
      d.toRat = 1 := by
  have hget : Decimal.get ⟨oneAndSmall.toBytes, 0⟩ = .ok ⟨false, [1], [], rfl⟩ ⟨[0, 2], 10⟩ := rfl
  refine ⟨_, hget, ((denoted_of_get.1 oneAndSmall 0).2 _ _ hget).2, ?_⟩
  norm_num [Decimal.toRat, Decimal.magnitude, Decimal.scale, signed, Digits.value]

/-- Groups of one and of twenty thousand behind it, the second one below the scale. -/
def oneAndLarge : Record := ⟨2, 0, 0, 0, [0, 1, 0x4E, 0x20]⟩

/-- A group that is not read is lost even if it makes up units of a place that is kept: one is read where
the sum of both groups is three. -/
theorem exists_unread_group :
    ∃ d, Decimal.get ⟨oneAndLarge.toBytes, 0⟩ = .ok d ⟨[0x4E, 0x20], 10⟩ ∧ d.toRat = 1 ∧
      truncateTo 0 (signed false (oneAndLarge.sum 2)) = 3 := by
  have hget : Decimal.get ⟨oneAndLarge.toBytes, 0⟩ = .ok ⟨false, [1], [], rfl⟩ ⟨[0x4E, 0x20], 10⟩ := rfl
  have hsum : oneAndLarge.sum 2 = 3 := by
    have hgroups : oneAndLarge.groups = [1, 20000] := by decide
    have hweight : oneAndLarge.weight.toInt = 0 := by decide
    rw [sum, hgroups, hweight]
    norm_num [Finset.sum_range_succ]
  refine ⟨_, hget, ?_, ?_⟩
  · norm_num [Decimal.toRat, Decimal.magnitude, Decimal.scale, signed, Digits.value]
  · rw [hsum]
    norm_num [truncateTo, truncate, signed]

end Record

end GelClient
