import GelClient.Proofs.Number.Groups
import Mathlib.Data.Nat.Digits.Lemmas
import Mathlib.Tactic.Ring

/-!
# The numbers of digits

Digits denote the number of `Nat.ofDigits`, where they stand the other way round. As many digits of one
number are the same, and a number has one list of canonical digits. The first digits of a number are its
quotient by a power of ten, which is how a fraction is cut to its scale. Groups are digits of base ten
thousand, and how many of them digits fill is a bound of their number.
-/

namespace GelClient.Digits

/-- Digits denote what they denote as digits of base ten, the least significant one first. -/
theorem value_eq_ofDigits (ds : Digits) : value ds = Nat.ofDigits 10 (ds.reverse.map Fin.val) := by
  rw [value, ← List.foldr_reverse, Nat.ofDigits_eq_foldr, List.foldr_map]
  congr 1
  funext d n
  push_cast
  ring

/-- The digits in front of others count for more. -/
theorem value_append (ds es : Digits) : value (ds ++ es) = value ds * 10 ^ es.length + value es := by
  simp only [value_eq_ofDigits, List.reverse_append, List.map_append, Nat.ofDigits_append,
    List.length_map, List.length_reverse]
  ring

/-- Digits denote a number below the power of ten that they would need another digit for. -/
theorem value_lt (ds : Digits) : value ds < 10 ^ ds.length := by
  rw [value_eq_ofDigits]
  have h := Nat.ofDigits_lt_base_pow_length (b := 10) (l := ds.reverse.map Fin.val) (by decide)
    (by simp)
  simpa using h

/-- As many digits of the same number are the same. -/
theorem eq_of_value_eq {ds es : Digits} (hl : ds.length = es.length) (hv : value ds = value es) :
    ds = es := by
  rw [value_eq_ofDigits, value_eq_ofDigits] at hv
  have h := Nat.ofDigits_inj_of_len_eq (b := 10) (by decide) (by simpa using hl) (by simp) (by simp) hv
  exact List.reverse_injective (List.map_injective_iff.mpr Fin.val_injective h)

/-- The first digits of a number are its quotient by a power of ten. -/
theorem value_take (ds : Digits) (n : Nat) : value (ds.take n) = value ds / 10 ^ (ds.length - n) := by
  have hsplit := value_append (ds.take n) (ds.drop n)
  have hlt := value_lt (ds.drop n)
  rw [List.take_append_drop, List.length_drop] at hsplit
  rw [List.length_drop] at hlt
  rw [hsplit, Nat.mul_comm, Nat.mul_add_div (Nat.pow_pos (by decide)), Nat.div_eq_of_lt hlt, Nat.add_zero]

/-- Zeros denote zero. -/
theorem value_replicate_zero (n : Nat) : value (List.replicate n 0) = 0 := by
  induction n with
  | zero => rfl
  | succ n ih => exact ih

/-- Digits denote zero just if all of them are zero. -/
theorem allZero_iff {ds : Digits} : ds.allZero = true ↔ value ds = 0 := by
  constructor
  · intro h
    rw [eq_replicate_of_allZero h, value_replicate_zero]
  · intro h
    have hzeros : ds = List.replicate ds.length 0 :=
      eq_of_value_eq (by simp) (by rw [h, value_replicate_zero])
    rw [hzeros]
    simp [allZero]

/-- Digits keep their number when leading zeros go. -/
@[simp]
theorem value_canonical (ds : Digits) : value ds.canonical = value ds := by
  induction ds with
  | nil => rfl
  | cons d ds ih =>
    by_cases h : d = 0
    · subst h
      rw [canonical_zero_cons, ih]
      exact (Nat.zero_add _).symm.trans (by simp [value])
    · rw [canonical_cons h]

/-- A single zero is canonical. -/
theorem canonical_zero : canonical [0] = [0] := rfl

/-- Canonical digits start with a zero only if that is all of them. -/
theorem leading_of_canonical {ds : Digits} (h : ds.canonical = ds) :
    ds ≠ [] ∧ (ds.head? = some 0 → ds = [0]) := by
  refine ⟨h ▸ canonical_ne_nil ds, fun hhead => ?_⟩
  have hfirst := List.head?_dropWhile_not (· == (0 : Digit)) ds
  unfold canonical at h
  split at h
  next => exact h.symm
  next =>
    rw [h, hhead] at hfirst
    simp at hfirst

/-- A number has one list of canonical digits. -/
theorem canonical_eq_of_value_eq {ds es : Digits} (h : value ds = value es) :
    ds.canonical = es.canonical := by
  -- With zeros in front of the shorter one, both have as many digits.
  have hds := canonical_replicate_append (es.length - ds.length) ds
  have hes := canonical_replicate_append (ds.length - es.length) es
  have heq : List.replicate (es.length - ds.length) 0 ++ ds = List.replicate (ds.length - es.length) 0 ++ es := by
    refine eq_of_value_eq ?_ ?_
    · simp only [List.length_append, List.length_replicate]
      omega
    · simp only [value_append, value_replicate_zero, Nat.zero_mul, Nat.zero_add, h]
  rw [← hds, heq, hes]

/-- A power of ten thousand has four zeros for every group. -/
private theorem pow_groups (m : Nat) : 10000 ^ m = 10 ^ (m * 4) := by
  rw [Nat.mul_comm, Nat.pow_mul]

/-- A group counts for itself behind ten thousand times what stands in front of it. -/
theorem value_ofGroups_concat (gs : List Nat) {g : Nat} (h : g < 10000) :
    value (ofGroups (gs ++ [g])) = value (ofGroups gs) * 10000 + g := by
  rw [ofGroups, List.flatMap_append, value_append]
  simp [ofGroups, value_ofGroup h]

/-- There are four digits for every group. -/
@[simp]
theorem length_ofGroups (gs : List Nat) : (ofGroups gs).length = gs.length * 4 := by
  simp [ofGroups, List.length_flatMap]

/-- Groups denote a number below the power of ten thousand that they would need another group for. -/
theorem value_ofGroups_lt (gs : List Nat) : value (ofGroups gs) < 10000 ^ gs.length := by
  rw [pow_groups, ← length_ofGroups]
  exact value_lt (ofGroups gs)

/-- A group in front of others counts with the power of ten thousand of how many they are. -/
theorem value_ofGroups_cons {g : Nat} (h : g < 10000) (gs : List Nat) :
    value (ofGroups (g :: gs)) = g * 10000 ^ gs.length + value (ofGroups gs) := by
  rw [ofGroups, List.flatMap_cons, value_append, value_ofGroup h, ← ofGroups, length_ofGroups, pow_groups]

/-- Groups come to less than a unit of the first one just if that is zero. -/
theorem value_ofGroups_cons_lt_iff {g : Nat} (h : g < 10000) (gs : List Nat) :
    value (ofGroups (g :: gs)) < 10000 ^ gs.length ↔ g = 0 := by
  have hrest := value_ofGroups_lt gs
  rw [value_ofGroups_cons h]
  constructor
  · intro hlt
    by_contra hne
    have hunit := Nat.le_mul_of_pos_left (10000 ^ gs.length) (Nat.pos_of_ne_zero hne)
    omega
  · rintro rfl
    omega

/-- A fraction that is cut to a scale is the quotient by the power of ten that is cut off. -/
theorem value_cut (integral fraction : List Nat) {scale : Nat}
    (hc : fraction.length = groupCount scale) :
    value ((ofGroups integral).canonical ++ (ofGroups fraction).take scale) =
      value (ofGroups (integral ++ fraction)) / 10 ^ (fraction.length * 4 - scale) := by
  have htake : ofGroups integral ++ (ofGroups fraction).take scale =
      (ofGroups (integral ++ fraction)).take ((ofGroups integral).length + scale) := by
    rw [ofGroups, ofGroups, ofGroups, List.flatMap_append, List.take_length_add_append]
  rw [value_append, value_canonical, ← value_append, htake, value_take]
  congr 2
  simp only [length_ofGroups, List.length_append]
  omega

/-- Digits that do not start with a zero denote at least a unit of their first place. -/
theorem pow_le_value_cons {d : Digit} (h : d ≠ 0) (ds : Digits) : 10 ^ ds.length ≤ value (d :: ds) := by
  have hfirst : 1 ≤ value [d] := by
    simpa [value, Nat.one_le_iff_ne_zero] using h
  calc 10 ^ ds.length ≤ value [d] * 10 ^ ds.length := Nat.le_mul_of_pos_left _ hfirst
    _ ≤ value [d] * 10 ^ ds.length + value ds := Nat.le_add_right _ _
    _ = value (d :: ds) := (value_append [d] ds).symm

/-- Digits without a leading zero fill no more than some groups just if their number has no more of them. -/
theorem groupCount_le_iff {ds : Digits} (h : ds.head? ≠ some 0) (m : Nat) :
    groupCount ds.length ≤ m ↔ value ds < 10000 ^ m := by
  have hcount : groupCount ds.length ≤ m ↔ ds.length ≤ m * 4 := by
    rw [groupCount]
    omega
  rw [hcount, pow_groups]
  constructor
  · intro hlength
    exact Nat.lt_of_lt_of_le (value_lt ds) (Nat.pow_le_pow_right (by decide) hlength)
  · intro hvalue
    by_contra hlong
    cases ds with
    | nil => exact hlong (Nat.zero_le _)
    | cons d ds =>
      have hfirst : d ≠ 0 := fun hd => h (by rw [hd]; rfl)
      have hplaces : m * 4 ≤ ds.length := by
        rw [List.length_cons] at hlong
        omega
      have hunit := (Nat.pow_le_pow_right (by decide) hplaces).trans (pow_le_value_cons hfirst ds)
      exact absurd hvalue (Nat.not_lt.mpr hunit)

/-- The digits of a number denote it. -/
@[simp]
theorem value_ofNat (n : Nat) : value (ofNat n) = n := by
  induction n using Nat.strongRecOn with
  | ind n ih =>
    have hdigit {d : Nat} (hd : d < 10) : value [Fin.ofNat 10 (d.digitChar.toNat - 48)] = d := by
      rw [Nat.toNat_digitChar_sub_48_of_lt_ten hd]
      simp [value, Fin.ofNat, Nat.mod_eq_of_lt hd]
    rw [ofNat, Nat.toDigits_eq_if (by decide)]
    split
    next hsmall => exact hdigit hsmall
    next hlarge =>
      rw [List.map_append, value_append, ← ofNat, ih (n / 10) (by omega)]
      exact (congrArg (n / 10 * 10 + ·) (hdigit (Nat.mod_lt n (by decide)))).trans (Nat.div_add_mod' n 10)

/-- A number below a power of ten has no more digits than this has zeros. -/
theorem length_ofNat_le {n k : Nat} (hk : 0 < k) (h : n < 10 ^ k) : (ofNat n).length ≤ k := by
  rw [ofNat, List.length_map]
  exact (Nat.length_toDigits_le_iff (by decide) hk).mpr h

end GelClient.Digits
