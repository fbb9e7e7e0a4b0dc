import GelClient.Codec.Numeric

/-!
# Groups of four digits

Digits that fill whole groups are the digits of their groups. Padding brings any digits to whole
groups: zeros in front do not change an integer, and zeros behind are cut off again.
-/

namespace GelClient.Digits

/-- Four more digits are one more group. -/
private theorem dvd_length_fours {ds : Digits} (h : 4 ∣ ds.length) (a b c d : Digit) :
    4 ∣ (a :: b :: c :: d :: ds).length := by
  simp only [List.length_cons]
  omega

/-- Digits in whole groups come four at a time. -/
theorem fours_induction {P : (ds : Digits) → 4 ∣ ds.length → Prop} (nil : P [] (Nat.dvd_zero 4))
    (fours : ∀ a b c d ds (h : 4 ∣ ds.length), P ds h →
      P (a :: b :: c :: d :: ds) (dvd_length_fours h a b c d)) :
    ∀ (ds : Digits) (h : 4 ∣ ds.length), P ds h
  | [], _ => nil
  | a :: b :: c :: d :: ds, h => by
    have hds : 4 ∣ ds.length := by
      simp only [List.length_cons] at h
      omega
    exact fours a b c d ds hds (fours_induction nil fours ds hds)
  | [_], h | [_, _], h | [_, _, _], h => by
    simp only [List.length_cons, List.length_nil] at h
    omega

/-- Groups are put behind those already found. -/
private theorem groupsFrom_eq {ds : Digits} (h : 4 ∣ ds.length) (found : List Nat) :
    groupsFrom found ds = found.reverse ++ groups ds := by
  induction ds, h using fours_induction generalizing found with
  | nil => simp [groups, groupsFrom]
  | fours a b c d ds h ih =>
    simp only [groups, groupsFrom, ih (value [a, b, c, d] :: found), ih [value [a, b, c, d]]]
    simp

/-- The first group is made of the first four digits. -/
theorem groups_fours (a b c d : Digit) {ds : Digits} (h : 4 ∣ ds.length) :
    groups (a :: b :: c :: d :: ds) = value [a, b, c, d] :: groups ds := by
  rw [groups, groupsFrom, groupsFrom_eq h]
  rfl

/-- There is a group for every four digits. -/
theorem length_groups {ds : Digits} (h : 4 ∣ ds.length) : (groups ds).length = ds.length / 4 := by
  induction ds, h using fours_induction with
  | nil => rfl
  | fours a b c d ds h ih =>
    rw [groups_fours a b c d h]
    simp only [List.length_cons, ih]
    omega

/-- Groups are below ten thousand. -/
theorem groups_lt {ds : Digits} (h : 4 ∣ ds.length) : ∀ g ∈ groups ds, g < 10000 := by
  induction ds, h using fours_induction with
  | nil => simp [groups, groupsFrom]
  | fours a b c d ds h ih =>
    rw [groups_fours a b c d h]
    refine List.forall_mem_cons.mpr ⟨?_, ih⟩
    simp only [value, List.foldl_cons, List.foldl_nil]
    omega

/-- The groups of digits that follow whole groups stand behind those of the latter. -/
theorem groups_append {ds es : Digits} (hd : 4 ∣ ds.length) (he : 4 ∣ es.length) :
    groups (ds ++ es) = groups ds ++ groups es := by
  induction ds, hd using fours_induction with
  | nil => rfl
  | fours a b c d ds h ih =>
    have hall : 4 ∣ (ds ++ es).length := by
      rw [List.length_append]
      exact Nat.dvd_add h he
    simp only [List.cons_append, groups_fours a b c d hall, groups_fours a b c d h, ih]

/-- Digits in whole groups are the digits of their groups. -/
theorem ofGroups_groups {ds : Digits} (h : 4 ∣ ds.length) : ofGroups (groups ds) = ds := by
  induction ds, h using fours_induction with
  | nil => rfl
  | fours a b c d ds h ih =>
    have hgroup : ofGroup (value [a, b, c, d]) = [a, b, c, d] := by
      simp only [ofGroup, value, List.foldl_cons, List.foldl_nil, List.cons.injEq, Fin.ext_iff,
        Fin.ofNat, and_true]
      omega
    rw [groups_fours a b c d h, ofGroups, List.flatMap_cons, hgroup]
    exact congrArg ([a, b, c, d] ++ ·) ih

/-- Digits padded in front fill whole groups. -/
theorem length_padFront (ds : Digits) : ds.padFront.length = groupCount ds.length * 4 := by
  simp only [padFront, List.length_append, List.length_replicate, groupCount]
  omega

/-- Digits padded behind fill whole groups. -/
theorem length_padBack (ds : Digits) : ds.padBack.length = groupCount ds.length * 4 := by
  simp only [padBack, List.length_append, List.length_replicate, groupCount]
  omega

/-- Leading zeros are superfluous. -/
theorem canonical_replicate_append (n : Nat) (ds : Digits) :
    canonical (List.replicate n 0 ++ ds) = canonical ds := by
  induction n with
  | zero => rfl
  | succ n ih => rw [List.replicate_succ, List.cons_append, canonical_zero_cons, ih]

/-- Padding in front does not change an integer. -/
theorem canonical_padFront (ds : Digits) : ds.padFront.canonical = ds.canonical :=
  canonical_replicate_append _ _

/-- The digits in front of a padding. -/
theorem take_padBack (ds : Digits) : ds.padBack.take ds.length = ds := by
  simp [padBack]

/-- Zeros are zero as an integer. -/
theorem canonical_replicate (n : Nat) : canonical (List.replicate n 0) = [0] := by
  have h := canonical_replicate_append n []
  rwa [List.append_nil] at h

/-- Groups of zeros are digits of zeros. -/
theorem ofGroups_replicate_zero (n : Nat) :
    ofGroups (List.replicate n 0) = List.replicate (n * 4) 0 := by
  induction n with
  | zero => rfl
  | succ n ih =>
    have hrest : (List.replicate n 0).flatMap ofGroup = List.replicate (n * 4) 0 := ih
    rw [List.replicate_succ, ofGroups, List.flatMap_cons, hrest]
    change List.replicate 4 0 ++ List.replicate (n * 4) 0 = _
    rw [List.replicate_append_replicate, Nat.add_comm, Nat.succ_mul]

/-- Digits that are all zero are a row of zeros. -/
theorem eq_replicate_of_allZero {ds : Digits} (h : ds.allZero = true) :
    ds = List.replicate ds.length 0 := by
  refine List.eq_replicate_of_mem fun d hd => ?_
  simpa using List.all_eq_true.mp h d hd

/-- Canonical digits that are all zero are the single digit zero. -/
theorem eq_zero_of_allZero {ds : Digits} (hc : ds.canonical = ds) (h : ds.allZero = true) : ds = [0] := by
  rw [← hc, eq_replicate_of_allZero h, canonical_replicate]

end GelClient.Digits
