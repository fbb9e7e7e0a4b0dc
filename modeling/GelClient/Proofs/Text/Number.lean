import GelClient.Text.Number

/-!
# Decimal numbers read back

The decimal form of a number, which has no sign and no needless zero, is read as this number.
-/

namespace GelClient.Text

/-- The value of a digit that is put behind others. -/
private theorem digitsValue?_append_digit {digits : List Char} {n d : Nat} (h : digitsValue? digits = some n)
    (hd : d < 10) : digitsValue? (digits ++ [d.digitChar]) = some (n * 10 + d) := by
  have hdigit : d.digitChar.isDigit = true := by
    rw [Nat.isDigit_digitChar]
    exact decide_eq_true hd
  have hvalue : d.digitChar.toNat - 48 = d := Nat.toNat_digitChar_sub_48_of_lt_ten hd
  unfold digitsValue? at h ⊢
  rw [List.foldlM_append, h]
  simp [hdigit, hvalue]

/-- The digits of a number denote it. -/
theorem digitsValue?_toDigits (n : Nat) : digitsValue? (Nat.toDigits 10 n) = some n := by
  induction n using Nat.strongRecOn with
  | ind n ih =>
    rw [Nat.toDigits_eq_if (by decide)]
    split
    next hsmall =>
      have hone : digitsValue? ([] ++ [n.digitChar]) = some (0 * 10 + n) :=
        digitsValue?_append_digit rfl hsmall
      rw [Nat.zero_mul, Nat.zero_add] at hone
      exact hone
    next hlarge =>
      have hfront := ih (n / 10) (by omega)
      rw [digitsValue?_append_digit hfront (Nat.mod_lt n (by decide)), Nat.div_add_mod']

/-- A character that is no digit is in no decimal number. -/
theorem notMem_toDigits {c : Char} (h : c.isDigit = false) (n : Nat) : c ∉ Nat.toDigits 10 n := by
  intro hc
  rw [Nat.isDigit_of_mem_toDigits (by decide) (by decide) hc] at h
  exact Bool.noConfusion h

/-- A decimal number has no plus sign. -/
theorem withoutPlus_toDigits (n : Nat) : withoutPlus (Nat.toDigits 10 n) = Nat.toDigits 10 n := by
  unfold withoutPlus
  split
  next rest h => exact absurd (h ▸ List.mem_cons_self) (notMem_toDigits (c := '+') rfl n)
  · rfl

/-- The decimal form of a number below the limit is read back. -/
theorem unsigned?_toString {bits n : Nat} (h : n < 2 ^ bits) : unsigned? bits (toString n) = some n := by
  have hne : Nat.toDigits 10 n ≠ [] := Nat.toDigits_ne_nil
  rw [unsigned?, Nat.toString_eq_repr, Nat.toList_repr, withoutPlus_toDigits]
  simp [hne, digitsValue?_toDigits, h]

end GelClient.Text
