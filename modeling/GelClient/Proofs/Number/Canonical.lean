import GelClient.Proofs.Codec.Numeric
import GelClient.Proofs.Number.Value
import Mathlib.Algebra.Order.Field.Rat
import Mathlib.Tactic.Linarith
import Mathlib.Tactic.Positivity

/-!
# When decimals are one

A decimal is its sign and its digits, so two of them are compared digit by digit. Since the integral digits
are canonical, the digits are settled by the number and the scale, and so is the sign, unless the number is
zero: a text may give a zero a minus sign, which a record cannot. Up to that sign, decimals are one just if
they denote the same number with as many fraction digits. Integers have no such zero at all.
-/

namespace GelClient

/-- A number, or its negative. -/
def signed (negative : Bool) (x : ℚ) : ℚ := if negative then -x else x

namespace BigInt

/-- The number of an integer is that of its digits, with its sign. -/
theorem cast_toInt_ofDigits (negative : Bool) (digits : Digits) :
    ((ofDigits negative digits).toInt : ℚ) = signed negative (digits.value : ℕ) := by
  have hvalue : (ofDigits negative digits).digits.value = digits.value := Digits.value_canonical digits
  rw [toInt, hvalue, signed]
  by_cases hzero : digits.canonical = [0]
  · have hz : digits.value = 0 := by rw [← Digits.value_canonical, hzero]; rfl
    simp [hz]
  · have hsign : (ofDigits negative digits).negative = negative := by simp [ofDigits, hzero]
    rw [hsign]
    split <;> simp

/-- An integer that denotes zero has no sign. -/
theorem negative_of_toInt_eq_zero {n : BigInt} (h : n.toInt = 0) : n.negative = false := by
  have hvalue : n.digits.value = Digits.value [0] := by
    have hzero : Digits.value [0] = 0 := rfl
    rw [toInt] at h
    split at h <;> omega
  refine n.unsigned_zero ?_
  rw [← n.canonical_digits]
  exact Digits.canonical_eq_of_value_eq hvalue

end BigInt

namespace Decimal

open Packet (GetM)

/-- The number that a decimal denotes, without its sign. -/
def magnitude (d : Decimal) : ℚ := (Digits.value (d.integral ++ d.fraction) : ℕ) / 10 ^ d.scale

/-- The number that a decimal denotes. -/
def toRat (d : Decimal) : ℚ := signed d.negative d.magnitude

/-- Whether the number is a zero with a sign. -/
def isNegativeZero (d : Decimal) : Bool := d.negative && d.isZero

/-- A decimal is zero if its digits denote zero. -/
theorem isZero_iff {d : Decimal} : d.isZero = true ↔ Digits.value (d.integral ++ d.fraction) = 0 := by
  rw [← Digits.allZero_iff]
  simp [isZero, Digits.allZero]

/-- Without its sign a decimal denotes no negative number. -/
theorem magnitude_nonneg (d : Decimal) : 0 ≤ d.magnitude := by
  unfold magnitude
  positivity

/-- Only a zero denotes zero. -/
theorem magnitude_eq_zero {d : Decimal} : d.magnitude = 0 ↔ d.isZero = true := by
  have hscale : (10 : ℚ) ^ d.scale ≠ 0 := by positivity
  rw [isZero_iff, magnitude, div_eq_zero_iff, or_iff_left hscale, Nat.cast_eq_zero]

/-- A decimal denotes zero just if it is one. -/
theorem toRat_eq_zero {d : Decimal} : d.toRat = 0 ↔ d.isZero = true := by
  rw [← magnitude_eq_zero, toRat, signed]
  split <;> simp

/-- The sign is no part of the absolute value. -/
theorem abs_toRat (d : Decimal) : |d.toRat| = d.magnitude := by
  rw [toRat, signed]
  split
  · rw [abs_neg, abs_of_nonneg d.magnitude_nonneg]
  · exact abs_of_nonneg d.magnitude_nonneg

/-- The sign of a decimal that is no zero is that of its number. -/
theorem negative_eq_of_toRat_eq {a b : Decimal} (h : a.toRat = b.toRat)
    (hz : a.isNegativeZero = b.isNegativeZero) : a.negative = b.negative := by
  have hzero : a.isZero = b.isZero := by
    rw [Bool.eq_iff_iff, ← toRat_eq_zero, ← toRat_eq_zero, h]
  cases hb : b.isZero with
  | true => simpa [isNegativeZero, hzero, hb] using hz
  | false =>
    have ha : 0 < a.magnitude := lt_of_le_of_ne a.magnitude_nonneg fun hne => by
      have := magnitude_eq_zero.mp hne.symm
      simp [hzero, hb] at this
    have hb : 0 < b.magnitude := by rwa [← abs_toRat, ← h, abs_toRat]
    simp only [toRat, signed] at h
    cases ha' : a.negative <;> cases hb' : b.negative <;> simp only [ha', hb'] at h ⊢
    all_goals simp at h
    all_goals linarith

/-- Decimals with the same number, scale and sign of zero are one. -/
theorem eq_of_toRat_eq {a b : Decimal} (h : a.toRat = b.toRat) (hs : a.scale = b.scale)
    (hz : a.isNegativeZero = b.isNegativeZero) : a = b := by
  have hdigits : Digits.value (a.integral ++ a.fraction) = Digits.value (b.integral ++ b.fraction) := by
    have hm : a.magnitude = b.magnitude := by rw [← abs_toRat, h, abs_toRat]
    have hscale : (10 : ℚ) ^ b.scale ≠ 0 := by positivity
    rw [magnitude, magnitude, hs, div_left_inj' hscale] at hm
    exact_mod_cast hm
  rw [Digits.value_append, Digits.value_append, ← scale, ← scale, hs] at hdigits
  have ha := Digits.value_lt a.fraction
  have hb := Digits.value_lt b.fraction
  rw [← scale, hs] at ha
  rw [← scale] at hb
  -- The fraction is the remainder by the power of ten of the scale, and the integral part the quotient.
  have hfraction : Digits.value a.fraction = Digits.value b.fraction := by
    have := congrArg (· % 10 ^ b.scale) hdigits
    simpa [Nat.mul_add_mod', Nat.mod_eq_of_lt ha, Nat.mod_eq_of_lt hb] using this
  have hintegral : Digits.value a.integral = Digits.value b.integral := by
    rw [hfraction, Nat.add_right_cancel_iff] at hdigits
    exact Nat.eq_of_mul_eq_mul_right (Nat.pow_pos (by decide)) hdigits
  ext1
  · exact negative_eq_of_toRat_eq h hz
  · rw [← a.canonical_integral, ← b.canonical_integral]
    exact Digits.canonical_eq_of_value_eq hintegral
  · exact Digits.eq_of_value_eq hs hfraction

/-- A zero without its sign is no negative zero. -/
theorem isNegativeZero_unsignedZero (d : Decimal) : d.unsignedZero.isNegativeZero = false := by
  unfold unsignedZero
  split
  · rfl
  next h => simp [isNegativeZero, h]

/-- Nothing but a negative zero loses its sign. -/
theorem unsignedZero_eq_self {d : Decimal} : d.unsignedZero = d ↔ d.isNegativeZero = false := by
  constructor
  · intro h
    rw [← h]
    exact d.isNegativeZero_unsignedZero
  · intro h
    unfold unsignedZero
    split
    next hz =>
      have hn : d.negative = false := by simpa [isNegativeZero, hz] using h
      ext1
      · exact hn.symm
      · rfl
      · rfl
    next => rfl

/-- A zero keeps its number without its sign. -/
@[simp]
theorem toRat_unsignedZero (d : Decimal) : d.unsignedZero.toRat = d.toRat := by
  unfold unsignedZero
  split
  next hz =>
    have hm : d.magnitude = 0 := magnitude_eq_zero.mpr hz
    have hm' : magnitude { d with negative := false } = 0 := hm
    simp [toRat, signed, hm, hm']
  next => rfl

/-- A decimal has the sign that its text starts with. -/
theorem negative_of_parse {text : String} {d : Decimal} (h : parse text = .ok d) :
    d.negative = (splitSign (Text.trim text.toList)).1 := by
  unfold parse at h
  split at h
  next parsed hparsed =>
    cases h
    simp only [ofText?] at hparsed
    split at hparsed
    · cases hparsed
    · simp only [Option.bind_eq_bind, Option.bind_eq_some_iff] at hparsed
      obtain ⟨integral, -, fraction, -, heq⟩ := hparsed
      cases heq
      rfl
  · cases h

/-- A decimal that denotes zero has no sign unless it is a negative zero. -/
theorem negative_of_toRat_eq_zero {d : Decimal} (h : d.isNegativeZero = false) (hz : d.toRat = 0) :
    d.negative = false := by
  rwa [isNegativeZero, toRat_eq_zero.mp hz, Bool.and_true] at h

/-- Groups make up no negative zero. -/
theorem isNegativeZero_ofGroups (negative : Bool) (scale : Nat) (integral fraction : List Nat) :
    (ofGroups negative scale integral fraction).isNegativeZero = false :=
  isNegativeZero_unsignedZero _

/-- No record gives a zero a sign. -/
theorem isNegativeZero_of_get {r s : Packet.Reader} {d : Decimal} (h : get r = .ok d s) :
    d.isNegativeZero = false := by
  obtain ⟨header, t, -, h⟩ := Actions.bind_eq_ok.mp h
  obtain ⟨integral, u, -, h⟩ := Actions.bind_eq_ok.mp h
  obtain ⟨fraction, v, -, h⟩ := Actions.bind_eq_ok.mp h
  cases h
  exact isNegativeZero_ofGroups _ _ _ _

/-- Decimals are one just if they denote the same number with as many fraction digits, and both or neither
are zeros with a minus sign. A text gives such a zero just if it denotes zero and starts with a minus sign,
and a record never does. What comes back for the record of a decimal is the decimal itself just if it is no
zero with a minus sign. -/
theorem eq_iff_toRat (a b : Decimal) :
    (a = b ↔ a.toRat = b.toRat ∧ a.scale = b.scale ∧ a.isNegativeZero = b.isNegativeZero) ∧
    (∀ text, parse text = .ok a →
      (a.isNegativeZero = true ↔ (splitSign (Text.trim text.toList)).1 = true ∧ a.toRat = 0)) ∧
    (∀ r s, get r = .ok a s → a.isNegativeZero = false) ∧
    (∀ bytes, a.put.bytes? = .ok bytes →
      ∃ d, GetM.runOn bytes get = .ok d ∧ (d = a ↔ a.isNegativeZero = false)) := by
  refine ⟨⟨?_, ?_⟩, fun text h => ?_, fun r s h => isNegativeZero_of_get h, fun bytes h => ?_⟩
  · rintro rfl
    exact ⟨rfl, rfl, rfl⟩
  · rintro ⟨hnumber, hscale, hzero⟩
    exact eq_of_toRat_eq hnumber hscale hzero
  · rw [isNegativeZero, Bool.and_eq_true, negative_of_parse h, toRat_eq_zero]
  · exact ⟨a.unsignedZero, (reads_get h).readsAll.runOn_eq, unsignedZero_eq_self⟩

/-- The zero with two fraction digits, with a minus sign or without. -/
def zeroCents (negative : Bool) : Decimal :=
  { negative, integral := [0], fraction := [0, 0], canonical_integral := Digits.canonical_zero }

/-- The text of a zero with a minus sign keeps the sign, and its record does not. -/
theorem eq_iff_toRat_zeroCents :
    parse "-0.00" = .ok (zeroCents true) ∧
    ((zeroCents true).isNegativeZero = true ↔
      (splitSign (Text.trim "-0.00".toList)).1 = true ∧ (zeroCents true).toRat = 0) ∧
    get ⟨[0, 0, 0, 0, 0, 0, 0, 2], 0⟩ = .ok (zeroCents false) ⟨[], 8⟩ ∧
    (zeroCents false).isNegativeZero = false ∧
    (zeroCents true).put.bytes? = .ok [0, 0, 0, 0, 0, 0, 0, 2] ∧
    ∃ d, GetM.runOn [0, 0, 0, 0, 0, 0, 0, 2] get = .ok d ∧
      (d = zeroCents true ↔ (zeroCents true).isNegativeZero = false) := by
  have hparse : parse "-0.00" = .ok (zeroCents true) := by decide
  have hget : get ⟨[0, 0, 0, 0, 0, 0, 0, 2], 0⟩ = .ok (zeroCents false) ⟨[], 8⟩ := rfl
  have hput : (zeroCents true).put.bytes? = .ok [0, 0, 0, 0, 0, 0, 0, 2] := by decide
  obtain ⟨-, htext, -, hback⟩ := eq_iff_toRat (zeroCents true) (zeroCents false)
  obtain ⟨-, -, hrecord, -⟩ := eq_iff_toRat (zeroCents false) (zeroCents true)
  exact ⟨hparse, htext _ hparse, hget, hrecord _ _ hget, hput, hback _ hput⟩

/-- Two texts give zeros of the same number and scale that are not one. -/
theorem exists_zeros_ne :
    ∃ a b : Decimal, parse "-0" = .ok a ∧ parse "0" = .ok b ∧ a.toRat = b.toRat ∧ a.scale = b.scale ∧
      a ≠ b := by
  refine ⟨⟨true, [0], [], rfl⟩, ⟨false, [0], [], rfl⟩, by decide, by decide, ?_, rfl, by decide⟩
  rw [toRat_eq_zero.mpr (by decide), toRat_eq_zero.mpr (by decide)]

end Decimal

end GelClient
