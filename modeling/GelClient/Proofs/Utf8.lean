import GelClient.Utf8

/-!
# Reading UTF-8 back

The decoder takes the sequence of every character off the front of its input, so every text is read
back from its bytes. The sequences are told apart by their lead bytes; the second byte of a longer one
also shows that it is not overlong and no surrogate.
-/

namespace GelClient.Utf8

section Sequences

variable {b0 b1 b2 b3 : UInt8} (index : Nat) (found : List Char) (rest : Bytes)

/-- A sequence of one byte is taken off the front. -/
private theorem decodeFrom_one (h0 : b0.toNat < 0x80) :
    decodeFrom index found (b0 :: rest) =
      decodeFrom (index + 1) (Char.ofNat b0.toNat :: found) rest := by
  have hlow : b0 < 0x80 := UInt8.lt_iff_toNat_lt.mpr h0
  rw [decodeFrom.eq_def]
  simp [hlow]

/-- A sequence of two bytes is taken off the front. -/
private theorem decodeFrom_two (h0 : 0xC2 ≤ b0.toNat ∧ b0.toNat ≤ 0xDF) (h1 : isContinuation b1 = true) :
    decodeFrom index found (b0 :: b1 :: rest) =
      decodeFrom (index + 2)
        (Char.ofNat (b0.toNat % 32 * 64 + continuationBits b1) :: found) rest := by
  have hlow : ¬ b0 < 0x80 := by
    simp only [UInt8.lt_iff_toNat_lt, UInt8.reduceToNat]
    omega
  have htwo : 0xC2 ≤ b0 ∧ b0 ≤ 0xDF := h0
  rw [decodeFrom.eq_def]
  simp [hlow, htwo, h1]

/-- A sequence of three bytes is taken off the front. -/
private theorem decodeFrom_three (h0 : 0xE0 ≤ b0.toNat ∧ b0.toNat ≤ 0xEF)
    (h1 : secondOfThree b0 b1 = true) (h2 : isContinuation b2 = true) :
    decodeFrom index found (b0 :: b1 :: b2 :: rest) =
      decodeFrom (index + 3)
        (Char.ofNat (b0.toNat % 16 * 4096 + continuationBits b1 * 64 + continuationBits b2) :: found)
        rest := by
  have hlow : ¬ b0 < 0x80 := by
    simp only [UInt8.lt_iff_toNat_lt, UInt8.reduceToNat]
    omega
  have htwo : ¬ (0xC2 ≤ b0 ∧ b0 ≤ 0xDF) := by
    simp only [UInt8.le_iff_toNat_le, UInt8.reduceToNat]
    omega
  have hthree : 0xE0 ≤ b0 ∧ b0 ≤ 0xEF := h0
  rw [decodeFrom.eq_def]
  simp [hlow, htwo, hthree, h1, h2]

/-- A sequence of four bytes is taken off the front. -/
private theorem decodeFrom_four (h0 : 0xF0 ≤ b0.toNat ∧ b0.toNat ≤ 0xF4)
    (h1 : secondOfFour b0 b1 = true) (h2 : isContinuation b2 = true)
    (h3 : isContinuation b3 = true) :
    decodeFrom index found (b0 :: b1 :: b2 :: b3 :: rest) =
      decodeFrom (index + 4)
        (Char.ofNat (b0.toNat % 8 * 262144 + continuationBits b1 * 4096 + continuationBits b2 * 64
          + continuationBits b3) :: found)
        rest := by
  have hlow : ¬ b0 < 0x80 := by
    simp only [UInt8.lt_iff_toNat_lt, UInt8.reduceToNat]
    omega
  have htwo : ¬ (0xC2 ≤ b0 ∧ b0 ≤ 0xDF) := by
    simp only [UInt8.le_iff_toNat_le, UInt8.reduceToNat]
    omega
  have hthree : ¬ (0xE0 ≤ b0 ∧ b0 ≤ 0xEF) := by
    simp only [UInt8.le_iff_toNat_le, UInt8.reduceToNat]
    omega
  have hfour : 0xF0 ≤ b0 ∧ b0 ≤ 0xF4 := h0
  rw [decodeFrom.eq_def]
  simp [hlow, htwo, hthree, hfour, h1, h2, h3]

end Sequences

/-- The number of a byte that is made of a number that fits. -/
private theorem toNat_ofNat_of_lt {n : Nat} (h : n < 256) : (UInt8.ofNat n).toNat = n := by
  rw [UInt8.toNat_ofNat']
  exact Nat.mod_eq_of_lt h

/-- The low six bits of a number behind the mark of a continuation. -/
def continuation (n : Nat) : UInt8 := UInt8.ofNat (n % 64 + 0x80)

/-- The number of a continuation byte. -/
private theorem toNat_continuation (n : Nat) : (continuation n).toNat = n % 64 + 0x80 :=
  toNat_ofNat_of_lt (by omega)

/-- A byte with the mark of a continuation is one. -/
@[simp]
theorem isContinuation_continuation (n : Nat) : isContinuation (continuation n) = true := by
  simp only [isContinuation, UInt8.le_iff_toNat_le, toNat_continuation, UInt8.reduceToNat,
    Bool.and_eq_true, decide_eq_true_eq]
  omega

/-- A continuation byte carries the low six bits of its number. -/
@[simp]
theorem continuationBits_continuation (n : Nat) : continuationBits (continuation n) = n % 64 := by
  rw [continuationBits, toNat_continuation]
  omega

/-- The second of three bytes may follow the first, as long as the number needs three bytes and is not
a surrogate. -/
private theorem secondOfThree_continuation {lead : UInt8} {n : Nat} (hlead : lead.toNat = n / 64 + 0xE0)
    (hn : 0x20 ≤ n ∧ (n < 0x360 ∨ 0x380 ≤ n)) : secondOfThree lead (continuation n) = true := by
  simp only [secondOfThree, beq_iff_eq, ← UInt8.toNat_inj, hlead, UInt8.reduceToNat,
    UInt8.le_iff_toNat_le, toNat_continuation, isContinuation_continuation]
  split
  · simp
    omega
  · split
    · simp
      omega
    · rfl

/-- The second of four bytes may follow the first, as long as the number needs four bytes and is that
of a character. -/
private theorem secondOfFour_continuation {lead : UInt8} {n : Nat} (hlead : lead.toNat = n / 64 + 0xF0)
    (hn : 0x10 ≤ n ∧ n < 0x110) : secondOfFour lead (continuation n) = true := by
  simp only [secondOfFour, beq_iff_eq, ← UInt8.toNat_inj, hlead, UInt8.reduceToNat,
    UInt8.le_iff_toNat_le, toNat_continuation, isContinuation_continuation]
  split
  · simp
    omega
  · split
    · simp
      omega
    · rfl

/-- The sequence of a character is taken off the front. -/
theorem decodeFrom_utf8EncodeChar (c : Char) (index : Nat) (found : List Char) (rest : Bytes) :
    decodeFrom index found (String.utf8EncodeChar c ++ rest) =
      decodeFrom (index + (String.utf8EncodeChar c).length) (c :: found) rest := by
  have hc : Char.ofNat c.val.toNat = c := Char.ofNat_toNat c
  have hvalid : c.val.toNat < 0xD800 ∨ 0xDFFF < c.val.toNat ∧ c.val.toNat < 0x110000 := c.valid
  generalize hv : c.val.toNat = v at hc hvalid
  unfold String.utf8EncodeChar
  simp only [hv]
  split
  next h1 =>
    have hlead : (UInt8.ofNat v).toNat = v := toNat_ofNat_of_lt (by omega)
    have hsmall : (UInt8.ofNat v).toNat < 0x80 := by omega
    have hone := decodeFrom_one index found rest hsmall
    rw [hlead, hc] at hone
    exact hone
  next h1 =>
    split
    next h2 =>
      have hlead : (UInt8.ofNat (v / 64 % 0x20 + 0xC0)).toNat = v / 64 % 0x20 + 0xC0 :=
        toNat_ofNat_of_lt (by omega)
      have hrange : 0xC2 ≤ (UInt8.ofNat (v / 64 % 0x20 + 0xC0)).toNat ∧
          (UInt8.ofNat (v / 64 % 0x20 + 0xC0)).toNat ≤ 0xDF := by omega
      have htwo := decodeFrom_two index found rest hrange (isContinuation_continuation v)
      have hvalue : (v / 64 % 0x20 + 0xC0) % 32 * 64 + v % 64 = v := by omega
      rw [hlead, continuationBits_continuation, hvalue, hc] at htwo
      exact htwo
    next h2 =>
      split
      next h3 =>
        have hlead : (UInt8.ofNat (v / 4096 % 0x10 + 0xE0)).toNat = v / 64 / 64 + 0xE0 := by
          rw [toNat_ofNat_of_lt (by omega)]
          omega
        have hsecond := secondOfThree_continuation hlead (by omega)
        have hthree := decodeFrom_three index found rest (by omega) hsecond
          (isContinuation_continuation v)
        have hvalue : (v / 64 / 64 + 0xE0) % 16 * 4096 + v / 64 % 64 * 64 + v % 64 = v := by omega
        rw [hlead, continuationBits_continuation, continuationBits_continuation, hvalue, hc] at hthree
        exact hthree
      next h3 =>
        have hlead : (UInt8.ofNat (v / 262144 % 0x08 + 0xF0)).toNat = v / 4096 / 64 + 0xF0 := by
          rw [toNat_ofNat_of_lt (by omega)]
          omega
        have hsecond := secondOfFour_continuation hlead (by omega)
        have hfour := decodeFrom_four index found rest (by omega) hsecond
          (isContinuation_continuation (v / 64)) (isContinuation_continuation v)
        have hvalue : (v / 4096 / 64 + 0xF0) % 8 * 262144 + v / 4096 % 64 * 4096
            + v / 64 % 64 * 64 + v % 64 = v := by omega
        rw [hlead, continuationBits_continuation, continuationBits_continuation,
          continuationBits_continuation, hvalue, hc] at hfour
        exact hfour

/-- The sequences of characters are taken off the front one after the other. -/
theorem decodeFrom_flatMap (cs : List Char) (index : Nat) (found : List Char) :
    decodeFrom index found (cs.flatMap String.utf8EncodeChar) = .ok (found.reverse ++ cs) := by
  induction cs generalizing index found with
  | nil => simp [decodeFrom]
  | cons c cs ih =>
    rw [List.flatMap_cons, decodeFrom_utf8EncodeChar, ih]
    simp

/-- Every text is read back from its bytes. -/
@[simp]
theorem decode_encode (text : String) : decode (encode text) = .ok text := by
  simp [decode, encode, decodeFrom_flatMap, Except.map]

/-- Only the empty text has no bytes. -/
theorem eq_empty_of_encode_eq_nil {text : String} (h : encode text = []) : text = "" := by
  have hd := decode_encode text
  rw [h, decode_nil, Except.ok.injEq] at hd
  exact hd.symm

/-- The size of a text counts its bytes. -/
@[simp]
theorem length_encode (text : String) : (encode text).length = size text := by
  rw [encode, size, String.utf8ByteSize]
  conv => rhs; rw [← String.ofList_toList (s := text), String.toByteArray_ofList, List.utf8Encode,
    List.size_toByteArray]

/-- A text of ASCII characters has a byte for each of them. -/
theorem size_eq_length {text : String} (h : ∀ c ∈ text.toList, c.toNat < 128) : size text = text.length := by
  rw [← length_encode, ← String.length_toList, encode]
  generalize text.toList = cs at h
  induction cs with
  | nil => rfl
  | cons c cs ih =>
    obtain ⟨hc, hcs⟩ := List.forall_mem_cons.mp h
    have hone : c.utf8Size = 1 := Char.utf8Size_eq_one_iff.mpr (Nat.le_of_lt_succ hc)
    rw [List.flatMap_cons, List.length_append, String.length_utf8EncodeChar, hone, ih hcs, List.length_cons,
      Nat.add_comm]

/-- A character needs no more bytes than its number does. -/
theorem utf8Size_ofNat_le (n : Nat) :
    (n < 0x80 → (Char.ofNat n).utf8Size ≤ 1) ∧ (n < 0x800 → (Char.ofNat n).utf8Size ≤ 2) ∧
      (n < 0x10000 → (Char.ofNat n).utf8Size ≤ 3) := by
  have hval : (Char.ofNat n).val.toNat ≤ n := by
    by_cases hvalid : n.isValidChar
    · rw [Char.ofNat, dif_pos hvalid]
      exact Nat.le_refl n
    · rw [Char.ofNat, dif_neg hvalid]
      exact Nat.zero_le n
  generalize Char.ofNat n = c at hval
  simp only [Char.utf8Size, UInt32.le_iff_toNat_le]
  refine ⟨fun h => ?_, fun h => ?_, fun h => ?_⟩ <;> grind

/-- Characters that are read behind others need no more bytes than they were read from. -/
theorem sum_utf8Size_of_decodeFrom {index : Nat} {found cs : List Char} {bytes : Bytes}
    (h : decodeFrom index found bytes = .ok cs) :
    (cs.map Char.utf8Size).sum ≤ (found.map Char.utf8Size).sum + bytes.length := by
  have htake (c : Char) (found : List Char) (rest : Bytes) (width : Nat) (hsize : c.utf8Size ≤ width)
      (hle : (cs.map Char.utf8Size).sum ≤ ((c :: found).map Char.utf8Size).sum + rest.length) :
      (cs.map Char.utf8Size).sum ≤ (found.map Char.utf8Size).sum + (rest.length + width) := by
    rw [List.map_cons, List.sum_cons] at hle
    omega
  fun_induction decodeFrom index found bytes with
  | case1 index found =>
    cases h
    rw [List.map_reverse, List.sum_reverse]
    exact Nat.le_add_right _ _
  | case2 index found b0 rest hone ih => exact htake _ found rest 1 ((utf8Size_ofNat_le b0.toNat).1 hone) (ih h)
  | case5 index found b0 _ _ b1 rest _ c ih =>
    have hbits : continuationBits b1 < 64 := Nat.mod_lt _ (by decide)
    have hsize : c.utf8Size ≤ 2 := (utf8Size_ofNat_le _).2.1 (by omega)
    exact htake c found rest 2 hsize (ih h)
  | case10 index found b0 _ _ _ b1 _ b2 rest _ c ih =>
    have hbits : continuationBits b1 < 64 ∧ continuationBits b2 < 64 :=
      ⟨Nat.mod_lt _ (by decide), Nat.mod_lt _ (by decide)⟩
    have hsize : c.utf8Size ≤ 3 := (utf8Size_ofNat_le _).2.2 (by omega)
    exact htake c found rest 3 hsize (ih h)
  | case17 index found b0 _ _ _ _ b1 _ b2 _ b3 rest _ c ih => exact htake c found rest 4 c.utf8Size_le_four (ih h)
  | _ => cases h

/-- A text needs no more bytes than it was read from. -/
theorem size_le_of_decode {text : String} {bytes : Bytes} (h : decode bytes = .ok text) : size text ≤ bytes.length := by
  rw [decode] at h
  cases hcs : decodeFrom 0 [] bytes with
  | error e =>
    rw [hcs] at h
    cases h
  | ok cs =>
    rw [hcs] at h
    obtain rfl := Except.ok.inj h
    have hle := sum_utf8Size_of_decodeFrom hcs
    rw [List.map_nil, List.sum_nil, Nat.zero_add] at hle
    rw [← length_encode, encode, String.toList_ofList, List.length_flatMap]
    simp only [String.length_utf8EncodeChar]
    exact hle

end GelClient.Utf8
