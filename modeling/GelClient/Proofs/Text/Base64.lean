import GelClient.Text.Base64

/-!
# Base64 read back

Four characters carry three bytes, and a shorter last group is told by its padding. Decoding takes each
group apart as encoding put it together, and the bits that padding leaves over are the zeros that
encoding wrote.
-/

namespace GelClient.Base64

/-- Two parts that add up to a byte make it. -/
private theorem byte_eq {upper lower : Nat} {b : UInt8} (h : upper + lower = b.toNat) : byte upper lower = b := by
  rw [byte, h]
  exact UInt8.ofNat_toNat

/-- Four characters without padding are decoded before those behind them. -/
private theorem decodeChars?_cons {a b c d : Char} {w x y z : Nat} (ha : value? a = some w)
    (hb : value? b = some x) (hc : value? c = some y) (hd : value? d = some z) (hpad : d ≠ '=')
    (rest : List Char) :
    decodeChars? (a :: b :: c :: d :: rest) = (decodeChars? rest).map fun bytes =>
      byte (w * 4) (x / 16) :: byte (x % 16 * 16) (y / 4) :: byte (y % 4 * 64) z :: bytes := by
  rw [decodeChars?]
  · rw [ha, hb, hc, hd]
    cases decodeChars? rest <;> rfl
  · intro _ h _
    exact hpad h
  · intro h _
    exact hpad h

/-- Decoding an encoding gives the bytes back. -/
theorem decodeChars?_encodeChars (bytes : Bytes) : decodeChars? (encodeChars bytes) = some bytes := by
  fun_induction encodeChars bytes with
  | case1 => rfl
  | case2 a =>
    have ha := a.toNat_lt
    have hzero : a.toNat % 4 * 16 % 64 % 16 = 0 := by omega
    rw [decodeChars?, value?_symbol, value?_symbol]
    simp only [Option.bind_eq_bind, Option.bind_some, hzero, if_true]
    rw [byte_eq (b := a) (by omega)]
  | case3 a b =>
    have ha := a.toNat_lt
    have hb := b.toNat_lt
    have hzero : b.toNat % 16 * 4 % 64 % 4 = 0 := by omega
    rw [decodeChars?, value?_symbol, value?_symbol, value?_symbol]
    · simp only [Option.bind_eq_bind, Option.bind_some, hzero, if_true]
      rw [byte_eq (b := a) (by omega), byte_eq (b := b) (by omega)]
    · exact fun h => symbol_ne_padding _ h
  | case4 a b c rest ih =>
    have ha := a.toNat_lt
    have hb := b.toNat_lt
    have hc := c.toNat_lt
    rw [decodeChars?_cons (value?_symbol _) (value?_symbol _) (value?_symbol _) (value?_symbol _)
      (symbol_ne_padding _), ih, Option.map_some, byte_eq (b := a) (by omega),
      byte_eq (b := b) (by omega), byte_eq (b := c) (by omega)]

/-- No comma is written. -/
theorem comma_notMem_encodeChars (bytes : Bytes) : ',' ∉ encodeChars bytes := by
  have hsymbol (n : Nat) : ',' ≠ symbol n := (symbol_ne_comma n).symm
  fun_induction encodeChars bytes with
  | case1 => exact List.not_mem_nil
  | case2 a => simp [hsymbol]
  | case3 a b => simp [hsymbol]
  | case4 a b c rest ih => simp [hsymbol, ih]

/-- The text of bytes has no comma. -/
theorem comma_notMem_encode (bytes : Bytes) : ',' ∉ (encode bytes).toList := by
  rw [encode, String.toList_ofList]
  exact comma_notMem_encodeChars bytes

/-- The text of bytes is decoded to them. -/
theorem decode?_encode (bytes : Bytes) : decode? (encode bytes) = some bytes := by
  rw [decode?, encode, String.toList_ofList]
  exact decodeChars?_encodeChars bytes

end GelClient.Base64
