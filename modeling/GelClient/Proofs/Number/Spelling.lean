import GelClient.Proofs.Number.Canonical
import Mathlib.Data.List.TakeWhile

/-!
# How numbers are spelled

The texts of numbers, given by a grammar that does not say how they are read: white space on both
sides, a sign that may be missing, and digits, for a decimal with at most one point among them. Every
text that the grammar allows is read as the number that it spells and every other text is refused. So
there is one number for a text, while a number has many texts: leading zeros, a plus sign and white
space are no part of it. The text that a number is shown by is one of its own.
-/

namespace GelClient

namespace Text

/-- The text is `core` with white space on both sides. -/
def IsPadded (text core : List Char) : Prop :=
  ∃ before after, (∀ c ∈ before, isBlank c = true) ∧ (∀ c ∈ after, isBlank c = true) ∧
    text = before ++ core ++ after

/-- A text stands for itself without any white space around it. -/
theorem isPadded_self (text : List Char) : IsPadded text text :=
  ⟨[], [], by simp, by simp, by simp⟩

/-- Besides its trimmed form a text has white space only. -/
theorem isPadded_trim (text : List Char) : IsPadded text (trim text) := by
  refine ⟨text.takeWhile isBlank, ((text.dropWhile isBlank).reverse.takeWhile isBlank).reverse,
    fun c hc => List.mem_takeWhile_imp hc,
    fun c hc => List.mem_takeWhile_imp (List.mem_reverse.mp hc), ?_⟩
  rw [trim, List.append_assoc, ← List.reverse_append, List.takeWhile_append_dropWhile,
    List.reverse_reverse, List.takeWhile_append_dropWhile]

/-- Trimming leaves what has no white space of its own. -/
theorem trim_eq_of_isPadded {text core : List Char} (h : IsPadded text core)
    (hcore : ∀ c ∈ core, isBlank c = false) : trim text = core := by
  -- White space in front of such characters goes, and behind them it does so the other way round.
  have hdrop {blanks rest : List Char} (hb : ∀ c ∈ blanks, isBlank c = true)
      (hr : ∀ c ∈ rest.head?, isBlank c = false) : (blanks ++ rest).dropWhile isBlank = rest := by
    rw [List.dropWhile_append_of_pos hb]
    cases rest with
    | nil => rfl
    | cons c rest => rw [List.dropWhile_cons_of_neg (by simp [hr c rfl])]
  obtain ⟨before, after, hbefore, hafter, rfl⟩ := h
  cases core with
  | nil =>
    have hall : ∀ c ∈ before ++ [] ++ after, isBlank c = true := by
      simpa [or_imp, forall_and] using ⟨hbefore, hafter⟩
    have hnone : ((before ++ [] ++ after) ++ []).dropWhile isBlank = [] := hdrop hall (by simp)
    rw [List.append_nil (before ++ [] ++ after)] at hnone
    rw [trim, hnone]
    rfl
  | cons c core =>
    rw [trim, List.append_assoc, hdrop hbefore (by simp [hcore c List.mem_cons_self]), List.reverse_append,
      hdrop (by simpa using hafter) fun d hd => ?_, List.reverse_reverse]
    exact hcore d (List.mem_reverse.mp (List.mem_of_head? hd))

/-- ASCII digits are ten characters in a row. -/
theorem isDigit_iff {c : Char} : c.isDigit = true ↔ 48 ≤ c.toNat ∧ c.toNat ≤ 57 := by
  simp [Char.isDigit, UInt32.le_iff_toNat_le]

/-- A digit is no white space. -/
theorem isBlank_of_isDigit {c : Char} (h : c.isDigit = true) : isBlank c = false := by
  rw [isDigit_iff] at h
  simp [isBlank]
  omega

end Text

/-- The characters spell a sign, which is a plus sign where there are none. -/
inductive SpellsSign : List Char → Bool → Prop
  | none : SpellsSign [] false
  | plus : SpellsSign ['+'] false
  | minus : SpellsSign ['-'] true

/-- A minus sign is put in front of negative numbers, and nothing in front of others. -/
theorem spellsSign_minus (negative : Bool) : SpellsSign (if negative then "-" else "").toList negative := by
  cases negative
  · exact .none
  · exact .minus

/-- A sign that is split off was spelled in front of the rest. -/
private theorem exists_of_splitSign (text : List Char) :
    ∃ sign, SpellsSign sign (splitSign text).1 ∧ text = sign ++ (splitSign text).2 := by
  unfold splitSign
  split
  · exact ⟨_, .minus, rfl⟩
  · exact ⟨_, .plus, rfl⟩
  · exact ⟨_, .none, rfl⟩

/-- A sign is split off from what starts with no further one. -/
private theorem splitSign_append {sign rest : List Char} {negative : Bool} (h : SpellsSign sign negative)
    (hm : rest.head? ≠ some '-') (hp : rest.head? ≠ some '+') :
    splitSign (sign ++ rest) = (negative, rest) := by
  cases h with
  | none =>
    rw [List.nil_append]
    unfold splitSign
    split
    · exact absurd rfl hm
    · exact absurd rfl hp
    · rfl
  | plus => rfl
  | minus => rfl

namespace Digits

/-- What is left of digits when the superfluous zeros in front of them go, which is a single zero if
there is no other digit. -/
inductive Reduces : Digits → Digits → Prop
  | zeros (n : Nat) : Reduces (List.replicate n 0) [0]
  | leading (n : Nat) {d : Digit} (ds : Digits) :
      d ≠ 0 → Reduces (List.replicate n 0 ++ d :: ds) (d :: ds)

/-- Every row of digits is reduced to its canonical form. -/
theorem reduces_canonical (ds : Digits) : ds.Reduces ds.canonical := by
  have hsplit := List.takeWhile_append_dropWhile (p := (· == (0 : Digit))) (l := ds)
  have hzeros : ds.takeWhile (· == 0) = List.replicate (ds.takeWhile (· == 0)).length 0 :=
    List.eq_replicate_of_mem fun d hd => by simpa using List.mem_takeWhile_imp hd
  rw [hzeros] at hsplit
  cases hrest : ds.dropWhile (· == 0) with
  | nil =>
    rw [hrest, List.append_nil] at hsplit
    rw [canonical, hrest, ← hsplit]
    exact .zeros _
  | cons d rest =>
    have hhead := List.head?_dropWhile_not (· == (0 : Digit)) ds
    rw [hrest] at hhead hsplit
    rw [canonical, hrest]
    nth_rewrite 1 [← hsplit]
    exact .leading _ rest (by simpa using hhead)

/-- Digits are reduced to nothing but their canonical form. -/
theorem reduces_iff {ds es : Digits} : ds.Reduces es ↔ es = ds.canonical := by
  constructor
  · intro h
    cases h with
    | zeros n => exact (canonical_replicate n).symm
    | leading n ds hd => rw [canonical_replicate_append, canonical_cons hd]
  · rintro rfl
    exact ds.reduces_canonical

/-- The character of a digit denotes it. -/
@[simp]
theorem ofChar?_toChar (d : Digit) : ofChar? (toChar d) = some d := by
  revert d
  decide

/-- A character denotes a digit just if it is the character of the digit. -/
theorem ofChar?_eq_some_iff {c : Char} {d : Digit} : ofChar? c = some d ↔ c = toChar d := by
  constructor
  · intro h
    unfold ofChar? at h
    split at h
    next hc =>
      cases h
      obtain ⟨hlow, hhigh⟩ := Text.isDigit_iff.mp hc
      have hcode : 48 + (c.toNat - 48) % 10 = c.toNat := by omega
      simp [toChar, Fin.ofNat, hcode]
    next => cases h
  · rintro rfl
    exact ofChar?_toChar d

/-- Characters denote digits just if they are the characters of the digits. -/
theorem ofChars?_eq_some_iff {cs : List Char} {ds : Digits} : ofChars? cs = some ds ↔ cs = toChars ds := by
  induction cs generalizing ds with
  | nil => cases ds <;> simp [ofChars?, toChars]
  | cons c cs ih =>
    rw [ofChars?, List.mapM_cons, ← ofChars?]
    cases ds <;> simp [Option.bind_eq_some_iff, ofChar?_eq_some_iff, ih, toChars]

/-- The digits of a number have the characters of its decimal form. -/
theorem toChars_ofNat (n : Nat) : (ofNat n).toChars = Nat.toDigits 10 n := by
  rw [ofNat, toChars, List.map_map]
  nth_rewrite 2 [← List.map_id (Nat.toDigits 10 n)]
  refine List.map_congr_left fun c hc => ?_
  have hdigit : c.isDigit = true := Nat.isDigit_of_mem_toDigits (by decide) (by decide) hc
  exact (ofChar?_eq_some_iff.mp (if_pos hdigit)).symm

/-- The characters of digits are ASCII digits. -/
theorem isDigit_of_mem_toChars {c : Char} {ds : Digits} (h : c ∈ toChars ds) : c.isDigit = true := by
  obtain ⟨d, -, rfl⟩ := List.mem_map.mp h
  clear h
  revert d
  decide

end Digits

/-- A sign in front of digits and points is split off, whatever white space is around them. -/
theorem splitSign_trim {text sign unsigned : List Char} {negative : Bool}
    (hpad : Text.IsPadded text (sign ++ unsigned)) (hsign : SpellsSign sign negative)
    (h : ∀ c ∈ unsigned, c.isDigit = true ∨ c = '.') :
    splitSign (Text.trim text) = (negative, unsigned) := by
  have hblank : ∀ c ∈ sign ++ unsigned, Text.isBlank c = false := by
    intro c hc
    obtain hc | hc := List.mem_append.mp hc
    · cases hsign <;> simp_all [Text.isBlank]
    · obtain hdigit | rfl := h c hc
      · exact Text.isBlank_of_isDigit hdigit
      · rfl
  have hhead (c : Char) (hdigit : c.isDigit = false) (hpoint : c ≠ '.') : unsigned.head? ≠ some c := by
    intro hc
    have := h c (List.mem_of_head? hc)
    simp [hdigit, hpoint] at this
  rw [Text.trim_eq_of_isPadded hpad hblank]
  exact splitSign_append hsign (hhead '-' rfl (by decide)) (hhead '+' rfl (by decide))

namespace Decimal

/-- The characters spell a number without its sign: digits, of which those behind a point are the
fraction, with at least one digit and at most one point. -/
inductive SpellsUnsigned : List Char → Digits → Digits → Prop
  | whole {integral : Digits} : integral ≠ [] → SpellsUnsigned integral.toChars integral []
  | pointed {integral fraction : Digits} :
      integral ++ fraction ≠ [] →
        SpellsUnsigned (integral.toChars ++ '.' :: fraction.toChars) integral fraction

/-- The characters spell a number: a sign, integral digits with any zeros in front of them, and all the
fraction digits. -/
inductive Spells : List Char → Decimal → Prop
  | mk {sign unsigned : List Char} {integral : Digits} {d : Decimal} :
      SpellsSign sign d.negative → SpellsUnsigned unsigned integral d.fraction →
        integral.Reduces d.integral → Spells (sign ++ unsigned) d

/-- The text spells the number, with white space on both sides. -/
def IsSpelledBy (d : Decimal) (text : String) : Prop :=
  ∃ core, Text.IsPadded text.toList core ∧ Spells core d

/-- There is at least one digit on one of the sides. -/
theorem SpellsUnsigned.ne_nil {unsigned : List Char} {integral fraction : Digits}
    (h : SpellsUnsigned unsigned integral fraction) : integral ++ fraction ≠ [] := by
  cases h with
  | whole hne => rwa [List.append_nil]
  | pointed hne => exact hne

/-- What is split at its point was spelled by the digits on its sides. -/
theorem spellsUnsigned_of_splitPoint {unsigned : List Char} {integral fraction : Digits}
    (h : splitPoint unsigned = (integral.toChars, fraction.toChars)) (hne : integral ++ fraction ≠ []) :
    SpellsUnsigned unsigned integral fraction := by
  obtain ⟨hfront, hback⟩ := Prod.mk.inj h
  have hsplit := List.takeWhile_append_dropWhile (p := (· != '.')) (l := unsigned)
  have hpoint := List.head?_dropWhile_not (· != '.') unsigned
  rw [hfront] at hsplit
  cases hrest : unsigned.dropWhile (· != '.') with
  | nil =>
    rw [hrest] at hback hsplit
    obtain rfl : fraction = [] := List.map_eq_nil_iff.mp hback.symm
    rw [← hsplit, List.append_nil]
    exact .whole (by simpa using hne)
  | cons c rest =>
    rw [hrest] at hback hsplit hpoint
    obtain rfl : c = '.' := by simpa using hpoint
    obtain rfl : rest = fraction.toChars := hback
    exact hsplit ▸ .pointed hne

/-- What is spelled by digits is split at its point into their characters. -/
theorem SpellsUnsigned.splitPoint_eq {unsigned : List Char} {integral fraction : Digits}
    (h : SpellsUnsigned unsigned integral fraction) :
    splitPoint unsigned = (integral.toChars, fraction.toChars) := by
  have hnone : ∀ c ∈ integral.toChars, (c != '.') = true := by
    rintro c hc
    rw [bne_iff_ne]
    rintro rfl
    exact absurd (Digits.isDigit_of_mem_toChars hc) (by decide)
  cases h with
  | whole =>
    have htake : integral.toChars.takeWhile (· != '.') = integral.toChars :=
      List.takeWhile_eq_self_iff.mpr hnone
    have hdrop : integral.toChars.dropWhile (· != '.') = [] := List.dropWhile_eq_nil_iff.mpr hnone
    rw [splitPoint, htake, hdrop]
    simp [Digits.toChars]
  | pointed =>
    rw [splitPoint, List.takeWhile_append_of_pos hnone, List.dropWhile_append_of_pos hnone]
    simp

/-- A number without its sign has digits and points only. -/
theorem SpellsUnsigned.isDigit_or_eq {unsigned : List Char} {integral fraction : Digits}
    (h : SpellsUnsigned unsigned integral fraction) : ∀ c ∈ unsigned, c.isDigit = true ∨ c = '.' := by
  intro c hc
  cases h with
  | whole => exact .inl (Digits.isDigit_of_mem_toChars hc)
  | pointed =>
    rw [List.mem_append, List.mem_cons] at hc
    obtain hc | rfl | hc := hc
    · exact .inl (Digits.isDigit_of_mem_toChars hc)
    · exact .inr rfl
    · exact .inl (Digits.isDigit_of_mem_toChars hc)

/-- A text that is read as a number spells it. -/
theorem isSpelledBy_of_ofText? {text : String} {d : Decimal} (h : ofText? text = some d) :
    d.IsSpelledBy text := by
  refine ⟨_, Text.isPadded_trim text.toList, ?_⟩
  obtain ⟨sign, hsign, htext⟩ := exists_of_splitSign (Text.trim text.toList)
  simp only [ofText?, Option.bind_eq_bind] at h
  generalize splitSign (Text.trim text.toList) = parts at h hsign htext
  split at h
  next => cases h
  next hne =>
    simp only [Option.bind_eq_some_iff, Digits.ofChars?_eq_some_iff] at h
    obtain ⟨integral, hintegral, fraction, hfraction, hd⟩ := h
    cases hd
    rw [htext]
    refine .mk hsign (spellsUnsigned_of_splitPoint (Prod.ext hintegral hfraction) fun hnil => hne ?_)
      integral.reduces_canonical
    obtain ⟨rfl, rfl⟩ := List.append_eq_nil_iff.mp hnil
    rw [hintegral, hfraction]
    rfl

/-- A text that spells a number is read as it. -/
theorem ofText?_of_isSpelledBy {text : String} {d : Decimal} (h : d.IsSpelledBy text) :
    ofText? text = some d := by
  obtain ⟨core, hpad, hspells⟩ := h
  obtain @⟨sign, unsigned, integral, _, hsign, hunsigned, hreduces⟩ := hspells
  have hne : ¬ (integral.toChars.isEmpty && d.fraction.toChars.isEmpty) = true := by
    simpa [Digits.toChars] using hunsigned.ne_nil
  simp only [ofText?, splitSign_trim hpad hsign hunsigned.isDigit_or_eq, hunsigned.splitPoint_eq,
    Option.bind_eq_bind, if_neg hne, Digits.ofChars?_eq_some_iff.mpr rfl, Option.bind_some]
  exact congrArg some (Decimal.ext rfl (Digits.reduces_iff.mp hreduces).symm rfl)

/-- The reader takes the texts that spell a number and refuses the others by their name. -/
theorem parse_eq_ok_iff {text : String} {d : Decimal} : parse text = .ok d ↔ d.IsSpelledBy text := by
  have hread : parse text = .ok d ↔ ofText? text = some d := by
    unfold parse
    cases ofText? text <;> simp
  exact hread.trans ⟨isSpelledBy_of_ofText?, ofText?_of_isSpelledBy⟩

/-- Where no number is spelled the text is refused. -/
theorem parse_eq_notDecimal_iff {text : String} :
    parse text = .error (.invalidValue (.notDecimal text)) ↔ ¬ ∃ d, IsSpelledBy d text := by
  simp only [← parse_eq_ok_iff]
  unfold parse
  cases ofText? text <;> simp

/-- A number is spelled by the text that it is shown by. -/
theorem isSpelledBy_toText (d : Decimal) : d.IsSpelledBy d.toText := by
  refine ⟨_, Text.isPadded_self _, ?_⟩
  have hreduces : d.integral.Reduces d.integral := Digits.reduces_iff.mpr d.canonical_integral.symm
  have hintegral : d.integral ≠ [] := (Digits.leading_of_canonical d.canonical_integral).1
  have hunsigned : SpellsUnsigned
      (d.integral.toChars ++ (if d.fraction.isEmpty then "" else "." ++ d.fraction.toText).toList)
      d.integral d.fraction := by
    cases hf : d.fraction with
    | nil => simpa using SpellsUnsigned.whole hintegral
    | cons f fs =>
      have hpointed : SpellsUnsigned (d.integral.toChars ++ '.' :: Digits.toChars (f :: fs)) d.integral
          (f :: fs) := .pointed (by simp)
      simpa [Digits.toText] using hpointed
  have htext : d.toText.toList = (if d.negative then "-" else "").toList ++ (d.integral.toChars ++
      (if d.fraction.isEmpty then "" else "." ++ d.fraction.toText).toList) := by
    simp [toText, Digits.toText]
  rw [htext]
  exact .mk (spellsSign_minus d.negative) hunsigned hreduces

end Decimal

namespace BigInt

/-- The characters spell an integer: a sign and at least one digit, with any zeros in front. Zero has no
sign, whatever is written. -/
inductive Spells : List Char → BigInt → Prop
  | mk {sign : List Char} {negative : Bool} {digits : Digits} {n : BigInt} :
      SpellsSign sign negative → digits ≠ [] → digits.Reduces n.digits →
        n.negative = (negative && n.digits != [0]) → Spells (sign ++ digits.toChars) n

/-- The text spells the integer, with white space on both sides. -/
def IsSpelledBy (n : BigInt) (text : String) : Prop :=
  ∃ core, Text.IsPadded text.toList core ∧ Spells core n

/-- A text that is read as an integer spells it. -/
theorem isSpelledBy_of_ofText? {text : String} {n : BigInt} (h : ofText? text = some n) :
    n.IsSpelledBy text := by
  refine ⟨_, Text.isPadded_trim text.toList, ?_⟩
  obtain ⟨sign, hsign, htext⟩ := exists_of_splitSign (Text.trim text.toList)
  simp only [ofText?, Option.bind_eq_bind] at h
  generalize splitSign (Text.trim text.toList) = parts at h hsign htext
  split at h
  next => cases h
  next hne =>
    obtain ⟨digits, hdigits, hn⟩ := Option.bind_eq_some_iff.mp h
    cases hn
    rw [Digits.ofChars?_eq_some_iff] at hdigits
    rw [htext, hdigits]
    refine .mk hsign (fun hnil => hne ?_) digits.reduces_canonical rfl
    rw [hdigits, hnil]
    rfl

/-- A text that spells an integer is read as it. -/
theorem ofText?_of_isSpelledBy {text : String} {n : BigInt} (h : n.IsSpelledBy text) :
    ofText? text = some n := by
  obtain ⟨core, hpad, hspells⟩ := h
  obtain @⟨sign, negative, digits, _, hsign, hne, hreduces, hnegative⟩ := hspells
  have hchars : ∀ c ∈ digits.toChars, c.isDigit = true ∨ c = '.' :=
    fun c hc => .inl (Digits.isDigit_of_mem_toChars hc)
  have hempty : ¬ digits.toChars.isEmpty = true := by
    simpa [Digits.toChars] using hne
  simp only [ofText?, splitSign_trim hpad hsign hchars, Option.bind_eq_bind, if_neg hempty,
    Digits.ofChars?_eq_some_iff.mpr rfl, Option.bind_some]
  rw [Digits.reduces_iff] at hreduces
  rw [hreduces] at hnegative
  exact congrArg some (BigInt.ext hnegative.symm hreduces.symm)

/-- The reader takes the texts that spell an integer. -/
theorem parse_eq_ok_iff {text : String} {n : BigInt} : parse text = .ok n ↔ n.IsSpelledBy text := by
  have hread : parse text = .ok n ↔ ofText? text = some n := by
    unfold parse
    cases ofText? text <;> simp
  exact hread.trans ⟨isSpelledBy_of_ofText?, ofText?_of_isSpelledBy⟩

/-- Where no integer is spelled the text is refused. -/
theorem parse_eq_notInteger_iff {text : String} :
    parse text = .error (.invalidValue (.notInteger text)) ↔ ¬ ∃ n, IsSpelledBy n text := by
  simp only [← parse_eq_ok_iff]
  unfold parse
  cases ofText? text <;> simp

/-- An integer is spelled by the text that it is shown by. -/
theorem isSpelledBy_toText (n : BigInt) : n.IsSpelledBy n.toText := by
  refine ⟨_, Text.isPadded_self _, ?_⟩
  have hsign : n.negative = (n.negative && n.digits != [0]) := by
    cases hn : n.negative with
    | false => rfl
    | true => simpa using fun hz => absurd (n.unsigned_zero hz) (by simp [hn])
  have htext : n.toText.toList = (if n.negative then "-" else "").toList ++ n.digits.toChars := by
    simp [toText, Digits.toText]
  rw [htext]
  exact .mk (spellsSign_minus n.negative) (Digits.leading_of_canonical n.canonical_digits).1
    (Digits.reduces_iff.mpr n.canonical_digits.symm) hsign

/-- An integer has a sign just if it denotes a negative number. -/
theorem negative_iff {n : BigInt} : n.negative = true ↔ n.toInt < 0 := by
  cases hn : n.negative with
  | false => simp [toInt, hn]
  | true =>
    have hzero : n.toInt ≠ 0 := fun hz => by simp [negative_of_toInt_eq_zero hz] at hn
    simp only [toInt, hn, if_true] at hzero ⊢
    simp only [true_iff]
    omega

/-- The absolute value of an integer is the number of its digits. -/
private theorem natAbs_toInt (n : BigInt) : n.toInt.natAbs = n.digits.value := by
  rw [toInt]
  split <;> simp

/-- An integer is settled by the number that it denotes. -/
theorem toInt_inj {a b : BigInt} : a.toInt = b.toInt ↔ a = b := by
  constructor
  · intro h
    ext1
    · rw [Bool.eq_iff_iff, negative_iff, negative_iff, h]
    · rw [← a.canonical_digits, ← b.canonical_digits]
      exact Digits.canonical_eq_of_value_eq (by rw [← natAbs_toInt, h, natAbs_toInt])
  · rintro rfl
    rfl

/-- The integer of a number denotes it. -/
@[simp]
theorem toInt_ofInt (k : Int) : (ofInt k).toInt = k := by
  have h := cast_toInt_ofDigits (decide (k < 0)) (Digits.ofNat k.natAbs)
  rw [Digits.value_ofNat, signed, ← ofInt] at h
  have hcast : (k.natAbs : ℚ) = ((k.natAbs : ℤ) : ℚ) := (Int.cast_natCast _).symm
  rw [hcast] at h
  split at h
  next hneg =>
    rw [decide_eq_true_iff] at hneg
    have := Int.cast_injective (h.trans (Int.cast_neg _).symm)
    omega
  next hneg =>
    rw [decide_eq_true_iff] at hneg
    have := Int.cast_injective h
    omega

/-- A number of the host is spelled by its decimal form. -/
theorem isSpelledBy_toString (k : Int) : (ofInt k).IsSpelledBy (toString k) := by
  refine ⟨_, Text.isPadded_self _, ?_⟩
  have hne (m : Nat) : Digits.ofNat m ≠ [] := by
    rw [Digits.ofNat]
    exact fun hnil => Nat.toDigits_ne_nil (List.map_eq_nil_iff.mp hnil)
  cases k with
  | ofNat m =>
    have htext : (toString (Int.ofNat m)).toList = [] ++ (Digits.ofNat m).toChars := by
      rw [Digits.toChars_ofNat]
      exact Nat.toList_repr
    rw [htext]
    exact .mk .none (hne m) (Digits.reduces_canonical _) rfl
  | negSucc m =>
    have htext : (toString (Int.negSucc m)).toList = ['-'] ++ (Digits.ofNat (m + 1)).toChars := by
      rw [Digits.toChars_ofNat]
      simp [toString, Int.repr]
    have hsign : (ofInt (Int.negSucc m)).negative = (true && (ofInt (Int.negSucc m)).digits != [0]) := by
      simp [ofInt, ofDigits, Int.negSucc_lt_zero]
    rw [htext]
    exact .mk .minus (hne (m + 1)) (Digits.reduces_canonical _) hsign

end BigInt

/-- The texts of numbers are read by their grammar. A text is read as a number just if it spells it, and
refused by its name if it spells none. A text is read as the integer of a number of the host just if it is
read as an integer that denotes this number, and the decimal form of the number is such a text. The text
that a decimal or an integer is shown by is read as it. -/
theorem parse_iff_isSpelledBy :
    (∀ text d, Decimal.parse text = .ok d ↔ d.IsSpelledBy text) ∧
    (∀ text, Decimal.parse text = .error (.invalidValue (.notDecimal text)) ↔
      ¬ ∃ d, Decimal.IsSpelledBy d text) ∧
    (∀ text n, BigInt.parse text = .ok n ↔ n.IsSpelledBy text) ∧
    (∀ text, BigInt.parse text = .error (.invalidValue (.notInteger text)) ↔
      ¬ ∃ n, BigInt.IsSpelledBy n text) ∧
    (∀ text k, BigInt.parse text = .ok (BigInt.ofInt k) ↔ ∃ n, BigInt.parse text = .ok n ∧ n.toInt = k) ∧
    (∀ k : Int, BigInt.parse (toString k) = .ok (BigInt.ofInt k)) ∧
    (∀ d : Decimal, Decimal.parse d.toText = .ok d) ∧
    ∀ n : BigInt, BigInt.parse n.toText = .ok n := by
  refine ⟨fun _ _ => Decimal.parse_eq_ok_iff, fun _ => Decimal.parse_eq_notDecimal_iff,
    fun _ _ => BigInt.parse_eq_ok_iff, fun _ => BigInt.parse_eq_notInteger_iff, fun text k => ⟨?_, ?_⟩,
    fun k => BigInt.parse_eq_ok_iff.mpr (BigInt.isSpelledBy_toString k),
    fun d => Decimal.parse_eq_ok_iff.mpr d.isSpelledBy_toText,
    fun n => BigInt.parse_eq_ok_iff.mpr n.isSpelledBy_toText⟩
  · exact fun h => ⟨_, h, BigInt.toInt_ofInt k⟩
  · rintro ⟨n, h, hn⟩
    rwa [BigInt.toInt_inj.mp (hn.trans (BigInt.toInt_ofInt k).symm)] at h

/-- Zeros in front, a plus sign and white space are no part of a number; zeros at its end are. -/
example : Decimal.parse "\t+007.50 " = .ok ⟨false, [7], [5, 0], rfl⟩ := by decide

end GelClient
