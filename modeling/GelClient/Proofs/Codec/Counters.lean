import GelClient.Proofs.Codec.Record
import GelClient.Proofs.Number.Value
import Mathlib.Algebra.Group.Nat.Defs

/-!
# Reading numbers with counters of limited width

Reading a number counts positions, which may be negative, and the zeros that a group is padded with. Here
it is done step by step over such counters: the position is a signed number of 32 bits, and the count of
zeros is a difference that must not become negative. No record makes a counter leave its range, so this
reading is the one that `Decimal.get` and `BigInt.get` do.
-/

namespace GelClient

open Packet (GetM Reader)

/-- Why reading with counters ends early. -/
inductive CountedError where
  /-- A counter leaves its range. -/
  | overflow
  | codec (cause : CodecError)

namespace Counted

variable {α β γ δ : Type}

/-- Reading that needs no counter. -/
def plain (x : GetM CodecError α) : GetM CountedError α := x.adaptExcept .codec

/-- Goes on only if a counter stays in its range. -/
def require (p : Prop) [Decidable p] : GetM CountedError Unit :=
  if p then pure () else throw .overflow

/-- The digits of a group as they are put behind others, with zeros in front up to four. -/
def groupDigits (padded : Bool) (group : Nat) : Digits :=
  List.replicate (if padded then 4 - (Digits.ofNat group).length else 0) 0 ++ Digits.ofNat group

/-- The group at a position that is not negative, zero where the record holds none. -/
def groupBelow (present : Nat) (position : Int) : GetM CountedError Nat :=
  if position < present then plain getGroup else pure 0

/-- The group at any position, zero where the record holds none. -/
def groupWithin (present : Nat) (position : Int) : GetM CountedError Nat :=
  if 0 ≤ position ∧ position < present then plain getGroup else pure 0

/-- Reads the integral groups from a position on, and says where the fraction starts. -/
def integralFrom (header : RecordHeader) (position : Int) (digits : Digits) :
    GetM CountedError (Digits × Int) :=
  if position ≤ header.weight then do
    let group ← groupBelow header.present position
    require (0 < position → (Digits.ofNat group).length ≤ 4)
    require (position + 1 < 2 ^ 31)
    integralFrom header (position + 1) (digits ++ groupDigits (0 < position) group)
  else pure (digits, position)
termination_by (header.weight + 1 - position).toNat

/-- Reads the integral groups, which are a single zero digit if the weight is negative. -/
def getIntegral (header : RecordHeader) : GetM CountedError (Digits × Int) :=
  if header.weight < 0 then do
    require (-2 ^ 31 ≤ header.weight + 1)
    return ([0], header.weight + 1)
  else integralFrom header 0 []

/-- Four digits are put behind others for every group of the fraction. -/
private theorem lt_length_groupDigits (group : Nat) : 0 < (groupDigits true group).length := by
  simp only [groupDigits, if_true, List.length_append, List.length_replicate]
  omega

/-- Reads groups of the fraction from a position on, until there are as many digits as its scale. -/
def fractionFrom (header : RecordHeader) (position : Int) (digits : Digits) : GetM CountedError Digits :=
  if digits.length < header.scale then do
    let group ← groupWithin header.present position
    require ((Digits.ofNat group).length ≤ 4)
    require (position + 1 < 2 ^ 31)
    fractionFrom header (position + 1) (digits ++ groupDigits true group)
  else pure digits
termination_by header.scale - digits.length
decreasing_by
  have := lt_length_groupDigits group
  rw [List.length_append]
  omega

/-- Reads the groups of an integer, from a position that stays behind the last group of the record. -/
def integerFrom (header : RecordHeader) : (count : Nat) → (position : Int) → (digits : Digits) →
    GetM CountedError Digits
  | 0, _, digits => pure digits
  | count + 1, position, digits =>
    if position < header.present then do
      let group ← plain getGroup
      require (0 < position → (Digits.ofNat group).length ≤ 4)
      require (position + 1 < 2 ^ 31)
      integerFrom header count (position + 1) (digits ++ groupDigits (0 < position) group)
    else integerFrom header count position (digits ++ [0, 0, 0, 0])

/-- Reads a decimal number over counters. -/
def getDecimal : GetM CountedError Decimal := do
  let header ← plain getHeader
  let (integral, position) ← getIntegral header
  let fraction ← fractionFrom header position []
  return Decimal.unsignedZero {
    negative := header.negative
    integral := Digits.canonical integral
    fraction := fraction.take header.scale
    canonical_integral := Digits.canonical_canonical integral }

/-- Reads an integer over counters. -/
def getInteger : GetM CountedError BigInt := do
  let header ← plain getHeader
  let digits ← integerFrom header (max header.weight (-1) + 1).toNat 0 []
  return BigInt.ofDigits header.negative digits

/-- Two runs come to related results at one place, or fail there with one cause. -/
inductive Mirrors (R : α → β → Prop) :
    EStateM.Result CodecError Reader α → EStateM.Result CountedError Reader β → Prop where
  | ok {a : α} {b : β} (s : Reader) : R a b → Mirrors R (.ok a s) (.ok b s)
  | error (cause : CodecError) (s : Reader) : Mirrors R (.error cause s) (.error (.codec cause) s)

/-- Reading that needs no counter comes to the same. -/
theorem mirrors_plain (x : GetM CodecError α) (s : Reader) : Mirrors Eq (x s) (plain x s) := by
  unfold plain EStateM.adaptExcept
  cases x s with
  | ok a t => exact .ok t rfl
  | error e t => exact .error e t

/-- Reading that needs no counter does not fail for one. -/
theorem plain_ne_overflow (x : GetM CodecError α) (s t : Reader) : plain x s ≠ .error .overflow t := by
  unfold plain EStateM.adaptExcept
  cases x s <;> simp

/-- Sequences mirror each other if their parts do. -/
theorem Mirrors.bind {R : α → β → Prop} {Q : γ → δ → Prop} {x : GetM CodecError α}
    {y : GetM CountedError β} {f : α → GetM CodecError γ} {g : β → GetM CountedError δ} {s : Reader}
    (hx : Mirrors R (x s) (y s)) (hf : ∀ a b t, x s = .ok a t → R a b → Mirrors Q (f a t) (g b t)) :
    Mirrors Q ((x >>= f) s) ((y >>= g) s) := by
  generalize hxs : x s = xs at hx
  generalize hys : y s = ys at hx
  cases hx with
  | ok t hab =>
    rw [Actions.bind_of_ok hxs, Actions.bind_of_ok hys]
    exact hf _ _ t hxs hab
  | error e t =>
    rw [Actions.bind_of_error hxs, Actions.bind_of_error hys]
    exact .error e t

/-- Runs that come to the same are one. -/
theorem Mirrors.eq_plain {x : GetM CodecError α} {y : GetM CountedError α} {s : Reader}
    (h : Mirrors Eq (x s) (y s)) : y s = plain x s := by
  unfold plain EStateM.adaptExcept
  generalize x s = xs at h
  generalize y s = ys at h
  cases h with
  | ok t hab => rw [hab]
  | error e t => rfl

/-- A counter in its range does not stop the reading. -/
theorem require_bind {p : Prop} [Decidable p] (h : p) (f : Unit → GetM CountedError α) :
    (require p >>= f) = f () := by
  rw [require, if_pos h]
  rfl

/-- A group that was read is below ten thousand. -/
private theorem lt_of_getGroup {s t : Reader} {group : Nat} (h : getGroup s = .ok group t) : group < 10000 := by
  obtain ⟨word, u, -, hword⟩ := Actions.bind_eq_ok.mp h
  split at hword
  next hlt =>
    cases hword
    exact hlt
  next => cases hword

/-- What was read at a position is below ten thousand. -/
private theorem lt_of_getAt {present : Nat} {position : Int} {s t : Reader} {group : Nat}
    (h : getAt present position s = .ok group t) : group < 10000 := by
  unfold getAt at h
  split at h
  · exact lt_of_getGroup h
  · cases h
    decide

/-- At a position that is not negative, only the end of the record is in question. -/
theorem mirrors_groupBelow (present : Nat) {position : Int} (h : 0 ≤ position) (s : Reader) :
    Mirrors Eq (getAt present position s) (groupBelow present position s) := by
  simp only [getAt, groupBelow, h, true_and]
  split
  · exact mirrors_plain getGroup s
  · exact .ok s rfl

/-- Inside of the record the group is read, and outside of it there is none. -/
theorem mirrors_groupWithin (present : Nat) (position : Int) (s : Reader) :
    Mirrors Eq (getAt present position s) (groupWithin present position s) := by
  rw [getAt, groupWithin]
  split
  · exact mirrors_plain getGroup s
  · exact .ok s rfl

/-- A group below ten thousand has four digits at most. -/
private theorem length_ofNat_group {group : Nat} (h : group < 10000) : (Digits.ofNat group).length ≤ 4 :=
  Digits.length_ofNat_le (by decide) h

/-- Padded digits are those of the group. -/
theorem groupDigits_true {group : Nat} (h : group < 10000) : groupDigits true group = Digits.ofGroup group := by
  have hlength := length_ofNat_group h
  refine Digits.eq_of_value_eq ?_ ?_
  · simp only [groupDigits, if_true, List.length_append, List.length_replicate, Digits.length_ofGroup]
    omega
  · rw [Digits.value_ofGroup h, groupDigits, Digits.value_append, Digits.value_replicate_zero, Nat.zero_mul,
      Nat.zero_add, Digits.value_ofNat]

/-- Behind other digits a group is padded; the first one need not be. -/
private theorem value_append_groupDigits {digits : Digits} {padded : Bool} {group : Nat} (h : group < 10000)
    (hfirst : padded = false → digits = []) :
    Digits.value (digits ++ groupDigits padded group) = Digits.value digits * 10000 + group := by
  cases padded with
  | true => rw [groupDigits_true h, Digits.value_append, Digits.value_ofGroup h, Digits.length_ofGroup]
  | false =>
    have hzero : Digits.value [] = 0 := rfl
    rw [hfirst rfl, hzero, Nat.zero_mul, Nat.zero_add]
    exact Digits.value_ofNat group

/-- The digits of groups that were found, and of one more. -/
private theorem value_reverse_cons {found : List Nat} {digits : Digits} {padded : Bool} {group : Nat}
    (h : group < 10000) (hvalue : Digits.value digits = Digits.value (Digits.ofGroups found.reverse))
    (hfirst : padded = false → digits = []) :
    Digits.value (digits ++ groupDigits padded group) =
      Digits.value (Digits.ofGroups (group :: found).reverse) := by
  rw [List.reverse_cons, Digits.value_ofGroups_concat _ h, ← hvalue, value_append_groupDigits h hfirst]

/-- The integral groups are read with a counter as without, and the fraction starts behind them. -/
theorem mirrors_integralFrom {header : RecordHeader} (hweight : header.weight < 2 ^ 15) {count : Nat}
    {position : Int} (hnonneg : 0 ≤ position) (hcount : position + count = header.weight + 1)
    {found : List Nat} {digits : Digits}
    (hvalue : Digits.value digits = Digits.value (Digits.ofGroups found.reverse))
    (hfirst : position = 0 → digits = []) (s : Reader) :
    Mirrors
      (fun groups result => Digits.value result.1 = Digits.value (Digits.ofGroups groups) ∧
        result.2 = header.weight + 1)
      (getGroupsFrom header.present found position count s) (integralFrom header position digits s) := by
  induction count generalizing position found digits s with
  | zero =>
    rw [integralFrom, if_neg (by omega)]
    exact .ok s ⟨hvalue, by omega⟩
  | succ count ih =>
    rw [integralFrom, if_pos (by omega), getGroupsFrom_succ]
    refine (mirrors_groupBelow header.present hnonneg s).bind ?_
    rintro group _ t hgroup rfl
    have hlt := lt_of_getAt hgroup
    rw [require_bind fun _ => length_ofNat_group hlt, require_bind (by omega)]
    refine ih (by omega) (by omega) (value_reverse_cons hlt hvalue fun hpadded => ?_) (by omega) t
    exact hfirst (le_antisymm (by simpa using hpadded) hnonneg)

/-- The integral groups are read with a counter as without, whatever the weight. -/
theorem mirrors_getIntegral {header : RecordHeader} (hlow : -2 ^ 15 ≤ header.weight)
    (hweight : header.weight < 2 ^ 15) (s : Reader) :
    Mirrors
      (fun groups result => Digits.value result.1 = Digits.value (Digits.ofGroups groups) ∧
        result.2 = header.weight + 1)
      (getGroups header.present 0 (header.weight + 1).toNat s) (getIntegral header s) := by
  unfold getIntegral
  split
  next hneg =>
    have hnone : (header.weight + 1).toNat = 0 := by omega
    rw [hnone, require_bind (by omega)]
    exact .ok s ⟨rfl, rfl⟩
  next hnonneg => exact mirrors_integralFrom hweight le_rfl (by omega) rfl (fun _ => rfl) s

/-- The groups of the fraction are read with a counter as without. -/
theorem mirrors_fractionFrom {header : RecordHeader} (hweight : header.weight < 2 ^ 15)
    (hscale : header.scale < 2 ^ 16) {count : Nat} {position : Int} {found : List Nat}
    (hposition : position + count = header.weight + 1 + Digits.groupCount header.scale)
    (hcount : found.length + count = Digits.groupCount header.scale) (s : Reader) :
    Mirrors (fun groups digits => digits = Digits.ofGroups groups)
      (getGroupsFrom header.present found position count s)
      (fractionFrom header position (Digits.ofGroups found.reverse) s) := by
  have hgroups : Digits.groupCount header.scale = (header.scale + 3) / 4 := rfl
  induction count generalizing position found s with
  | zero =>
    rw [fractionFrom, if_neg (by rw [Digits.length_ofGroups, List.length_reverse]; omega)]
    exact .ok s rfl
  | succ count ih =>
    rw [fractionFrom, if_pos (by rw [Digits.length_ofGroups, List.length_reverse]; omega),
      getGroupsFrom_succ]
    refine (mirrors_groupWithin header.present position s).bind ?_
    rintro group _ t hgroup rfl
    have hlt := lt_of_getAt hgroup
    have hdigits : Digits.ofGroups found.reverse ++ groupDigits true group =
        Digits.ofGroups (group :: found).reverse := by
      rw [groupDigits_true hlt, List.reverse_cons, Digits.ofGroups, Digits.ofGroups, List.flatMap_append]
      simp
    rw [require_bind (length_ofNat_group hlt), require_bind (by omega), hdigits]
    exact ih (by omega) (by rw [List.length_cons]; omega) t

/-- The groups of an integer are read with a counter as without. -/
theorem mirrors_integerFrom {header : RecordHeader} (hpresent : header.present < 2 ^ 16) (count : Nat)
    {position : Int} (hnonneg : 0 ≤ position) {found : List Nat} {digits : Digits}
    (hvalue : Digits.value digits = Digits.value (Digits.ofGroups found.reverse))
    (hfirst : position = 0 → digits = []) (s : Reader) :
    Mirrors (fun groups digits => Digits.value digits = Digits.value (Digits.ofGroups groups))
      (getGroupsFrom header.present found position count s)
      (integerFrom header count (min position header.present) digits s) := by
  induction count generalizing position found digits s with
  | zero => exact .ok s hvalue
  | succ count ih =>
    rw [getGroupsFrom_succ, integerFrom]
    by_cases hin : position < header.present
    · rw [Int.min_eq_left hin.le, if_pos hin, getAt, if_pos ⟨hnonneg, hin⟩]
      refine (mirrors_plain getGroup s).bind ?_
      rintro group _ t hgroup rfl
      have hlt := lt_of_getGroup hgroup
      have hpadded (h : decide (0 < position) = false) : digits = [] :=
        hfirst (le_antisymm (by simpa using h) hnonneg)
      have hnext := ih (by omega : 0 ≤ position + 1) (value_reverse_cons hlt hvalue hpadded) (by omega) t
      rw [Int.min_eq_left (by omega)] at hnext
      rwa [require_bind fun _ => length_ofNat_group hlt, require_bind (by omega)]
    · have hstop : min (position + 1) (header.present : Int) = header.present := by omega
      have hzeros : Digits.value (digits ++ [0, 0, 0, 0]) = Digits.value (Digits.ofGroups (0 :: found).reverse) := by
        rw [List.reverse_cons, Digits.value_ofGroups_concat _ (by decide), Digits.value_append, hvalue]
        rfl
      have hnext := ih (by omega : 0 ≤ position + 1) hzeros (by omega) s
      rw [hstop] at hnext
      have hat : min position (header.present : Int) = header.present := by omega
      rw [hat, if_neg (lt_irrefl _), getAt, if_neg fun hat => hin hat.2]
      exact hnext

/-- The words of a header bound what it says. -/
theorem bounds_of_getHeader {s t : Reader} {header : RecordHeader} (h : getHeader s = .ok header t) :
    header.present < 2 ^ 16 ∧ -2 ^ 15 ≤ header.weight ∧ header.weight < 2 ^ 15 ∧ header.scale < 2 ^ 16 := by
  obtain ⟨present, u, -, h⟩ := Actions.bind_eq_ok.mp h
  obtain ⟨weight, v, -, h⟩ := Actions.bind_eq_ok.mp h
  obtain ⟨sign, w, -, h⟩ := Actions.bind_eq_ok.mp h
  obtain ⟨scale, x, -, h⟩ := Actions.bind_eq_ok.mp h
  cases h
  exact ⟨present.toNat_lt, weight.le_toInt, weight.toInt_lt, scale.toNat_lt⟩

/-- Decimal numbers are read with counters as without, whatever the bytes. -/
theorem getDecimal_eq (s : Reader) : getDecimal s = plain Decimal.get s := by
  refine Mirrors.eq_plain ((mirrors_plain getHeader s).bind ?_)
  rintro header _ t hheader rfl
  obtain ⟨-, hlow, hweight, hscale⟩ := bounds_of_getHeader hheader
  refine (mirrors_getIntegral hlow hweight t).bind ?_
  rintro integral ⟨digits, position⟩ u - ⟨hvalue, rfl⟩
  refine (mirrors_fractionFrom hweight hscale rfl (Nat.zero_add _) u).bind ?_
  rintro fraction _ v - rfl
  refine .ok v ?_
  have hcanonical : (Digits.ofGroups integral).canonical = Digits.canonical digits :=
    Digits.canonical_eq_of_value_eq hvalue.symm
  simp only [Decimal.ofGroups, hcanonical]

/-- Integers are read with counters as without, whatever the bytes. -/
theorem getInteger_eq (s : Reader) : getInteger s = plain BigInt.get s := by
  refine Mirrors.eq_plain ((mirrors_plain getHeader s).bind ?_)
  rintro header _ t hheader rfl
  have hcount : (header.weight + 1).toNat = (max header.weight (-1) + 1).toNat := by omega
  have hnone : Digits.value [] = Digits.value (Digits.ofGroups [].reverse) := rfl
  have hgroups := mirrors_integerFrom (bounds_of_getHeader hheader).1 (max header.weight (-1) + 1).toNat
    (le_refl 0) hnone (fun _ => rfl) t
  rw [Int.min_eq_left (by omega)] at hgroups
  rw [hcount]
  refine hgroups.bind ?_
  rintro groups digits u - hvalue
  refine .ok u ?_
  have hcanonical : (Digits.ofGroups groups).canonical = digits.canonical :=
    Digits.canonical_eq_of_value_eq hvalue.symm
  simp only [BigInt.ofDigits, hcanonical]

end Counted

end GelClient
