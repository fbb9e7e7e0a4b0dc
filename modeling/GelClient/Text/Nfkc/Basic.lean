import GelClient.Text.Nfkc.CombiningClass
import GelClient.Text.Nfkc.Composition
import GelClient.Text.Nfkc.Decomposition

/-!
# Compatibility composition

Normalization form KC of Unicode: characters are decomposed, the marks on each base are put into
the order of their combining classes, and what composes is composed again. Each syllable of
Hangul stands for two or three letters by arithmetic.
-/

namespace GelClient.Text.Nfkc

/-- The first syllable of Hangul. -/
def syllableBase : Nat := 0xAC00

/-- The first leading consonant. -/
def leadBase : Nat := 0x1100

/-- The first vowel. -/
def vowelBase : Nat := 0x1161

/-- The code point in front of the first trailing consonant. -/
def trailBase : Nat := 0x11A7

/-- The number of leading consonants. -/
def leadCount : Nat := 19

/-- The number of vowels. -/
def vowelCount : Nat := 21

/-- The number of trailing consonants, none counting as one. -/
def trailCount : Nat := 28

/-- The number of syllables of Hangul. -/
def syllableCount : Nat := leadCount * vowelCount * trailCount

/-- The letters of a syllable of Hangul with the given index. -/
def syllableLetters (index : Nat) : List Nat :=
  let lead := leadBase + index / (vowelCount * trailCount)
  let vowel := vowelBase + index / trailCount % vowelCount
  if index % trailCount = 0 then [lead, vowel]
  else [lead, vowel, trailBase + index % trailCount]

/-- The full compatibility decomposition of a character. -/
def decompose (n : Nat) : List Nat :=
  if syllableBase ≤ n ∧ n < syllableBase + syllableCount then syllableLetters (n - syllableBase)
  else decompositions.getD n [n]

/-- A mark put in front of a text, behind the marks of a lower class there. -/
def insertMark (n : Nat) : List Nat → List Nat
  | [] => [n]
  | m :: rest =>
    if combiningClass m ≠ 0 ∧ combiningClass m < combiningClass n then m :: insertMark n rest
    else n :: m :: rest

/-- A text whose marks stand in the order of their classes, those of one class in their old
order. -/
def ordered : List Nat → List Nat
  | [] => []
  | n :: rest => if combiningClass n = 0 then n :: ordered rest else insertMark n (ordered rest)

/-- The composite of two characters. -/
def compose? (a b : Nat) : Option Nat :=
  if leadBase ≤ a ∧ a < leadBase + leadCount ∧ vowelBase ≤ b ∧ b < vowelBase + vowelCount then
    some (syllableBase + ((a - leadBase) * vowelCount + (b - vowelBase)) * trailCount)
  else if syllableBase ≤ a ∧ a < syllableBase + syllableCount ∧ (a - syllableBase) % trailCount = 0
      ∧ trailBase < b ∧ b < trailBase + trailCount then
    some (a + (b - trailBase))
  else compositions[(a, b)]?

/-- Composes an ordered text behind a starter and the marks on it that did not compose, last one
first. A character composes with the starter unless a mark of no lower class, or any mark if it
is a starter itself, stands between them. -/
def composeFrom (starter : Nat) (marks : List Nat) : List Nat → List Nat
  | [] => starter :: marks.reverse
  | n :: rest =>
    let blocked := match marks with
      | [] => false
      | m :: _ => combiningClass n ≤ combiningClass m
    match if blocked then none else compose? starter n with
    | some composite => composeFrom composite marks rest
    | none =>
      if combiningClass n = 0 then starter :: marks.reverse ++ composeFrom n [] rest
      else composeFrom starter (n :: marks) rest

/-- Composes an ordered text. -/
def composed : List Nat → List Nat
  | [] => []
  | n :: rest => if combiningClass n = 0 then composeFrom n [] rest else n :: composed rest

/-- The normalization form KC of a text. -/
def normalize (text : List Char) : List Char :=
  (composed (ordered (text.flatMap fun c => decompose c.toNat))).map Char.ofNat

end GelClient.Text.Nfkc
