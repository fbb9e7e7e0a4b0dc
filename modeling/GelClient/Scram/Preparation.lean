import GelClient.Text.Direction
import GelClient.Text.Nfkc.Basic
import GelClient.Text.Repertoire

/-!
# Prepared names and passwords

Names and passwords are prepared before they are compared or hashed, by the profile SASLprep, so
that texts that look alike are alike. Blanks become spaces, invisible characters are dropped,
and the rest is brought into normalization form KC. A text with a prohibited or an unassigned
character or with mixed directions cannot be prepared. ASCII without control characters is
prepared already.
-/

namespace GelClient.Scram

/-- Whether a character is a blank other than the space. -/
def isOtherBlank (c : Char) : Bool :=
  let n := c.toNat
  n == 0xA0 || n == 0x1680 || (0x2000 ≤ n && n ≤ 0x200B) || n == 0x202F || n == 0x205F
    || n == 0x3000

/-- Whether a character is dropped. -/
def isDropped (c : Char) : Bool :=
  let n := c.toNat
  n == 0xAD || n == 0x34F || n == 0x1806 || (0x180B ≤ n && n ≤ 0x180D)
    || (0x200B ≤ n && n ≤ 0x200D) || n == 0x2060 || (0xFE00 ≤ n && n ≤ 0xFE0F) || n == 0xFEFF

/-- Whether a character is a control character of ASCII. -/
def isAsciiControl (c : Char) : Bool :=
  c.toNat < 0x20 || c.toNat == 0x7F

/-- Whether a character is a control character outside of ASCII. -/
def isOtherControl (c : Char) : Bool :=
  let n := c.toNat
  (0x80 ≤ n && n ≤ 0x9F) || n == 0x6DD || n == 0x70F || n == 0x180E || n == 0x200C
    || n == 0x200D || n == 0x2028 || n == 0x2029 || (0x2060 ≤ n && n ≤ 0x2063)
    || (0x206A ≤ n && n ≤ 0x206F) || n == 0xFEFF || (0xFFF9 ≤ n && n ≤ 0xFFFC)
    || (0x1D173 ≤ n && n ≤ 0x1D17A)

/-- Whether a character is for private use. -/
def isPrivate (c : Char) : Bool :=
  let n := c.toNat
  (0xE000 ≤ n && n ≤ 0xF8FF) || (0xF0000 ≤ n && n ≤ 0xFFFFD) || (0x100000 ≤ n && n ≤ 0x10FFFD)

/-- Whether a code point is none of a character. -/
def isNoncharacter (c : Char) : Bool :=
  let n := c.toNat
  (0xFDD0 ≤ n && n ≤ 0xFDEF) || n % 0x10000 == 0xFFFE || n % 0x10000 == 0xFFFF

/-- Whether a character has no place in plain or canonical text, changes how others are shown or
tags a language. -/
def isInappropriate (c : Char) : Bool :=
  let n := c.toNat
  (0xFFF9 ≤ n && n ≤ 0xFFFD) || (0x2FF0 ≤ n && n ≤ 0x2FFB) || n == 0x340 || n == 0x341
    || n == 0x200E || n == 0x200F || (0x202A ≤ n && n ≤ 0x202E) || (0x206A ≤ n && n ≤ 0x206F)
    || n == 0xE0001 || (0xE0020 ≤ n && n ≤ 0xE007F)

/-- Whether a character may not be in a prepared text. -/
def isProhibited (c : Char) : Bool :=
  isOtherBlank c || isAsciiControl c || isOtherControl c || isPrivate c || isNoncharacter c
    || isInappropriate c

/-- Whether a text mixes directions: one with characters written from right to left must start
and end with such a character and have none written from left to right. -/
def mixesDirections (text : List Char) : Bool :=
  let rightToLeft := Text.rightToLeft.contains
  text.any rightToLeft
    && (text.any Text.leftToRight.contains || !(text.head?.any rightToLeft)
      || !(text.getLast?.any rightToLeft))

/-- The characters of a text with blanks as spaces and without those that are dropped. -/
def mapped (text : List Char) : List Char :=
  (text.map fun c => if isOtherBlank c then ' ' else c).filter (!isDropped ·)

/-- Whether a character is prepared already. -/
def isPlain (c : Char) : Bool :=
  c.toNat < 0x80 && !isAsciiControl c

/-- The prepared text, none if there is none. -/
def prepare? (text : String) : Option String :=
  if text.toList.all isPlain then some text
  else
    let normal := Text.Nfkc.normalize (mapped text.toList)
    if normal.any isProhibited || mixesDirections normal || normal.any Text.unassigned.contains then
      none
    else some (String.ofList normal)

/-- Plain text is prepared already. -/
theorem prepare?_of_isPlain {text : String} (h : text.toList.all isPlain = true) :
    prepare? text = some text := by
  simp only [prepare?, h, if_true]

end GelClient.Scram
