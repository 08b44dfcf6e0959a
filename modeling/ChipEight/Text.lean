/-!
# Text

What the other modules need of texts: properties of characters, blanks and numerals.

A property of characters is given by the inclusive ranges of code points that have it, in
ascending order.  Blank are the characters with the Unicode property `White_Space`; zero-width
characters are not, so a text that starts with a byte order mark keeps it.

Numbers are written in base sixteen, padded with zeros to a least number of digits; the text of a
memory address has at least three.  Numerals that are read have one or more digits of a base,
after an optional plus sign.  Leading zeros are free, and there is no other sign, so a text that
starts with a minus is no numeral.
-/

namespace ChipEight.Text

/-! ## Properties of characters -/

/-- Inclusive ranges of code points, in ascending order. -/
abbrev CodeRanges := List (Nat × Nat)

/-- Whether a character lies in one of the ranges. -/
def CodeRanges.contains (ranges : CodeRanges) (character : Char) : Bool :=
  ranges.any fun range =>
    decide (range.1 ≤ character.toNat) && decide (character.toNat ≤ range.2)

/-! ## Blanks -/

/-- The code points with the property `White_Space`. -/
def blankRanges : CodeRanges :=
  [(0x9, 0xD), (0x20, 0x20), (0x85, 0x85), (0xA0, 0xA0), (0x1680, 0x1680), (0x2000, 0x200A),
   (0x2028, 0x2029), (0x202F, 0x202F), (0x205F, 0x205F), (0x3000, 0x3000)]

def isBlank (character : Char) : Bool :=
  blankRanges.contains character

def trimStart (text : List Char) : List Char :=
  text.dropWhile isBlank

def trimEnd (text : List Char) : List Char :=
  (trimStart text.reverse).reverse

/-- The text without the blanks at either end. -/
def trim (text : List Char) : List Char :=
  trimEnd (trimStart text)

/-! ## Numerals that are written -/

namespace Hex

/-- Small digits, at least `width` of them. -/
def lower (width number : Nat) : List Char :=
  (Nat.toDigits 16 number).leftpad width '0'

/-- Capital digits, at least `width` of them. -/
def upper (width number : Nat) : List Char :=
  (lower width number).map Char.toUpper

/-- An address: `0x` and at least three capital digits. -/
def address (value : UInt16) : String :=
  "0x" ++ String.ofList (upper 3 value.toNat)

end Hex

/-! ## Numerals that are read -/

namespace Numeral

/-- The value of an ASCII digit or letter, letters of either case counting on from ten. -/
def digitValue? (character : Char) : Option Nat :=
  if '0' ≤ character ∧ character ≤ '9' then some (character.toNat - '0'.toNat)
  else if 'a' ≤ character ∧ character ≤ 'z' then some (character.toNat - 'a'.toNat + 10)
  else if 'A' ≤ character ∧ character ≤ 'Z' then some (character.toNat - 'A'.toNat + 10)
  else none

def digit? (base : Nat) (character : Char) : Option Nat :=
  (digitValue? character).filter (· < base)

/-- The value of a row of digits, read after digits worth `value`. -/
def digitsFrom? (base value : Nat) : List Char → Option Nat
  | [] => some value
  | character :: rest =>
      match digit? base character with
      | some digit => digitsFrom? base (value * base + digit) rest
      | none => none

def digits? (base : Nat) : List Char → Option Nat
  | [] => none
  | text => digitsFrom? base 0 text

def value? (base : Nat) : List Char → Option Nat
  | '+' :: text => digits? base text
  | text => digits? base text

end Numeral

end ChipEight.Text
