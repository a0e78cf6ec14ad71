import Externalize.Text.Basic
import Externalize.Text.Blank

/-!
# `Externalize.Text.Digit`: decimal digits of all scripts

Every script with decimal digits has them as ten consecutive code points from its zero on. A whole
number may be written with the digits of any script, with single underscores between digits, with a
sign before it and with blanks around it.
-/

set_option autoImplicit false

namespace Externalize

/-- The zeros of the scripts outside ASCII. -/
def scriptZeros : List Nat :=
  [0x660, 0x6F0, 0x7C0, 0x966, 0x9E6, 0xA66, 0xAE6, 0xB66, 0xBE6, 0xC66, 0xCE6, 0xD66, 0xDE6,
  0xE50, 0xED0, 0xF20, 0x1040, 0x1090, 0x17E0, 0x1810, 0x1946, 0x19D0, 0x1A80, 0x1A90, 0x1B50,
  0x1BB0, 0x1C40, 0x1C50, 0xA620, 0xA8D0, 0xA900, 0xA9D0, 0xA9F0, 0xAA50, 0xABF0, 0xFF10, 0x104A0,
  0x10D30, 0x11066, 0x110F0, 0x11136, 0x111D0, 0x112F0, 0x11450, 0x114D0, 0x11650, 0x116C0,
  0x11730, 0x118E0, 0x11950, 0x11C50, 0x11D50, 0x11DA0, 0x16A60, 0x16AC0, 0x16B50, 0x1D7CE,
  0x1D7D8, 0x1D7E2, 0x1D7EC, 0x1D7F6, 0x1E140, 0x1E2F0, 0x1E950, 0x1FBF0]

/-- The value of a decimal digit of ASCII or of one of the `scriptZeros`. -/
def digitValue? (c : Char) : Option Nat :=
  if c.isDigit then some (c.toNat - '0'.toNat)
  else (scriptZeros.find? fun nought => nought ≤ c.toNat && c.toNat < nought + 10).map (c.toNat - ·)

/-- The value of a hexadecimal digit. -/
def hexValue? (c : Char) : Option Nat :=
  if c.isDigit then some (c.toNat - '0'.toNat)
  else if 'a' ≤ c ∧ c ≤ 'f' then some (c.toNat - 'a'.toNat + 10)
  else if 'A' ≤ c ∧ c ≤ 'F' then some (c.toNat - 'A'.toNat + 10)
  else none

namespace Text

/-- Reads digits on from `value`, of which `count` were read before. Between two digits there may be
one underscore. -/
def numeralFrom : Nat → Nat → Text → Option (Nat × Nat)
  | value, count, [] => some (value, count)
  | value, count, '_' :: c :: rest =>
    (digitValue? c).bind fun digit => numeralFrom (10 * value + digit) (count + 1) rest
  | value, count, c :: rest =>
    (digitValue? c).bind fun digit => numeralFrom (10 * value + digit) (count + 1) rest

/-- The most digits that a decimal number is read from or written with. -/
def maxDigits : Nat := 4300

/-- The number that the digits spell, if there are at most `maxDigits`. -/
def numeral? : Text → Option Nat
  | [] => none
  | c :: rest =>
    ((digitValue? c).bind fun digit => numeralFrom digit 1 rest).bind fun (value, count) =>
      if count ≤ maxDigits then some value else none

/-- Blanks that may surround a numeral: `isBlank` but for the information separators. -/
def isNumeralBlank (c : Char) : Bool :=
  isBlank c && !(0x1C ≤ c.toNat && c.toNat ≤ 0x1F)

/-- The whole number that the text spells: a `numeral?`, with blanks around it and a sign before it. -/
def integer? (text : Text) : Option Int :=
  match stripWhere isNumeralBlank text with
  | '-' :: digits => (numeral? digits).map fun n => -(n : Int)
  | '+' :: digits => (numeral? digits).map Int.ofNat
  | digits => (numeral? digits).map Int.ofNat

end Text

end Externalize
