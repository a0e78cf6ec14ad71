import Externalize.Text.Points
import Externalize.Text.Printable

/-!
# `Externalize.Text.Quoted`: texts as they stand in messages

Messages show a text between quotes. Single quotes are used unless the text has a single quote and
no double quote. The quote in use and the backslash are escaped, three controls have letters of
their own, and what is not printable is given by its code point in two, four or eight hexadecimal
digits.
-/

set_option autoImplicit false

namespace Externalize

/-- The hexadecimal digits of `n`, at least `width` of them. -/
def hexDigits (width n : Nat) : Text :=
  let digits := Nat.toDigits 16 n
  List.replicate (width - digits.length) '0' ++ digits

/-- The code point `n` as it is written where it is not shown. -/
def escapeCode (n : Nat) : Text :=
  if n ≤ 0xFF then '\\' :: 'x' :: hexDigits 2 n
  else if n ≤ 0xFFFF then '\\' :: 'u' :: hexDigits 4 n
  else '\\' :: 'U' :: hexDigits 8 n

namespace Points

/-- The quote that surrounds a text: a double one only if the text has a single one and no double one. -/
def quoteMark (points : Points) : Char :=
  if .char '\'' ∈ points ∧ .char '"' ∉ points then '"' else '\''

/-- One character between quotes of the kind `mark`; `shows` tells what may stand as it is. -/
def quoteChar (shows : Char → Bool) (mark c : Char) : Text :=
  if c = mark ∨ c = '\\' then ['\\', c]
  else if c = '\t' then ['\\', 't']
  else if c = '\n' then ['\\', 'n']
  else if c = '\r' then ['\\', 'r']
  else if shows c then [c]
  else escapeCode c.toNat

/-- One code point between quotes. A half is written by `escapeCode`. -/
def quotePoint (shows : Char → Bool) (mark : Char) : Point → Text
  | .char c => quoteChar shows mark c
  | .half n => escapeCode n

/-- The text between quotes, with `shows` telling what may stand as it is. -/
def quoteWith (shows : Char → Bool) (points : Points) : Text :=
  let mark := quoteMark points
  mark :: points.flatMap (quotePoint shows mark) ++ [mark]

/-- The text between quotes, with the characters that are `isPrintable` as they are. -/
def quote (points : Points) : Text :=
  quoteWith isPrintable points

/-- The text between quotes, in ASCII only. -/
def quoteAscii (points : Points) : Text :=
  quoteWith (fun c => ' ' ≤ c && c ≤ '~') points

end Points

/-- `Points.quote` of a text. -/
def Text.quote (text : Text) : Text :=
  Points.quote (Points.ofText text)

end Externalize
