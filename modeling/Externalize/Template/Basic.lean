import Externalize.Text.Digit
import Externalize.Text.Points

/-!
# `Externalize.Template.Basic`: templates with one place for a value

A template is a text in which a percent sign opens a field. A field may give flags, a width, a
precision and a size letter that means nothing, and ends with the letter of a conversion; two percent
signs stand for one. A template is filled with a single value, a number or a text, so that it needs
exactly one field.

This module has the vocabulary: fields, the pieces of a template, values, and the two ways filling
can go wrong. A `Mismatch` says that the template does not suit the value, an `Overflow` that the
number is out of reach of a conversion that does suit it.
-/

set_option autoImplicit false

namespace Externalize.Template

/-- What a template is filled with. -/
inductive Value
  | number (n : Int)
  | text (t : Points)
  deriving Repr, DecidableEq

/-- The flags of a field. -/
structure Flags where
  /-- `-`: stand at the left of the width. -/
  left : Bool := false
  /-- `+`: show the sign of a number that is not negative. -/
  plus : Bool := false
  /-- A space in the place of that sign. -/
  space : Bool := false
  /-- `#`: show the base of a number, or its decimal point. -/
  alternate : Bool := false
  /-- `0`: fill the width of a number with zeros. -/
  fillZero : Bool := false
  deriving Repr, DecidableEq

/-- A field of a template. -/
structure Field where
  flags : Flags
  width : Option Nat
  precision : Option Nat
  conversion : Point
  /-- Where the letter of the conversion stands in the template. -/
  index : Nat
  deriving Repr, DecidableEq

/-- A template that does not suit its value. -/
inductive Mismatch
  /-- A field asks for its value by name. -/
  | needsMapping
  /-- The template ends inside a field. -/
  | incomplete
  /-- There is no value left for a field. -/
  | tooFewValues
  /-- The value was not used. -/
  | unusedValue
  /-- A text was to serve as a width or a precision. -/
  | starNeedsNumber
  | widthTooBig
  | precisionTooBig
  /-- There is no conversion of that letter. -/
  | unsupported (conversion : Point) (index : Nat)
  /-- A decimal conversion met a text. -/
  | needsNumber (conversion : Char)
  /-- An octal or hexadecimal conversion met a text. -/
  | needsInteger (conversion : Char)
  /-- A conversion with a fraction met a text. -/
  | needsReal
  /-- A character was asked for, and the text is not one. -/
  | needsCharacter
  /-- The number has more decimal digits than are ever written. -/
  | tooManyDigits
  deriving Repr, DecidableEq

/-- A number out of reach of a conversion. -/
inductive Overflow
  /-- Too large to be written with a fraction. -/
  | realRange
  /-- No character has that number. -/
  | characterRange
  /-- More digits are asked for than are ever written. -/
  | precisionRange
  /-- More characters are asked for than memory can hold. -/
  | memory
  deriving Repr, DecidableEq

/-- Why `fill` fails. -/
inductive Fault
  | mismatch (m : Mismatch)
  | overflow (o : Overflow)
  deriving Repr, DecidableEq

/-- A piece of a template, as `pieces` reads it. -/
inductive Piece
  /-- A code point that stands for itself. -/
  | literal (p : Point)
  /-- A width or precision that the value is to supply. -/
  | star
  | field (f : Field)
  /-- The template cannot be read beyond this point. -/
  | broken (m : Mismatch)
  deriving Repr, DecidableEq

/-- The text that is told of a mismatch. -/
def Mismatch.message : Mismatch → String
  | .needsMapping => "format requires a mapping"
  | .incomplete => "incomplete format"
  | .tooFewValues => "not enough arguments for format string"
  | .unusedValue => "not all arguments converted during string formatting"
  | .starNeedsNumber => "* wants int"
  | .widthTooBig => "width too big"
  | .precisionTooBig => "precision too big"
  | .unsupported conversion index =>
    let number := conversion.number
    let shown := if 31 ≤ number ∧ number ≤ 126 then conversion.shown else '?'
    let code := String.ofList (Nat.toDigits 16 number)
    s!"unsupported format character '{shown}' (0x{code}) at index {index}"
  | .needsNumber conversion => s!"%{conversion} format: a real number is required, not str"
  | .needsInteger conversion => s!"%{conversion} format: an integer is required, not str"
  | .needsReal => "must be real number, not str"
  | .needsCharacter => "%c requires int or char"
  | .tooManyDigits =>
    s!"Exceeds the limit ({Text.maxDigits} digits) for integer string conversion; " ++
      "use sys.set_int_max_str_digits() to increase the limit"

/-- The text that is told of an overflow. -/
def Overflow.message : Overflow → String
  | .realRange => "int too large to convert to float"
  | .characterRange => "%c arg not in range(0x110000)"
  | .precisionRange => "precision too large"
  | .memory => ""

end Externalize.Template
