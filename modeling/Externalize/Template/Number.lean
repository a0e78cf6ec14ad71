import Externalize.Template.Basic

/-!
# `Externalize.Template.Number`: whole numbers in a field

A number is laid out as a sign, a mark for its base and a body of digits. The precision asks for at
least so many digits, the width for at least so many characters.
-/

set_option autoImplicit false

namespace Externalize.Template

/-- A number as it is written, before it meets its width. -/
structure Figure where
  negative : Bool
  /-- The mark of the base. -/
  mark : Text := []
  /-- The digits, and what belongs to them. -/
  body : Text
  deriving Repr, DecidableEq

namespace Flags

/-- What the `flags` put in the place of the sign. -/
def sign (flags : Flags) (negative : Bool) : Text :=
  if negative then ['-'] else if flags.plus then ['+'] else if flags.space then [' '] else []

/-- The text in its `width`: at the left or at the right of it, with spaces. -/
def place {α : Type} (flags : Flags) (width : Option Nat) (space : α) (text : List α) : List α :=
  let gap := List.replicate (width.getD 0 - text.length) space
  if flags.left then text ++ gap else gap ++ text

/-- The figure in its `width`. Zeros go between its `mark` and its `body`, and only at the left. -/
def placeFigure (flags : Flags) (width : Option Nat) (figure : Figure) : Text :=
  let head := flags.sign figure.negative ++ figure.mark
  if flags.fillZero ∧ ¬flags.left then
    head ++ List.replicate (width.getD 0 - (head.length + figure.body.length)) '0' ++ figure.body
  else flags.place width ' ' (head ++ figure.body)

end Flags

/-- The digits of a number, at least `precision` of them. -/
def paddedDigits (precision : Option Nat) (digits : Text) : Text :=
  List.replicate (precision.getD 0 - digits.length) '0' ++ digits

/-- The decimal digits of a number, unless there are more than `Text.maxDigits`. -/
def decimalDigits (n : Nat) : Except Fault Text :=
  let digits := Nat.toDigits 10 n
  if digits.length ≤ Text.maxDigits then .ok digits else .error (.mismatch .tooManyDigits)

/-- The `decimalDigits` of a number, with a minus sign if it is negative. -/
def decimal (n : Int) : Except Fault Text :=
  (decimalDigits n.natAbs).map fun digits => if n < 0 then '-' :: digits else digits

/-- A precision of more digits than this is refused. -/
def maxDigitPrecision : Nat := 0x7FFFFFFC

/-- Refuses a precision above `maxDigitPrecision`. -/
def checkPrecision (precision : Option Nat) : Except Fault Unit :=
  if precision.getD 0 ≤ maxDigitPrecision then .ok () else .error (.overflow .precisionRange)

/-- The `decimalDigits` of a number as a figure. -/
def decimalFigure (precision : Option Nat) (n : Int) : Except Fault Figure := do
  checkPrecision precision
  let digits ← decimalDigits n.natAbs
  return { negative := decide (n < 0), body := paddedDigits precision digits }

/-- A number in base eight or sixteen as a figure, with the mark of the base if it is `marked`. -/
def baseFigure (base : Nat) (letter : Char) (marked : Bool) (precision : Option Nat) (n : Int) :
    Except Fault Figure := do
  checkPrecision precision
  let digits := paddedDigits precision (Nat.toDigits base n.natAbs)
  return { negative := decide (n < 0), mark := if marked then ['0', letter] else [], body := digits }

/-- A figure with its letters in upper case. -/
def Figure.upper (figure : Figure) : Figure :=
  { figure with mark := figure.mark.map Char.toUpper, body := figure.body.map Char.toUpper }

end Externalize.Template
