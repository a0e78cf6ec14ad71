import Externalize.Template.Number

/-!
# `Externalize.Template.Real`: whole numbers written with a fraction

Conversions with a fraction first take the number to the nearest one that has 53 significant bits, a
tie going to the even one, and then write that number exactly: with so many places, with so many
significant digits and an exponent, or in the shorter of the two forms. Since only whole numbers are
written, every place behind the point is a zero unless an exponent shifts the point.
-/

set_option autoImplicit false

namespace Externalize.Template

/-- `n / d` rounded to the nearest whole number, a tie going to the even one. -/
def roundDiv (n d : Nat) : Nat :=
  let quotient := n / d
  let twice := 2 * (n % d)
  if d < twice ∨ (twice = d ∧ quotient % 2 = 1) then quotient + 1 else quotient

/-- The significant bits of a number written with a fraction. -/
def significantBits : Nat := 53

/-- The number of 53 significant bits that is nearest to `n`, if it is below `2 ^ 1024`. -/
def nearestReal? (n : Nat) : Option Nat :=
  let unit := Nat.pow 2 (Nat.log2 n + 1 - significantBits)
  let nearest := roundDiv n unit * unit
  if nearest < Nat.pow 2 1024 then some nearest else none

/-- A number in the form of its leading digits and the exponent of the first of them. -/
structure Scientific where
  digits : Text
  exponent : Nat
  deriving Repr, DecidableEq

/-- The number rounded to `count` significant digits, a tie going to the even digit. -/
def scientific (count n : Nat) : Scientific :=
  if n = 0 then { digits := List.replicate count '0', exponent := 0 }
  else
    let digits := Nat.toDigits 10 n
    let exponent := digits.length - 1
    if digits.length ≤ count then
      { digits := digits ++ List.replicate (count - digits.length) '0', exponent }
    else
      let rounded := Nat.toDigits 10 (roundDiv n (Nat.pow 10 (digits.length - count)))
      if rounded.length ≤ count then { digits := rounded, exponent }
      else { digits := rounded.take count, exponent := exponent + 1 }

/-- Digits with a point behind the first `whole` of them. The point at the very end is only written
if asked for. -/
def pointed (whole : Nat) (alwaysPoint : Bool) (digits : Text) : Text :=
  let fraction := digits.drop whole
  digits.take whole ++ (if alwaysPoint || !fraction.isEmpty then '.' :: fraction else [])

/-- An exponent with its sign and at least two digits. -/
def exponentText (letter : Char) (exponent : Nat) : Text :=
  letter :: '+' :: paddedDigits (some 2) (Nat.toDigits 10 exponent)

/-- The form with so many `places` behind the point. -/
def fixedBody (places : Nat) (alwaysPoint : Bool) (n : Nat) : Text :=
  let digits := Nat.toDigits 10 n
  pointed digits.length alwaysPoint (digits ++ List.replicate places '0')

/-- The form with an exponent and so many `places`. -/
def exponentBody (letter : Char) (places : Nat) (alwaysPoint : Bool) (n : Nat) : Text :=
  let s := scientific (places + 1) n
  pointed 1 alwaysPoint s.digits ++ exponentText letter s.exponent

/-- Digits without the zeros at their end. -/
def dropEndZeros (digits : Text) : Text :=
  (digits.reverse.dropWhile (· == '0')).reverse

/-- The form with `precision` significant digits: positional if the exponent is below their number, and
without zeros at the end of the fraction unless the point is always written. -/
def generalBody (letter : Char) (precision : Nat) (alwaysPoint : Bool) (n : Nat) : Text :=
  let count := max precision 1
  let s := scientific count n
  if s.exponent < count then
    let whole := s.exponent + 1
    let fraction := s.digits.drop whole
    pointed whole alwaysPoint
      (s.digits.take whole ++ if alwaysPoint then fraction else dropEndZeros fraction)
  else
    let fraction := s.digits.drop 1
    pointed 1 alwaysPoint
        (s.digits.take 1 ++ if alwaysPoint then fraction else dropEndZeros fraction) ++
      exponentText letter s.exponent

/-- The `nearestReal?` of a number as a figure. The letter of the `conversion` chooses the form and the
letter of the exponent. -/
def realFigure (conversion : Char) (alternate : Bool) (precision : Option Nat) (n : Int) :
    Except Fault Figure :=
  match nearestReal? n.natAbs with
  | none => .error (.overflow .realRange)
  | some nearest =>
    let places := precision.getD 6
    let letter := if conversion.isUpper then 'E' else 'e'
    let body :=
      if conversion.toLower = 'f' then fixedBody places alternate nearest
      else if conversion.toLower = 'e' then exponentBody letter places alternate nearest
      else generalBody letter places alternate nearest
    .ok { negative := decide (n < 0), body }

end Externalize.Template
