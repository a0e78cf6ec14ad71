import Externalize.Text.Points

/-!
# `Externalize.Json.Basic`: JSON values

Objects keep their fields in order and have no key twice. Numbers with a point or an exponent are
kept as they are written, as a whole number and a power of ten; what counts of them is only whether
they are zero.
-/

set_option autoImplicit false

namespace Externalize

/-- A JSON value. -/
inductive Json
  | null
  | bool (b : Bool)
  | integer (n : Int)
  /-- `digits * 10 ^ exponent`. -/
  | real (digits exponent : Int)
  /-- An infinity, or no number at all. -/
  | nonFinite
  | string (t : Points)
  | array (items : List Json)
  | object (fields : List (Text × Json))
  deriving Repr, Inhabited

namespace Json

/-- A text as a `string`. -/
def text (t : Text) : Json :=
  .string (Points.ofText t)

/-- Whether `digits * 10 ^ exponent` is so small that it is stored as zero: at most half of the
smallest number above zero, which is `2 ^ (-1074)`. -/
def isStoredZero (digits exponent : Int) : Bool :=
  let n := digits.natAbs
  let places := (-exponent).toNat
  if n = 0 then true
  else if 0 ≤ exponent then false
  else if (Nat.toDigits 10 n).length + 400 < places then true
  else decide (n * Nat.pow 2 1075 ≤ Nat.pow 10 places)

/-- Whether a value counts as nothing given: null, false, zero, or an empty text, array or object. -/
def isVoid : Json → Bool
  | .null => true
  | .bool b => !b
  | .integer n => n == 0
  | .real digits exponent => isStoredZero digits exponent
  | .nonFinite => false
  | .string t => t.isEmpty
  | .array items => items.isEmpty
  | .object fields => fields.isEmpty

end Json

end Externalize
