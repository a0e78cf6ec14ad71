/-!
# `Externalize.Text.CodeRange`: character classes given by ranges

A character class of Unicode is a list of ranges of code points, each with its first and its last
member, in increasing order.
-/

set_option autoImplicit false

namespace Externalize

/-- The code points from `first` to `last`, both included. -/
structure CodeRange where
  first : Nat
  last : Nat
  deriving Repr, DecidableEq

namespace CodeRange

/-- Whether the character lies in the `range`. -/
def has (range : CodeRange) (c : Char) : Bool :=
  range.first ≤ c.toNat && c.toNat ≤ range.last

/-- Whether the character lies in one of the `ranges`. -/
def anyHas (ranges : List CodeRange) (c : Char) : Bool :=
  ranges.any (·.has c)

end CodeRange

end Externalize
