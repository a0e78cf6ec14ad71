import Externalize.Text.Utf8

/-!
# `Externalize.Text.Encoding`: texts in units of one, two or four octets

The octets of a message do not say how they spell its text, but where its first zeros stand tells it:
a message begins with a character of ASCII, which has a zero in every octet of its unit but one.
`decode?` gives the text. Halves of pairs stay what they are unless the two halves of a pair meet in
units of two octets.
-/

set_option autoImplicit false

namespace Externalize

/-- How octets spell a text. In the wide units the octet of most weight comes first or last. -/
inductive Encoding
  | utf8
  | utf16 (mostFirst : Bool)
  | utf32 (mostFirst : Bool)
  deriving Repr, DecidableEq

namespace Encoding

/-- The encoding that the octets at the head of a message tell of. -/
def detect : Octets → Encoding
  | [a, b] => if a = 0 then .utf16 true else if b = 0 then .utf16 false else .utf8
  | a :: b :: c :: d :: _ =>
    if a = 0 then if b = 0 then .utf32 true else .utf16 true
    else if b = 0 then if c = 0 && d = 0 then .utf32 false else .utf16 false
    else .utf8
  | _ => .utf8

/-- The number that octets make in a unit, of most weight first if `mostFirst`. -/
def unit (mostFirst : Bool) (octets : Octets) : Nat :=
  (if mostFirst then octets else octets.reverse).foldl (fun n octet => 256 * n + octet.toNat) 0

/-- The units of two octets, if none is cut short. -/
def units2? (mostFirst : Bool) : Octets → Option (List Nat)
  | [] => some []
  | a :: b :: rest => (units2? mostFirst rest).map (unit mostFirst [a, b] :: ·)
  | _ => none

/-- The units of four octets, if none is cut short. -/
def units4? (mostFirst : Bool) : Octets → Option (List Nat)
  | [] => some []
  | a :: b :: c :: d :: rest => (units4? mostFirst rest).map (unit mostFirst [a, b, c, d] :: ·)
  | _ => none

/-- The code points of units of two octets, with `Point.ofHalves` for two halves that make a pair. -/
def joinPairs : List Nat → Points
  | [] => []
  | [n] => [.ofNumber n]
  | n :: m :: rest =>
    if Point.isFirstHalf n && Point.isSecondHalf m then .ofHalves n m :: joinPairs rest
    else .ofNumber n :: joinPairs (m :: rest)

/-- The text that octets spell in an encoding, if they spell one. -/
def decode? (octets : Octets) : Encoding → Option Points
  | .utf8 =>
    match Utf8.decode octets with
    | .ok text => some (Points.ofText text)
    | .error _ => none
  | .utf16 mostFirst => (units2? mostFirst octets).map joinPairs
  | .utf32 mostFirst =>
    (units4? mostFirst octets).bind fun units =>
      if units.all (· < 0x110000) then some (units.map .ofNumber) else none

end Encoding

end Externalize
