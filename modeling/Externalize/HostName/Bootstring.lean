import Externalize.Text.Points

/-!
# `Externalize.HostName.Bootstring`: any text in letters and digits

A text is spelled in ASCII by its ASCII characters, a dash, and letters and digits that tell which
other code points stand where. The others are inserted in increasing order, and each is told by how
many places are passed over since the one before: first along the text, then from code point to code
point. Such a distance is a number in base 36 with the digit of least weight first, and what ends a
number depends on the `bias`, which follows the size of the distances.
-/

set_option autoImplicit false

namespace Externalize.HostName

/-- Why letters and digits spell no text. -/
inductive SpellingFault
  /-- The last distance has no end. -/
  | incomplete
  | notDigit (c : Char)
  /-- There is no code point with that number. -/
  | tooBig (code : Nat)
  deriving Repr, DecidableEq

/-- The text that is told of a fault. -/
def SpellingFault.message : SpellingFault → String
  | .incomplete => "incomplete punicode string"
  | .notDigit c => s!"Invalid extended code point '{c}'"
  | .tooBig code => s!"Invalid character U+{String.ofList (Nat.toDigits 16 code)}"

namespace Bootstring

/-- The first code point that is not in ASCII. -/
def firstWide : Nat := 0x80

/-- The bias before the first distance. -/
def firstBias : Nat := 72

/-- A digit of a number is its last if it is below this; `place` counts the digits before it. -/
def threshold (bias place : Nat) : Nat :=
  max 1 (min 26 (36 * (place + 1) - bias))

theorem threshold_pos (bias place : Nat) : 1 ≤ threshold bias place :=
  Nat.le_max_left ..

/-- Scales a distance down to the size that the bias is computed from. -/
def scaleDown (size bias : Nat) : Nat × Nat :=
  if 455 < size then scaleDown (size / 35) (bias + 36) else (size, bias)
termination_by size
decreasing_by omega

/-- The bias after a distance, with `count` code points in the text; the first distance is large
because it passes over many code points that are not used. -/
def adapt (distance : Nat) (first : Bool) (count : Nat) : Nat :=
  let damped := if first then distance / 700 else distance / 2
  let (size, bias) := scaleDown (damped + damped / count) 0
  bias + 36 * size / (size + 38)

/-! ### Spelling -/

/-- The letter or digit of a `value` below 36. -/
def digitChar (value : Nat) : Char :=
  if value < 26 then Char.ofNat ('a'.toNat + value) else Char.ofNat ('0'.toNat + (value - 26))

/-- The digits of a distance from the digit at `place` on. -/
def digitsFrom (bias place distance : Nat) : Text :=
  let bound := threshold bias place
  if distance < bound then [digitChar distance]
  else
    digitChar (bound + (distance - bound) % (36 - bound)) ::
      digitsFrom bias (place + 1) ((distance - bound) / (36 - bound))
termination_by distance
decreasing_by
  have positive := threshold_pos bias place
  have smaller :=
    Nat.div_le_self (distance - threshold bias place) (36 - threshold bias place)
  omega

/-- The state of spelling a text. -/
structure Writer where
  text : Text
  /-- The places passed over so far. -/
  distance : Nat := 0
  bias : Nat := firstBias
  /-- How many code points are in the text already. -/
  count : Nat
  first : Bool := true

namespace Writer

/-- Passes a place of the text, where `code` stands, while `next` is to be inserted. -/
def pass (next : Nat) (writer : Writer) (code : Nat) : Writer :=
  if code < next then { writer with distance := writer.distance + 1 }
  else if code = next then
    { text := writer.text ++ digitsFrom writer.bias 0 writer.distance
      bias := adapt writer.distance writer.first (writer.count + 1)
      count := writer.count + 1, first := false }
  else writer

/-- Inserts the code points that are given in increasing order; those below `start` are passed over
already. -/
def insertAll (codes : List Nat) : Nat → List Nat → Writer → Writer
  | _, [], writer => writer
  | start, next :: rest, writer =>
    let skipped := writer.distance + (next - start) * (writer.count + 1)
    let passed := codes.foldl (pass next) { writer with distance := skipped }
    insertAll codes (next + 1) rest { passed with distance := passed.distance + 1 }

end Writer

/-- The spelling of a text: its code points below `firstWide`, and then the distances to the others. -/
def encode (codes : List Nat) : Text :=
  let narrow := (codes.filter (· < firstWide)).map Char.ofNat
  let wide := ((codes.filter (firstWide ≤ ·)).mergeSort fun a b => decide (a ≤ b)).eraseDups
  let head := if narrow.isEmpty then [] else narrow ++ ['-']
  (Writer.insertAll codes firstWide wide { text := head, count := narrow.length }).text

/-! ### Reading -/

/-- The value of a letter or digit. -/
def digitValue? (c : Char) : Option Nat :=
  let letter := c.toLower
  if 'a' ≤ letter ∧ letter ≤ 'z' then some (letter.toNat - 'a'.toNat)
  else if c.isDigit then some (c.toNat - '0'.toNat + 26)
  else none

/-- The state of reading a spelling. -/
structure Reader where
  codes : List Nat
  /-- The code point to be inserted. -/
  next : Nat := firstWide
  /-- Where it is inserted if no place is passed over. -/
  position : Nat := 0
  bias : Nat := firstBias
  first : Bool := true
  /-- The distance as far as it is read, the weight of its next digit, and how many digits it has. -/
  distance : Nat := 0
  weight : Nat := 1
  place : Nat := 0

namespace Reader

/-- Passes over the `distance` and inserts a code point. -/
def insert (reader : Reader) (distance : Nat) : Except SpellingFault Reader :=
  let places := reader.codes.length + 1
  let target := reader.position + distance
  let next := reader.next + target / places
  let position := target % places
  if next < 0x110000 then
    .ok
      { codes := reader.codes.take position ++ next :: reader.codes.drop position
        next, position := position + 1, first := false
        bias := adapt distance reader.first places }
  else .error (.tooBig next)

/-- Takes the digit `c` of a distance. -/
def push (reader : Reader) (c : Char) : Except SpellingFault Reader :=
  match digitValue? c with
  | none => .error (.notDigit c)
  | some value =>
    let bound := threshold reader.bias reader.place
    let distance := reader.distance + value * reader.weight
    if value < bound then reader.insert distance
    else
      .ok
        { reader with
          distance, weight := reader.weight * (36 - bound), place := reader.place + 1 }

end Reader

/-- The text that a spelling stands for: `push` for each of its digits behind the last dash. -/
def decode (text : Text) : Except SpellingFault (List Nat) := do
  let digits := (text.reverse.takeWhile (· != '-')).reverse
  let narrow := text.take (text.length - digits.length - 1)
  let reader ← digits.foldlM Reader.push { codes := narrow.map Char.toNat }
  if reader.place = 0 then return reader.codes else throw .incomplete

end Bootstring

end Externalize.HostName
