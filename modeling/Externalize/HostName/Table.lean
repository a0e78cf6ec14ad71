import Externalize.Text.Digit

/-!
# `Externalize.HostName.Table`: tables of code points

A table is a text of entries in hexadecimal, with spaces or line breaks between them. An entry is a
code point or a range, and behind it, after commas, what belongs to it. A range written with a dash
has all code points from its first to its last, one written with an equals sign every other. If one
target belongs to a range, it belongs to its first code point and goes along with the others.
-/

set_option autoImplicit false

namespace Externalize.HostName

/-- Code points with what belongs to them. -/
structure Entry where
  first : Nat
  last : Nat
  /-- The distance from one code point to the next. -/
  step : Nat
  targets : List Nat
  deriving Repr, DecidableEq

namespace Entry

/-- Whether `code` is one of the code points of the entry. -/
def has (entry : Entry) (code : Nat) : Bool :=
  entry.first ≤ code && code ≤ entry.last && (code - entry.first) % entry.step == 0

/-- What belongs to `code`, if the `targets` go along with the code points. -/
def targetsOf (entry : Entry) (code : Nat) : List Nat :=
  match entry.targets with
  | [target] => [target + (code - entry.first)]
  | targets => targets

/-- The number that hexadecimal digits spell. -/
def number (digits : Text) : Nat :=
  digits.foldl (fun n c => 16 * n + (hexValue? c).getD 0) 0

/-- The entry that a text spells. -/
def read (text : Text) : Entry :=
  let fields := text.splitOn ','
  let range := fields.headD []
  let first := range.takeWhile fun c => c != '-' && c != '='
  let targets := (fields.drop 1).map number
  match range.drop first.length with
  | [] => { first := number first, last := number first, step := 1, targets }
  | '=' :: last => { first := number first, last := number last, step := 2, targets }
  | _ :: last => { first := number first, last := number last, step := 1, targets }

end Entry

/-- `Entry.read` for each word of a table. -/
def readTable (table : String) : List Entry :=
  let words := (table.toList.map fun c => if c = '\n' then ' ' else c).splitOn ' '
  (words.filter fun word => !word.isEmpty).map Entry.read

end Externalize.HostName
