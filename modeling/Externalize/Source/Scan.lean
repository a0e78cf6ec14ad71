import Externalize.Naming
import Externalize.Source.Literal

/-!
# `Externalize.Source.Scan`: what is extracted from a source text

A scan goes through the literals of a text in order (`Scanning.step`). It leaves a blank literal alone,
and one whose spelling it has `seen`. Any other literal becomes an `Entry` under the name of the next
count. A count that has no name ends the scan.
-/

set_option autoImplicit false

namespace Externalize

/-- A literal with its name and with the reference that takes its place. -/
structure Entry where
  name : Points
  raw : Text
  reference : Text
  deriving Repr, DecidableEq

/-- The `raw` of the entry without its quotes. -/
def Entry.value (entry : Entry) : Text :=
  unquoted entry.raw

/-- The result of `scan`. -/
structure Scan where
  kind : Kind
  entries : List Entry
  /-- How many literals there are. -/
  found : Nat
  /-- How many of them repeat an earlier one. -/
  duplicates : Nat
  /-- How many of them are blank. -/
  blanks : Nat
  /-- The count of the last entry. -/
  count : Int
  deriving Repr, DecidableEq

/-- A `scan` on its way: its result so far, and the `raw`s of the literals that became entries. -/
structure Scanning where
  result : Scan
  seen : List Text
  deriving Repr, DecidableEq

/-- What `judge` makes of a literal. -/
inductive Verdict
  | blank
  | duplicate
  | entry (entry : Entry)
  deriving Repr, DecidableEq

namespace Scanning

/-- The state before the first literal. -/
def start (kind : Kind) (count : Int) : Scanning :=
  { result := { kind, entries := [], found := 0, duplicates := 0, blanks := 0, count }
    seen := [] }

/-- What becomes of the next literal. A literal is named only if it is not blank and not `seen`. -/
def judge (scheme : NameScheme) (state : Scanning) (literal : Literal) : Except NameFault Verdict :=
  if literal.value.isAllBlank then .ok .blank
  else if literal.raw ∈ state.seen then .ok .duplicate
  else
    match scheme.name (state.result.count + 1) with
    | .error fault => .error fault
    | .ok name =>
      let reference := scheme.reference state.result.kind name
      .ok (.entry { name, raw := literal.raw, reference })

/-- The state with one literal more, counted by its verdict. An `entry` is kept, and its count and its
`raw` with it. -/
def settle (state : Scanning) (verdict : Verdict) : Scanning :=
  let result := { state.result with found := state.result.found + 1 }
  match verdict with
  | .blank => { state with result := { result with blanks := result.blanks + 1 } }
  | .duplicate => { state with result := { result with duplicates := result.duplicates + 1 } }
  | .entry entry =>
    { result := { result with entries := result.entries ++ [entry], count := result.count + 1 }
      seen := entry.raw :: state.seen }

/-- `judge` the next literal and `settle` it. -/
def step (scheme : NameScheme) (state : Scanning) (literal : Literal) : Except NameFault Scanning :=
  (state.judge scheme literal).map state.settle

end Scanning

/-- Scans a text: takes its literals one after the other, and names those that become entries from one
above `count` on. -/
def scan (scheme : NameScheme) (kind : Kind) (text : Text) (count : Int) :
    Except NameFault Scan :=
  ((literals kind text).foldlM (Scanning.step scheme) (.start kind count)).map Scanning.result

end Externalize
