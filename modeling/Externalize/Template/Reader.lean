import Externalize.Template.Basic

/-!
# `Externalize.Template.Reader`: the pieces of a template

A template is read character by character. Outside a field every character but the percent sign
stands for itself; inside a field the reader is at one of a few stages, and each character either
belongs to the stage, opens the next one, or is the letter of the conversion.
-/

set_option autoImplicit false

namespace Externalize.Template

/-- How much of a field has been read. -/
inductive Stage
  /-- Only the percent sign. -/
  | opened
  | flags
  | width
  /-- The width is settled. -/
  | widthDone
  /-- The point before a precision. -/
  | point
  | precision
  /-- The precision is settled. -/
  | precisionDone
  /-- The size letter. -/
  | sized
  deriving Repr, DecidableEq

/-- A field under way: the `stage` that it is at, and what was read of it. -/
structure Draft where
  stage : Stage := .opened
  flags : Flags := {}
  width : Option Nat := none
  precision : Option Nat := none
  deriving Repr, DecidableEq

/-- What a character does to a `Draft`. -/
inductive Move
  /-- The field goes on. -/
  | next (draft : Draft)
  /-- The field goes on, and the value supplies the width or the precision. -/
  | starred (draft : Draft)
  /-- The field was only a doubled percent sign. -/
  | percent
  /-- The field is complete. -/
  | done (field : Field)
  | stop (m : Mismatch)
  deriving Repr, DecidableEq

/-- The largest width. -/
def maxWidth : Nat := 0x7FFFFFFFFFFFFFFF

/-- The largest precision. -/
def maxPrecision : Nat := 0x7FFFFFFF

/-- The flags with the one of that letter added, if it is the letter of one. -/
def Flags.add? (flags : Flags) : Char → Option Flags
  | '-' => some { flags with left := true }
  | '+' => some { flags with plus := true }
  | ' ' => some { flags with space := true }
  | '#' => some { flags with alternate := true }
  | '0' => some { flags with fillZero := true }
  | _ => none

/-- The value of an ASCII digit. -/
def digit? (c : Char) : Option Nat :=
  if c.isDigit then some (c.toNat - '0'.toNat) else none

namespace Draft

/-- The field of a draft with its `conversion`. -/
def field (draft : Draft) (index : Nat) (conversion : Point) : Field :=
  { flags := draft.flags, width := draft.width, precision := draft.precision, conversion, index }

/-- The field is done at the letter `c` of its conversion. -/
def complete (draft : Draft) (index : Nat) (c : Char) : Move :=
  .done (draft.field index (.char c))

/-- What the character `c` does behind the precision. -/
def afterPrecision (draft : Draft) (index : Nat) (c : Char) : Move :=
  if c = 'h' ∨ c = 'l' ∨ c = 'L' then .next { draft with stage := .sized }
  else draft.complete index c

/-- What the character `c` does behind the width. -/
def afterWidth (draft : Draft) (index : Nat) (c : Char) : Move :=
  if c = '.' then .next { draft with stage := .point, precision := some 0 }
  else draft.afterPrecision index c

/-- What the character `c` does behind the flags. -/
def afterFlags (draft : Draft) (index : Nat) (c : Char) : Move :=
  if c = '*' then .starred { draft with stage := .widthDone }
  else
    match digit? c with
    | some digit => .next { draft with stage := .width, width := some digit }
    | none => draft.afterWidth index c

/-- What the character `c` does among the flags or behind them. -/
def atFlags (draft : Draft) (index : Nat) (c : Char) : Move :=
  match draft.flags.add? c with
  | some flags => .next { draft with stage := .flags, flags }
  | none => draft.afterFlags index c

/-- What the character `c` at `index` does to the field. -/
def move (draft : Draft) (index : Nat) (c : Char) : Move :=
  match draft.stage with
  | .opened =>
    if c = '%' then .percent else if c = '(' then .stop .needsMapping else draft.atFlags index c
  | .flags => draft.atFlags index c
  | .width =>
    match digit? c with
    | none => draft.afterWidth index c
    | some digit =>
      let width := draft.width.getD 0
      if (maxWidth - digit) / 10 < width then .stop .widthTooBig
      else .next { draft with width := some (10 * width + digit) }
  | .widthDone => draft.afterWidth index c
  | .point =>
    if c = '*' then .starred { draft with stage := .precisionDone }
    else
      match digit? c with
      | some digit => .next { draft with stage := .precision, precision := some digit }
      | none => draft.afterPrecision index c
  | .precision =>
    match digit? c with
    | none => draft.afterPrecision index c
    | some digit =>
      let precision := draft.precision.getD 0
      if (maxPrecision - digit) / 10 < precision then .stop .precisionTooBig
      else .next { draft with precision := some (10 * precision + digit) }
  | .precisionDone => draft.afterPrecision index c
  | .sized => draft.complete index c

end Draft

/-- The pieces of the rest of a template, from `index` on, with the field that is under way. Half of
a pair in a field is the letter of a conversion that there is not. -/
def piecesFrom : Option Draft → Nat → Points → List Piece
  | none, _, [] => []
  | some _, _, [] => [.broken .incomplete]
  | none, index, p :: rest =>
    if p = .char '%' then piecesFrom (some {}) (index + 1) rest
    else .literal p :: piecesFrom none (index + 1) rest
  | some draft, index, .half n :: rest =>
    .field (draft.field index (.half n)) :: piecesFrom none (index + 1) rest
  | some draft, index, .char c :: rest =>
    match draft.move index c with
    | .next draft => piecesFrom (some draft) (index + 1) rest
    | .starred draft => .star :: piecesFrom (some draft) (index + 1) rest
    | .percent => .literal (.char '%') :: piecesFrom none (index + 1) rest
    | .done field => .field field :: piecesFrom none (index + 1) rest
    | .stop m => [.broken m]

/-- The pieces of a template: `piecesFrom` its beginning. -/
def pieces (template : Points) : List Piece :=
  piecesFrom none 0 template

end Externalize.Template
