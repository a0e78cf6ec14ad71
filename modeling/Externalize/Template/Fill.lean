import Externalize.Template.Reader
import Externalize.Template.Real
import Externalize.Text.Quoted

/-!
# `Externalize.Template.Fill`: filling a template

The pieces are taken in order, and the first thing that goes wrong is the fault: a piece that cannot
be read, a field without a value, a field that does not suit the value, or, at the end, a value that
no field took.
-/

set_option autoImplicit false

namespace Externalize.Template

/-- The first `precision` members of a text, all if there is no precision. -/
def cut {α : Type} (precision : Option Nat) (text : List α) : List α :=
  match precision with
  | none => text
  | some most => text.take most

/-- The code point with the number `n`, as the conversion `c` takes it. -/
def character (n : Int) : Except Fault Point :=
  if 0 ≤ n ∧ n < 0x110000 then .ok (.ofNumber n.toNat) else .error (.overflow .characterRange)

/-- The widest field that fits into memory. The number stands for the machine, not for a rule of
templates: where memory ends differs from one machine to the next, and the general results on names hold
whatever number is put here. -/
def memoryLimit : Nat := 0x80000000

namespace Field

/-- Refuses a `width` above `memoryLimit`. -/
def checkWidth (field : Field) : Except Fault Unit :=
  if field.width.getD 0 ≤ memoryLimit then .ok () else .error (.overflow .memory)

/-- The text in the width of the field, after `checkWidth`. -/
def place (field : Field) (text : Points) : Except Fault Points := do
  field.checkWidth
  return field.flags.place field.width (.char ' ') text

/-- The figure in the width of the field, after `checkWidth`. -/
def placeFigure (field : Field) (figure : Figure) : Except Fault Points := do
  field.checkWidth
  return Points.ofText (field.flags.placeFigure field.width figure)

/-- The field filled with a number, by its `conversion`. -/
def fillNumber (field : Field) (n : Int) : Except Fault Points :=
  match field.conversion with
  | .char 's' | .char 'r' | .char 'a' =>
    (decimal n).bind fun text => field.place (Points.ofText (cut field.precision text))
  | .char 'c' => (character n).bind fun point => field.place [point]
  | .char 'd' | .char 'i' | .char 'u' => (decimalFigure field.precision n).bind field.placeFigure
  | .char 'o' =>
    (baseFigure 8 'o' field.flags.alternate field.precision n).bind field.placeFigure
  | .char 'x' =>
    (baseFigure 16 'x' field.flags.alternate field.precision n).bind field.placeFigure
  | .char 'X' =>
    (baseFigure 16 'x' field.flags.alternate field.precision n).bind fun figure =>
      field.placeFigure figure.upper
  | .char 'e' | .char 'E' | .char 'f' | .char 'F' | .char 'g' | .char 'G' =>
    (realFigure field.conversion.shown field.flags.alternate field.precision n).bind
      field.placeFigure
  | other => .error (.mismatch (.unsupported other field.index))

/-- The field filled with a text, by its `conversion`. -/
def fillText (field : Field) (t : Points) : Except Fault Points :=
  match field.conversion with
  | .char 's' => field.place (cut field.precision t)
  | .char 'r' => field.place (Points.ofText (cut field.precision t.quote))
  | .char 'a' => field.place (Points.ofText (cut field.precision t.quoteAscii))
  | .char 'c' =>
    match t with
    | [p] => field.place [p]
    | _ => .error (.mismatch .needsCharacter)
  | .char 'd' | .char 'i' | .char 'u' =>
    .error (.mismatch (.needsNumber field.conversion.shown))
  | .char 'o' | .char 'x' | .char 'X' =>
    .error (.mismatch (.needsInteger field.conversion.shown))
  | .char 'e' | .char 'E' | .char 'f' | .char 'F' | .char 'g' | .char 'G' =>
    .error (.mismatch .needsReal)
  | other => .error (.mismatch (.unsupported other field.index))

/-- The field filled with a value: `fillNumber` or `fillText`. -/
def fill (field : Field) : Value → Except Fault Points
  | .number n => field.fillNumber n
  | .text t => field.fillText t

end Field

/-- The pieces filled with the `value` that is left, if one is. -/
def fillPieces : Option Value → List Piece → Except Fault Points
  | none, [] => .ok []
  | some _, [] => .error (.mismatch .unusedValue)
  | value, .literal p :: rest => (fillPieces value rest).map (p :: ·)
  | none, .star :: _ => .error (.mismatch .tooFewValues)
  | some (.number _), .star :: rest => fillPieces none rest
  | some (.text _), .star :: _ => .error (.mismatch .starNeedsNumber)
  | none, .field _ :: _ => .error (.mismatch .tooFewValues)
  | some value, .field field :: rest =>
    match field.fill value with
    | .error fault => .error fault
    | .ok text => (fillPieces none rest).map (text ++ ·)
  | _, .broken m :: _ => .error (.mismatch m)

/-- The template filled with the value: `fillPieces` of its `pieces`. -/
def fill (template : Points) (value : Value) : Except Fault Points :=
  fillPieces (some value) (pieces template)

end Externalize.Template
