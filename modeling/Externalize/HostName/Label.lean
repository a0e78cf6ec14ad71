import Externalize.HostName.Bootstring
import Externalize.HostName.Composition
import Externalize.HostName.Letter
import Externalize.Text.Quoted

/-!
# `Externalize.HostName.Label`: host names in ASCII

A host name is a row of labels with dots between them. A label that is not all ASCII is prepared, so
that names that look the same are the same, and spelled in ASCII behind a mark. `toAscii` gives the
name in ASCII and `ofAscii` the name that ASCII stands for. A label has at least one and at most 63
characters in ASCII, and only behind the last dot there may be nothing.
-/

set_option autoImplicit false

namespace Externalize.HostName

/-- Why a label makes no sense. -/
inductive LabelFault
  /-- The label is empty or too long. -/
  | badLength
  /-- The last label of a name in ASCII is too long. -/
  | lastTooLong
  /-- A character is refused in host names. -/
  | refused (code : Nat)
  /-- Letters from the left and from the right stand in one label. -/
  | mixedDirections
  /-- A label with letters from the right begins or ends with something else. -/
  | openDirection
  /-- A label that needs the mark has it already. -/
  | marked
  /-- Behind the mark there is no spelling of a text. -/
  | spelling (fault : SpellingFault)
  /-- The text behind the mark is spelled otherwise. -/
  | respelled (label other : Text)
  deriving Repr, DecidableEq

/-- The text that is told of a fault. -/
def LabelFault.message : LabelFault → String
  | .badLength => "label empty or too long"
  | .lastTooLong => "label too long"
  | .refused code => s!"Invalid character {String.ofList (Points.quote [.ofNumber code])}"
  | .mixedDirections => "Violation of BIDI requirement 2"
  | .openDirection => "Violation of BIDI requirement 3"
  | .marked => "Label starts with ACE prefix"
  | .spelling fault => s!"decoding with 'punycode' codec failed (UnicodeError: {fault.message})"
  | .respelled label other =>
    s!"('IDNA does not round-trip', b{String.ofList label.quote}, b{String.ofList other.quote})"

/-- The mark of a label that is spelled in ASCII. -/
def mark : Text := "xn--".toList

/-- The text as code points. -/
def codesOf (text : Text) : List Nat :=
  text.map Char.toNat

/-- Whether all code points are in ASCII. -/
def isNarrow (codes : List Nat) : Bool :=
  codes.all (· < 128)

/-- The label, if its length is right. -/
def checkLength (label : Text) : Except LabelFault Text :=
  if 0 < label.length ∧ label.length < 64 then .ok label else .error .badLength

/-- Checks that letters with `isLeftward` stand alone, at the beginning and at the end. -/
def checkDirections (codes : List Nat) : Except LabelFault Unit :=
  if !codes.any isLeftward then .ok ()
  else if codes.any isRightward then .error .mixedDirections
  else if codes.head?.any isLeftward && codes.getLast?.any isLeftward then .ok ()
  else .error .openDirection

/-- A label in the one form of all labels that count as the same: `normalize`, without what
`isRefused`. -/
def prepare (codes : List Nat) : Except LabelFault (List Nat) := do
  let normal := normalize codes
  match normal.find? isRefused with
  | some code => .error (.refused code)
  | none =>
    checkDirections normal
    return normal

/-- A label in ASCII: as it is if `isNarrow`, and else `prepare` and `Bootstring.encode` behind the
`mark`. -/
def labelToAscii (codes : List Nat) : Except LabelFault Text := do
  if isNarrow codes then checkLength (codes.map Char.ofNat)
  else
    let prepared ← prepare codes
    if isNarrow prepared then checkLength (prepared.map Char.ofNat)
    else if (codesOf mark).isPrefixOf prepared then .error .marked
    else checkLength (mark ++ Bootstring.encode prepared)

/-- The label that ASCII stands for: `Bootstring.decode` behind the `mark`. -/
def labelOfAscii (label : Text) : Except LabelFault (List Nat) :=
  if mark.isPrefixOf label then
    match Bootstring.decode (label.drop mark.length) with
    | .error fault => .error (.spelling fault)
    | .ok codes => do
      let again ← labelToAscii codes
      if again = label.map Char.toLower then .ok codes else .error (.respelled label again)
  else .ok (codesOf label)

/-- The characters that count as dots between labels if a name is not all ASCII. -/
def wideDots : List Char := ['。', '．', '｡']

/-- The labels of a name without the empty one behind a last dot, and whether there is such a dot. -/
def splitLabels (name : Text) : List Text × Bool :=
  let labels := name.splitOn '.'
  if labels.getLast? = some [] then (labels.dropLast, true) else (labels, false)

/-- The name of `labels`, with a last `dot` or not. -/
def joinLabels (labels : List Text) (dot : Bool) : Text :=
  List.intercalate ['.'] labels ++ if dot then ['.'] else []

/-- A name in ASCII: `labelToAscii` for each label. -/
def toAscii (name : Text) : Except LabelFault Text :=
  if isNarrow (codesOf name) then
    let labels := name.splitOn '.'
    if labels.dropLast.any fun label => label.isEmpty || 64 ≤ label.length then .error .badLength
    else if (labels.getLast?.getD []).length < 64 then .ok name
    else .error .lastTooLong
  else do
    let (labels, dot) := splitLabels (name.map fun c => if wideDots.contains c then '.' else c)
    return joinLabels (← labels.mapM fun label => labelToAscii (codesOf label)) dot

/-- Whether the mark stands somewhere in a text. -/
def hasMark : Text → Bool
  | [] => false
  | c :: rest => mark.isPrefixOf (c :: rest) || hasMark rest

/-- The name that ASCII stands for: `labelOfAscii` for each label, if there `hasMark`. -/
def ofAscii (name : Text) : Except LabelFault Text :=
  if hasMark name then do
    let (labels, dot) := splitLabels name
    let decoded ← labels.mapM labelOfAscii
    return joinLabels (decoded.map fun codes => codes.map fun code => (Point.ofNumber code).shown) dot
  else .ok name

end Externalize.HostName
