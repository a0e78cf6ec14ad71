import Externalize.Text.Line
import Externalize.Text.Points

/-!
# `Externalize.Resource.Document`: string resource documents

A resource document is a declaration, an opening tag, the entries on a line each, and a closing tag.
`entryLines` reads the entry lines out of a document of any layout: it drops the declaration and the
two tags wherever they stand, cuts what is left into lines and at the places where one entry ends and
another begins, strips the pieces, and keeps the first of equal ones. `document` writes lines in the
one canonical layout, and `format` is the one after the other.
-/

set_option autoImplicit false

namespace Externalize.Document

/-- The declaration that a `document` begins with. -/
def declaration : Text := "<?xml version=\"1.0\" encoding=\"utf-8\"?>".toList

/-- The declaration with single quotes, as some tools write it. -/
def declarationSingle : Text := "<?xml version='1.0' encoding='utf-8'?>".toList

/-- What the opening tag of a `document` begins with. -/
def openingStart : Text := "<resources".toList

/-- The closing tag of a `document`. -/
def closing : Text := "</resources>".toList

/-- What an `entryLine` begins with. -/
def entryStart : Text := "<string".toList

/-- What an `entryLine` ends with. -/
def entryEnd : Text := "</string>".toList

/-- The line break of a `document`. -/
def lineBreak : Text := ['\r', '\n']

/-- What stands before a line of a `document`. -/
def indent : Text := List.replicate 4 ' '

/-- Matches from `openingStart` to the next `>` on the line. -/
def openingRule : Rule :=
  Text.enclosed openingStart ['>']

/-- Matches `entryEnd` and the blanks behind it, if another tag begins there. -/
def boundaryRule : Rule := fun text =>
  if entryEnd.isPrefixOf text then
    let after := text.drop entryEnd.length
    let blanks := after.takeWhile isBlank
    match after.drop blanks.length with
    | '<' :: _ => some (entryEnd.length + blanks.length - 1)
    | _ => none
  else none

/-- The pieces between matches, each with the match at its end; `current` is the piece under way,
latest first. -/
def piecesFrom : List Segment → Text → List Text
  | [], current => [current.reverse]
  | .plain c :: rest, current => piecesFrom rest (c :: current)
  | .hit found :: rest, current => (current.reverse ++ found) :: piecesFrom rest []

/-- The pieces of a line, cut behind each match of `boundaryRule`. -/
def pieces (line : Text) : List Text :=
  piecesFrom (Text.segments boundaryRule line) []

/-- The text without opening tags, `closing` tags and declarations, dropped in this order. -/
def bare (text : Text) : Text :=
  let noOpening := Text.replaceHits openingRule [] text
  let noClosing := Text.replaceAll closing [] noOpening
  Text.replaceAll declarationSingle [] (Text.replaceAll declaration [] noClosing)

/-- The entry lines of a text: the `pieces` of the lines that `bare` leaves, stripped, none empty, none
repeated. -/
def entryLines (text : Text) : List Text :=
  ((((bare text).lines.flatMap pieces).map Text.strip).filter fun line => !line.isEmpty).eraseDups

/-- The document with the given lines in the canonical layout: `declaration`, opening tag, each line
behind its `indent`, and `closing`. -/
def document (lines : List Text) : Text :=
  declaration ++ lineBreak ++ openingStart ++ ['>'] ++
    lines.flatMap (fun line => lineBreak ++ indent ++ line) ++ lineBreak ++ closing

/-- The `document` of lines in which halves of pairs may stand. -/
def documentPoints (lines : List Points) : Points :=
  Points.ofText (declaration ++ lineBreak ++ openingStart ++ ['>']) ++
    lines.flatMap (fun line => Points.ofText (lineBreak ++ indent) ++ line) ++
    Points.ofText (lineBreak ++ closing)

/-- The `document` of the `entryLines` of a text. -/
def format (text : Text) : Text :=
  document (entryLines text)

/-- The entry line of a name and a value, which is written as it is. -/
def entryLine (name value : Text) : Text :=
  "<string name=\"".toList ++ name ++ "\">".toList ++ value ++ entryEnd

/-- The `entryLine` of a name and a value that may have halves of pairs in them. -/
def entryPoints (name value : Points) : Points :=
  Points.ofText "<string name=\"".toList ++ name ++ Points.ofText "\">".toList ++ value ++
    Points.ofText entryEnd

end Externalize.Document
