import Externalize.Source.Kind
import Externalize.Text.Blank
import Externalize.Text.Caseless

/-!
# `Externalize.Source.Literal`: the string literals of a source text

In code a literal goes from a double quote to the next one on the same line. In markup it is the
quoted value of one of six attributes of the Android namespace, unless the value begins with `@` or
`?` and is thus a reference already. Line feeds alone end a line here.
-/

set_option autoImplicit false

namespace Externalize

/-- A string literal in a source text. -/
structure Literal where
  /-- The literal with its quotes. -/
  raw : Text
  /-- Where its opening quote stands. -/
  position : Nat
  deriving Repr, DecidableEq

/-- The spelling `raw` of a literal without its quotes. -/
def unquoted (raw : Text) : Text :=
  (raw.drop 1).dropLast

namespace Literal

/-- The `raw` of the literal without its quotes. -/
def value (literal : Literal) : Text :=
  unquoted literal.raw

/-- Matches from a double quote to the next one on the line. -/
def quotedRule : Rule :=
  Text.enclosed ['"'] ['"']

/-- What every attribute that holds a string begins with. -/
def attributeSpace : Text := "android:".toList

/-- The attributes that hold a string. -/
def attributeNames : List Text :=
  ["text".toList, "title".toList, "hint".toList, "summary".toList, "description".toList,
    "label".toList]

/-- How many characters stand before the quoted value of the attribute at the head of the text:
`attributeSpace`, one of the `attributeNames` and an equals sign. -/
def attributeHead? (text : Text) : Option Nat :=
  (Text.dropKeyword? attributeSpace text).bind fun rest =>
    attributeNames.findSome? fun name =>
      match Text.dropKeyword? name rest with
      | some ('=' :: '"' :: _) => some (attributeSpace.length + name.length + 1)
      | _ => none

/-- Whether the quoted value at the head of the text begins with `@` or `?`. -/
def isReferenceValue : Text → Bool
  | '"' :: c :: _ => c == '@' || c == '?'
  | _ => false

/-- Matches an attribute that holds a string, from its `attributeSpace` to the end of its value. A value
with `isReferenceValue` is none. -/
def attributeRule : Rule := fun text =>
  (attributeHead? text).bind fun head =>
    let value := text.drop head
    if isReferenceValue value then none else (quotedRule value).map (head + ·)

/-- The literal in a match of `attributeRule`, which starts at `start`. -/
def ofAttribute (start : Nat) (found : Text) : Literal :=
  let before := found.takeWhile (· != '"')
  { raw := found.drop before.length, position := start + before.length }

end Literal

/-- The literals of a text of that kind, in order: the matches of `quotedRule` in code, and of
`attributeRule` in markup. -/
def literals : Kind → Text → List Literal
  | .code, text =>
    (Text.hits Literal.quotedRule text).map fun (start, found) =>
      { raw := found, position := start }
  | .markup, text =>
    (Text.hits Literal.attributeRule text).map fun (start, found) =>
      Literal.ofAttribute start found

end Externalize
