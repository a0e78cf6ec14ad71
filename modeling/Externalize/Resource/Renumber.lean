import Externalize.Naming
import Externalize.Resource.Document
import Externalize.Text.Caseless
import Externalize.Text.Replacement
import Externalize.Text.Utf8

/-!
# `Externalize.Resource.Renumber`: fresh names for entry lines

The lines get the names of the counts from one on, in order of appearance: in each line the first
name attribute that ends a tag is replaced. The new attribute is read as a replacement, so that a
backslash in a name keeps the meaning it has there.

`renumbered` gives the lines with the halves of pairs that a name may bring. No document can hold such a
line, so `renumber` gives the lines for a document, or tells of the halves that keep it from being
written.
-/

set_option autoImplicit false

namespace Externalize

/-- Why `renumber` fails. -/
inductive RenumberFault
  | naming (fault : NameFault)
  | replacement (fault : Replacement.Fault)
  /-- The document of the lines cannot be written. -/
  | halves (fault : Utf8.Halves)
  deriving Repr, DecidableEq

/-- Matches a name attribute at the end of a tag, in any letter case and on one line. -/
def nameAttributeRule : Rule := fun text =>
  (Text.dropKeyword? "name=\"".toList text).bind fun rest =>
    (Text.distanceInLine? "\">".toList 0 rest).map fun between => between + 7

/-- The name attribute at the end of a tag, as `nameAttributeRule` matches it. -/
def nameAttribute (name : Points) : Points :=
  Points.ofText "name=\"".toList ++ name ++ Points.ofText "\">".toList

/-- The line with `nameAttribute name` in the place of the first match of `nameAttributeRule`. The
attribute is read as a replacement, with its backslashes. -/
def renameLine (name : Points) (line : Text) : Except Replacement.Fault Points :=
  (Replacement.parts (nameAttribute name)).map fun parts =>
    Replacement.replaceFirst nameAttributeRule parts line

namespace NameScheme

/-- Gives the lines the names from one above `count` on. -/
def renumberFrom (scheme : NameScheme) : Nat → List Text → Except RenumberFault (List Points)
  | _, [] => .ok []
  | count, line :: rest =>
    match scheme.name (count + 1) with
    | .error fault => .error (.naming fault)
    | .ok name =>
      match renameLine name line with
      | .error fault => .error (.replacement fault)
      | .ok line => (scheme.renumberFrom (count + 1) rest).map (line :: ·)

/-- `renumberFrom` zero: the lines under the names of the counts from one on. -/
def renumbered (scheme : NameScheme) (lines : List Text) : Except RenumberFault (List Points) :=
  scheme.renumberFrom 0 lines

/-- The lines of `renumbered`, for a document. It fails if there are halves among them, as the document
could not be encoded. -/
def renumber (scheme : NameScheme) (lines : List Text) : Except RenumberFault (List Text) :=
  match scheme.renumbered lines with
  | .error fault => .error fault
  | .ok renamed =>
    match renamed.mapM Points.text? with
    | some lines => .ok lines
    | none => .error (.halves (Utf8.firstHalves (Document.documentPoints renamed)))

end NameScheme

end Externalize
