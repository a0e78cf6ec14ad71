import Externalize.Path
import Externalize.Text.Quoted

/-!
# `Externalize.Source.Kind`: the two kinds of source files

Program code and markup hold their strings in different places. The extension of a file, in any
letter case, tells its kind.
-/

set_option autoImplicit false

namespace Externalize

/-- A kind of source file. -/
inductive Kind
  | code
  | markup
  deriving Repr, DecidableEq

namespace Kind

/-- The name of a kind. -/
def label : Kind → String
  | .code => "code"
  | .markup => "markup"

/-- The kind whose `label` it is. -/
def ofLabel? (label : Text) : Option Kind :=
  if label = "code".toList then some .code
  else if label = "markup".toList then some .markup
  else none

/-- The kind of the files with that extension, in any letter case. -/
def ofExtension? (extension : Text) : Option Kind :=
  if extension.map Char.toLower = ".java".toList then some .code
  else if extension.map Char.toLower = ".xml".toList then some .markup
  else none

end Kind

/-- The kind of the file by its `extension`, if it is a source file. -/
def Path.kind? (path : Path) : Option Kind :=
  Kind.ofExtension? path.extension

end Externalize
