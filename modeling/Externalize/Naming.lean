import Externalize.Source.Kind
import Externalize.Template.Fill

/-!
# `Externalize.Naming`: names of resources and references to them

A resource is named by a running count. The count fills the ending template and the result fills the
stem template, so that the stem `app_str` and the ending `_v1` name the fifth resource `app_str_v15`.
A template that does not end with a placeholder gets one.

A name may come out with halves of pairs in it. No file can hold such a name, but that is for those
who write it to find out.

A scheme is checked when it is built, by naming the count zero: `NameScheme.build` gives no scheme
whose templates can never be filled.
-/

set_option autoImplicit false

namespace Externalize

/-- The place in a template where the value goes. -/
def placeholder : Points := Points.ofText "%s".toList

/-- The template, or `fallback` if there is none; a placeholder is added at the end if there is none
at that place. -/
def completeTemplate (template : Option Points) (fallback : Points) : Points :=
  match template with
  | none => fallback
  | some template => if placeholder.isSuffixOf template then template else template ++ placeholder

/-- The templates of a name, and whether code reaches its strings through the accessor class. -/
structure NameScheme where
  stem : Points
  ending : Points
  accessor : Bool
  deriving Repr, DecidableEq

/-- Why `NameScheme.name` fails. -/
inductive NameFault
  /-- The templates do not fit together. -/
  | badTemplates (stem ending : Points) (cause : Template.Mismatch)
  /-- The templates fit, but the count is out of reach. -/
  | outOfReach (o : Template.Overflow)
  deriving Repr, DecidableEq

/-- What is said about templates that do not fit together. -/
def badTemplatesMessage (stem ending : Points) : String :=
  let quotedStem := String.ofList stem.quote
  let quotedEnding := String.ofList ending.quote
  s!"invalid name template prefix={quotedStem} suffix={quotedEnding}"

namespace NameScheme

/-- The `stem` if none is given. -/
def defaultStem : Points := Points.ofText "extracted_string%s".toList

/-- The `ending` if none is given. -/
def defaultEnding : Points := placeholder

/-- The name of the resource with that count: `Template.fill` of `scheme.ending` with the count, and of
`scheme.stem` with the result. -/
def name (scheme : NameScheme) (count : Int) : Except NameFault Points :=
  let filled := (Template.fill scheme.ending (.number count)).bind fun ending =>
    Template.fill scheme.stem (.text ending)
  match filled with
  | .ok name => .ok name
  | .error (.mismatch m) => .error (.badTemplates scheme.stem scheme.ending m)
  | .error (.overflow o) => .error (.outOfReach o)

/-- The scheme of the templates after `completeTemplate`. It must be able to `name` the count zero. -/
def build (stem ending : Option Points) (accessor : Bool) : Except NameFault NameScheme :=
  let scheme : NameScheme :=
    { stem := completeTemplate stem defaultStem
      ending := completeTemplate ending defaultEnding
      accessor }
  (scheme.name 0).map fun _ => scheme

/-- What stands in a source of that kind in the place of the resource. It is a text, so halves of pairs
in the name are shown as `Point.replacement`. No source gets such a reference: `Job.store` refuses an
entry whose name has halves, and it comes before `Job.relinkSource`. -/
def reference (scheme : NameScheme) (kind : Kind) (name : Points) : Text :=
  match kind with
  | .markup => "@string/".toList ++ name.shown
  | .code =>
    let call := if scheme.accessor then "ExtractedString.getString(" else "getResources().getString("
    call.toList ++ "R.string.".toList ++ name.shown ++ [')']

end NameScheme

end Externalize
