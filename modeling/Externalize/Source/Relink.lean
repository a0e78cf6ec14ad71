import Externalize.Source.Scan

/-!
# `Externalize.Source.Relink`: references in the place of literals

The entries of a scan are taken in order, and every occurrence of the literal of an entry gives way
to its reference. In markup the reference keeps the quotes of the value.
-/

set_option autoImplicit false

namespace Externalize

/-- What takes the place of the `raw` of an entry: its `reference`, in markup between quotes. -/
def Entry.link (kind : Kind) (entry : Entry) : Text :=
  match kind with
  | .code => entry.reference
  | .markup => '"' :: entry.reference ++ ['"']

/-- The text with `link` in the place of `raw` everywhere, for one entry after the other. -/
def relink (kind : Kind) (entries : List Entry) (text : Text) : Text :=
  entries.foldl (fun text entry => Text.replaceAll entry.raw (entry.link kind) text) text

end Externalize
