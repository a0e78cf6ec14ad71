import Externalize.Text.Basic

/-!
# `Externalize.Text.Caseless`: keywords in any letter case

A keyword is written in lower case. Each of its letters is met by the letter in either case, and by
the few characters outside ASCII that Unicode folds to the same letter: the dotted and the dotless
form of `i`, the long `s` and the kelvin sign.
-/

set_option autoImplicit false

namespace Externalize

/-- Whether `c` is read as the lower-case `letter` when letter case does not count. -/
def foldsTo (letter c : Char) : Bool :=
  c.toLower == letter ||
    (letter == 'i' && (c == 'İ' || c == 'ı')) ||
    (letter == 's' && c == 'ſ') ||
    (letter == 'k' && c == 'K')

namespace Text

/-- What follows the keyword at the head of the text, with `foldsTo` for each letter. -/
def dropKeyword? : Text → Text → Option Text
  | [], text => some text
  | _ :: _, [] => none
  | letter :: keyword, c :: rest => if foldsTo letter c then dropKeyword? keyword rest else none

end Text

end Externalize
