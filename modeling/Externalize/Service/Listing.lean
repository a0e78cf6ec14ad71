import Externalize.Text.Blank
import Externalize.Text.LetterCase

/-!
# `Externalize.Service.Listing`: headers that list words

A header may list words with commas between them. Spaces and tabulators around a word do not belong to
it. In a listing that knows quotation marks, a comma between marks is text, a reverse solidus between
marks lets the next character stand for itself, and marks around a whole word do not belong to it. Such a
listing is worth nothing if a mark is left open.
-/

set_option autoImplicit false

namespace Externalize.Service

/-- Where a reader of a listing stands. -/
inductive Quotation
  | outside
  | inside
  /-- Inside, right behind a reverse solidus. -/
  | escaped
  deriving Repr, DecidableEq

namespace Listing

/-- The text without the spaces and tabulators at its two ends. -/
def trim (text : Text) : Text :=
  text.stripWhere fun c => c == ' ' || c == '\t'

/-- Puts a character before the first item. -/
def extendFirst (c : Char) : List Text → List Text
  | [] => [[c]]
  | item :: items => (c :: item) :: items

/-- Cuts a listing at the commas outside quotation marks. It is `none` if a mark is left open. -/
def cut? : Quotation → Text → Option (List Text)
  | .outside, [] => some [[]]
  | .inside, [] | .escaped, [] => none
  | .outside, c :: rest =>
    if c = ',' then (cut? .outside rest).map ([] :: ·)
    else (cut? (if c = '"' then .inside else .outside) rest).map (extendFirst c)
  | .inside, c :: rest =>
    if c = '\\' then cut? .escaped rest
    else (cut? (if c = '"' then .outside else .inside) rest).map (extendFirst c)
  | .escaped, c :: rest => (cut? .inside rest).map (extendFirst c)

/-- An item without the quotation marks around it. -/
def unwrap (item : Text) : Text :=
  if 2 ≤ item.length && item.head? == some '"' && item.getLast? == some '"' then
    (item.drop 1).dropLast
  else item

/-- The words of a listing in which quotation marks are text, by `trim` and in lower case. -/
def plainWords (value : Text) : List Text :=
  (value.lower.splitOn ',').map trim

/-- The words that `cut?` gives of a listing that knows quotation marks, by `unwrap` and in lower case. -/
def words (value : Text) : List Text :=
  ((cut? .outside value).getD []).map fun item => (unwrap (trim item)).lower

end Listing

end Externalize.Service
