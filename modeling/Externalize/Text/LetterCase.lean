import Externalize.Text.Basic

/-!
# `Externalize.Text.LetterCase`: upper and lower case of words in ASCII

`upper` and `lower` change the letter case of a text as far as letters of ASCII come out of it. Some
characters outside ASCII count too: the sharp `s`, the dotless `i`, the long `s` and the ligatures of
`f` and of `s` have upper cases in ASCII, and the kelvin sign has its lower case there.
-/

set_option autoImplicit false

namespace Externalize

/-- The characters outside ASCII whose upper case is in ASCII. -/
def asciiUpperCases : List (Char × String) :=
  [('ß', "SS"), ('ı', "I"), ('ſ', "S"), ('ﬀ', "FF"), ('ﬁ', "FI"), ('ﬂ', "FL"), ('ﬃ', "FFI"),
    ('ﬄ', "FFL"), ('ﬅ', "ST"), ('ﬆ', "ST")]

/-- The upper case of a character; one whose upper case is not in ASCII stays as it is. -/
def upperOf (c : Char) : Text :=
  match asciiUpperCases.lookup c with
  | some letters => letters.toList
  | none => [c.toUpper]

/-- The lower case of a character; one whose lower case is not in ASCII stays as it is. -/
def lowerOf (c : Char) : Char :=
  if c = 'K' then 'k' else c.toLower

namespace Text

/-- The text with `upperOf` each character. -/
def upper (text : Text) : Text :=
  text.flatMap upperOf

/-- The text with `lowerOf` each character. -/
def lower (text : Text) : Text :=
  text.map lowerOf

end Text

end Externalize
