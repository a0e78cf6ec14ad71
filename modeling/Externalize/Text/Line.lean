import Externalize.Text.Basic

/-!
# `Externalize.Text.Line`: line breaks

Two different notions of a line are used. `lines` cuts a text at every character that Unicode or
common practice takes for a line break, and `unifyBreaks` only turns the three usual line ends into
a line feed.
-/

set_option autoImplicit false

namespace Externalize

/-- Characters that end a line of a resource document. -/
def isLineBreak (c : Char) : Bool :=
  let n := c.toNat
  (0x0A ≤ n && n ≤ 0x0D) || (0x1C ≤ n && n ≤ 0x1E) || n == 0x85 || n == 0x2028 || n == 0x2029

namespace Text

/-- The loop of `lines`: `current` is the line under way and `done` the lines before it, both latest
first. -/
def linesFrom : Text → Text → List Text → List Text
  | [], current, done => (if current.isEmpty then done else current.reverse :: done).reverse
  | '\r' :: '\n' :: rest, current, done => linesFrom rest [] (current.reverse :: done)
  | c :: rest, current, done =>
    if isLineBreak c then linesFrom rest [] (current.reverse :: done)
    else linesFrom rest (c :: current) done

/-- The lines of the text without their breaks, cut at each `isLineBreak`. A carriage return and a line
feed make one break, and nothing follows a break at the very end. -/
def lines (text : Text) : List Text :=
  linesFrom text [] []

/-- The loop of `unifyBreaks`, with what is done so far, latest first. -/
def unifyBreaksFrom : Text → Text → Text
  | [], done => done.reverse
  | '\r' :: '\n' :: rest, done => unifyBreaksFrom rest ('\n' :: done)
  | '\r' :: rest, done => unifyBreaksFrom rest ('\n' :: done)
  | c :: rest, done => unifyBreaksFrom rest (c :: done)

/-- The text with each carriage return, alone or with the line feed behind it, turned into one line
feed. -/
def unifyBreaks (text : Text) : Text :=
  unifyBreaksFrom text []

end Text

end Externalize
