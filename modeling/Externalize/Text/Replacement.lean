import Externalize.Text.Digit
import Externalize.Text.Identifier
import Externalize.Text.Quoted

/-!
# `Externalize.Text.Replacement`: what is put in the place of a match

A replacement is written as a text in which a backslash has a meaning: a letter behind it stands for a
control character, octal digits for the character with that number, and a group reference, by number
or by name, for a part of the match. The matches here have no parts of their own, so the only group
is number zero, the whole match. Anything else that a backslash asks for is a fault, which says where
in the text it was met. Halves of pairs have no meaning of their own and stay where they are.
-/

set_option autoImplicit false

namespace Externalize.Replacement

/-- A part of a replacement, as `parts` reads it. -/
inductive Part
  | point (p : Point)
  /-- The match itself. -/
  | whole
  deriving Repr, DecidableEq

/-- What is wrong at some place of a replacement. -/
inductive Issue
  /-- A group reference without its opening bracket. -/
  | missingBracket
  /-- A group reference without a name. -/
  | missingName
  /-- A group reference without its closing bracket. -/
  | unterminatedName
  /-- A group name that is neither an identifier nor a number. -/
  | badName (name : Points)
  /-- A group that the match does not have. -/
  | badGroup (group : Nat)
  /-- An octal number past the last one allowed. -/
  | octalRange (digits : Text)
  /-- A letter that means nothing behind a backslash. -/
  | badEscape (c : Char)
  /-- A backslash with nothing behind it. -/
  | dangling
  deriving Repr, DecidableEq

/-- Why `parts` fails. -/
inductive Fault
  /-- Something is wrong at a position of the text. -/
  | malformed (issue : Issue) (position : Nat) (text : Points)
  /-- A group is asked for by a name that no group has. -/
  | unknownGroup (name : Text)
  deriving Repr, DecidableEq

/-- The mark before everything that has a meaning. -/
def backslash : Point := .char '\\'

/-- A code point, with the backslash before it if there is one. -/
inductive Token
  | plain (p : Point)
  | escaped (p : Point)
  | dangling
  deriving Repr, DecidableEq

/-- The code points that `tokens` made a token of. -/
def Token.text : Token → Points
  | .plain p => [p]
  | .escaped p => [backslash, p]
  | .dangling => [backslash]

/-- The tokens of a text: a `backslash` goes with the code point behind it. -/
def tokens : Points → List Token
  | [] => []
  | .char '\\' :: p :: rest => .escaped p :: tokens rest
  | p :: rest => (if p = backslash then .dangling else .plain p) :: tokens rest

/-- The value of an octal digit. -/
def octal? (c : Char) : Option Nat :=
  if '0' ≤ c ∧ c ≤ '7' then some (c.toNat - '0'.toNat) else none

/-- The control character that a letter stands for behind a backslash. -/
def control? : Char → Option Char
  | 'a' => some '\x07'
  | 'b' => some '\x08'
  | 'f' => some '\x0c'
  | 'n' => some '\n'
  | 'r' => some '\r'
  | 't' => some '\t'
  | 'v' => some '\x0b'
  | '\\' => some '\\'
  | _ => none

/-- A stretch of the text that could not be read, before its text is attached. -/
inductive Failure
  | at (issue : Issue) (position : Nat)
  | unknownGroup (name : Text)
  deriving Repr, DecidableEq

/-- The group of that name, which starts at `start`. -/
def group (name : Points) (start : Nat) : Except Failure Part :=
  match name.text? with
  | none => .error (.at (.badName name) start)
  | some text =>
    if text.isIdentifier then .error (.unknownGroup text)
    else
      match text.integer? with
      | some (.ofNat 0) => .ok .whole
      | some (.ofNat n) => .error (.at (.badGroup n) start)
      | _ => .error (.at (.badName name) start)

/-- A backslash with a digit other than zero, at `position`, and what follows it: three octal digits
give a character, and fewer a group that the match does not have. -/
def numbered (position : Nat) (first : Char) : List Token → Except Failure Char
  | .plain (.char second) :: rest =>
    if second.isDigit then
      let two := [first, second]
      let group := Failure.at (.badGroup ((Text.numeral? two).getD 0)) (position + 1)
      match octal? first, octal? second, rest with
      | some a, some b, .plain (.char third) :: _ =>
        match octal? third with
        | some c =>
          let n := 64 * a + 8 * b + c
          if n ≤ 0o377 then .ok (Char.ofNat n)
          else .error (.at (.octalRange [first, second, third]) position)
        | none => .error group
      | _, _, _ => .error group
    else .error (.at (.badGroup (first.toNat - '0'.toNat)) (position + 1))
  | _ => .error (.at (.badGroup (first.toNat - '0'.toNat)) (position + 1))

/-- The character of a backslash and a zero, with up to two octal digits behind it, and how many
those digits are. -/
def afterZero : List Token → Char × Nat
  | .plain (.char first) :: rest =>
    match octal? first, rest with
    | none, _ => ('\x00', 0)
    | some a, .plain (.char second) :: _ =>
      match octal? second with
      | none => (Char.ofNat a, 1)
      | some b => (Char.ofNat (8 * a + b), 2)
    | some a, _ => (Char.ofNat a, 1)
  | _ => ('\x00', 0)

/-- What a backslash and the character behind it, at `position`, stand for, and how many tokens that
follow belong to it. -/
def escapeChar (position : Nat) (c : Char) (rest : List Token) : Except Failure (List Part × Nat) :=
  if c = '0' then
    let (control, used) := afterZero rest
    .ok ([.point (.char control)], used)
  else if c.isDigit then (numbered position c rest).map fun c => ([.point (.char c)], 2)
  else
    match control? c with
    | some control => .ok ([.point (.char control)], 0)
    | none =>
      if c.isAlpha then .error (.at (.badEscape c) position)
      else .ok ([.point backslash, .point (.char c)], 0)

/-- What a backslash and the code point behind it, at `position`, stand for, and how many tokens that
follow belong to it. -/
def escape (position : Nat) (p : Point) (rest : List Token) : Except Failure (List Part × Nat) :=
  match p with
  | .char c => escapeChar position c rest
  | .half _ => .ok ([.point backslash, .point p], 0)

/-- Where the reader stands. -/
inductive Reading
  /-- Among parts. -/
  | parts
  /-- Among tokens of one character that were read ahead. -/
  | ahead (left : Nat)
  /-- Before the bracket of a group reference. -/
  | bracket
  /-- In a group name that starts at `start`; its code points so far are given latest first. -/
  | name (start : Nat) (read : Points)
  deriving Repr, DecidableEq

/-- Reads the parts from `position` on. -/
def partsFrom : Reading → Nat → List Token → Except Failure (List Part)
  | .parts, _, [] | .ahead _, _, [] => .ok []
  | .bracket, position, [] => .error (.at .missingBracket position)
  | .name start read, position, [] =>
    if read.isEmpty then .error (.at .missingName position)
    else .error (.at .unterminatedName start)
  | .ahead (left + 1), position, _ :: rest => partsFrom (.ahead left) (position + 1) rest
  | .bracket, position, token :: rest =>
    if token = .plain (.char '<') then partsFrom (.name (position + 1) []) (position + 1) rest
    else .error (.at .missingBracket position)
  | .name start read, position, token :: rest =>
    if token = .plain (.char '>') then
      if read.isEmpty then .error (.at .missingName position)
      else
        match group read.reverse start with
        | .error failure => .error failure
        | .ok part => (partsFrom .parts (position + 1) rest).map (part :: ·)
    else
      partsFrom (.name start (token.text.reverse ++ read)) (position + token.text.length) rest
  | .parts, position, token :: rest | .ahead 0, position, token :: rest =>
    match token with
    | .plain p => (partsFrom .parts (position + 1) rest).map (.point p :: ·)
    | .dangling => .error (.at .dangling position)
    | .escaped p =>
      if p = .char 'g' then partsFrom .bracket (position + 2) rest
      else
        match escape position p rest with
        | .error failure => .error failure
        | .ok (parts, used) => (partsFrom (.ahead used) (position + 2) rest).map (parts ++ ·)

/-- The parts of a replacement: `partsFrom` its beginning. -/
def parts (text : Points) : Except Fault (List Part) :=
  match partsFrom .parts 0 (tokens text) with
  | .ok parts => .ok parts
  | .error (.at issue position) => .error (.malformed issue position text)
  | .error (.unknownGroup name) => .error (.unknownGroup name)

/-- The code points that take the place of the match `found`. -/
def expand (parts : List Part) (found : Text) : Points :=
  parts.flatMap fun
    | .point p => [p]
    | .whole => ↑found

/-- The text with the leftmost match of `rule` replaced. -/
def replaceFirst (rule : Rule) (parts : List Part) (text : Text) : Points :=
  let (before, after) := (Text.segments rule text).span Segment.isPlain
  match after with
  | .hit found :: rest =>
    ↑(before.flatMap Segment.text) ++ expand parts found ++ ↑(rest.flatMap Segment.text)
  | _ => ↑text

/-- The text that is told of an issue. -/
def Issue.message : Issue → String
  | .missingBracket => "missing <"
  | .missingName => "missing group name"
  | .unterminatedName => "missing >, unterminated name"
  | .badName name => s!"bad character in group name {String.ofList name.quote}"
  | .badGroup group => s!"invalid group reference {group}"
  | .octalRange digits =>
    s!"octal escape value \\{String.ofList digits} outside of range 0-0o377"
  | .badEscape c => s!"bad escape \\{c}"
  | .dangling => "bad escape (end of pattern)"

/-- The text that is told of a fault. The line and the column are told if the text has more than one
line. -/
def Fault.message : Fault → String
  | .unknownGroup name => s!"unknown group name {String.ofList name.quote}"
  | .malformed issue position text =>
    let told := s!"{issue.message} at position {position}"
    if .char '\n' ∈ text then
      let before := text.take position
      let line := before.count (.char '\n') + 1
      let column := (before.reverse.takeWhile (· != .char '\n')).length + 1
      s!"{told} (line {line}, column {column})"
    else told

end Externalize.Replacement
