import Externalize.Json.Basic
import Externalize.Text.Digit
import Externalize.Text.Encoding

/-!
# `Externalize.Json.Reader`: reading JSON

The reader takes standard JSON and, beside it, the three words for infinities and for what is no
number. If an object has a key twice, the later value counts. Reading stops at the first thing out of
place, nothing but blanks may follow the value, and arrays and objects are nested only so deep.
-/

set_option autoImplicit false

namespace Externalize.Json

/-- What can hold other values. -/
inductive Container
  | array
  | object
  deriving Repr, DecidableEq

/-- Why a text is not read. -/
inductive Fault
  | malformed
  /-- A container stands inside too many others. -/
  | tooDeep (container : Container)
  deriving Repr, DecidableEq

/-- What was read at the head of a text, and what follows it. -/
abbrev Taken (α : Type) := Except Fault (α × Points)

/-- How many arrays and objects may stand inside each other. -/
def maxDepth : Nat := 976

/-- The blanks of JSON. -/
def isJsonBlank : Point → Bool
  | .char c => c == ' ' || c == '\t' || c == '\n' || c == '\r'
  | .half _ => false

/-- The text from its first code point on that is not `isJsonBlank`. -/
def skipBlanks (text : Points) : Points :=
  text.dropWhile isJsonBlank

/-! ### Strings -/

/-- The number that four hexadecimal digits spell. -/
def unit? (a b c d : Char) : Option Nat := do
  return 4096 * (← hexValue? a) + 256 * (← hexValue? b) + 16 * (← hexValue? c) + (← hexValue? d)

/-- What a letter behind a backslash stands for. -/
def escaped? : Char → Option Char
  | '"' => some '"'
  | '\\' => some '\\'
  | '/' => some '/'
  | 'b' => some '\x08'
  | 'f' => some '\x0c'
  | 'n' => some '\n'
  | 'r' => some '\r'
  | 't' => some '\t'
  | _ => none

/-- Code points read so far, latest first, with half of a pair that awaits its other half. -/
structure Gathered where
  done : Points := []
  half : Option Nat := none

namespace Gathered

/-- The code points that are `done`, with a `half` that no other half came for. -/
def flush (g : Gathered) : Points :=
  match g.half with
  | none => g.done
  | some n => .half n :: g.done

/-- Takes a code point, after `flush`. -/
def push (g : Gathered) (p : Point) : Gathered :=
  { done := p :: g.flush }

/-- Takes a sixteen-bit unit, which may be the other half for `half`. -/
def pushUnit (g : Gathered) (n : Nat) : Gathered :=
  if Point.isFirstHalf n then { done := g.flush, half := some n }
  else
    match g.half, Point.isSecondHalf n with
    | some first, true => { done := .ofHalves first n :: g.done }
    | _, _ => g.push (.ofNumber n)

end Gathered

/-- The string whose opening quote has been read. -/
def stringFrom : Gathered → Points → Taken Points
  | _, [] => .error .malformed
  | g, .char '"' :: rest => .ok (g.flush.reverse, rest)
  | g, .char '\\' :: .char 'u' :: .char a :: .char b :: .char c :: .char d :: rest =>
    match unit? a b c d with
    | some n => stringFrom (g.pushUnit n) rest
    | none => .error .malformed
  | g, .char '\\' :: p :: rest =>
    match escaped? p.shown with
    | some c => stringFrom (g.push (.char c)) rest
    | none => .error .malformed
  | g, p :: rest => if p.number < 0x20 then .error .malformed else stringFrom (g.push p) rest

/-! ### Numbers -/

/-- Whether a code point is a digit of ASCII. -/
def isJsonDigit : Point → Bool
  | .char c => c.isDigit
  | .half _ => false

/-- The code points with `isJsonDigit` at the head of the text, and what follows them. -/
def digitsOf (text : Points) : Points × Points :=
  (text.takeWhile isJsonDigit, text.dropWhile isJsonDigit)

/-- The number that digits spell. -/
def numberOf (digits : Points) : Nat :=
  digits.foldl (fun n p => 10 * n + (p.number - '0'.toNat)) 0

/-- The `digitsOf` what is behind a point, if a point with digits follows. -/
def fractionOf (text : Points) : Option (Points × Points) :=
  match text with
  | .char '.' :: rest =>
    let (digits, rest) := digitsOf rest
    if digits.isEmpty then none else some (digits, rest)
  | _ => none

/-- The exponent, if one follows. -/
def exponentOf (text : Points) : Option (Int × Points) :=
  match text with
  | p :: rest =>
    if p = .char 'e' ∨ p = .char 'E' then
      let (negative, rest) := match rest with
        | .char '-' :: rest => (true, rest)
        | .char '+' :: rest => (false, rest)
        | rest => (false, rest)
      let (digits, rest) := digitsOf rest
      if digits.isEmpty then none
      else some (if negative then -(numberOf digits : Int) else numberOf digits, rest)
    else none
  | [] => none

/-- The number at the head of the text without its sign. A whole number has no superfluous zeros and
not more digits than a numeral may have. -/
def unsigned (negative : Bool) (text : Points) : Taken Json :=
  let (whole, rest) := match text with
    | .char '0' :: rest => ([Point.char '0'], rest)
    | _ => digitsOf text
  let sign (n : Nat) : Int := if negative then -(n : Int) else n
  if whole.isEmpty then .error .malformed
  else
    match fractionOf rest with
    | some (fraction, rest) =>
      let digits := sign (numberOf (whole ++ fraction))
      match exponentOf rest with
      | some (exponent, rest) => .ok (.real digits (exponent - fraction.length), rest)
      | none => .ok (.real digits (-(fraction.length : Int)), rest)
    | none =>
      match exponentOf rest with
      | some (exponent, rest) => .ok (.real (sign (numberOf whole)) exponent, rest)
      | none =>
        if whole.length ≤ Text.maxDigits then .ok (.integer (sign (numberOf whole)), rest)
        else .error .malformed

/-- What follows the `word` at the head of the text. -/
def dropWord? (word : String) (text : Points) : Option Points :=
  if (Points.ofText word.toList).isPrefixOf text then some (text.drop word.length) else none

/-- The words that stand for values. -/
def words : List (String × Json) :=
  [("null", .null), ("true", .bool true), ("false", .bool false), ("NaN", .nonFinite),
    ("Infinity", .nonFinite), ("-Infinity", .nonFinite)]

/-- One of the `words` or a number at the head of the text. -/
def scalar (text : Points) : Taken Json :=
  match words.findSome? fun (word, value) => (dropWord? word text).map fun rest => (value, rest) with
  | some found => .ok found
  | none =>
    match text with
    | .char '-' :: rest => unsigned true rest
    | _ => unsigned false text

/-! ### Values -/

/-- The fields with a further one; an earlier one with the same `key` is gone. -/
def addField (fields : List (Text × Json)) (key : Text) (value : Json) : List (Text × Json) :=
  (fields.filter fun field => field.1 != key) ++ [(key, value)]

mutual

/-- The value at the head of the text, with `room` for so many containers inside each other. -/
def valueFrom (room : Nat) : Nat → Points → Taken Json
  | 0, _ => .error .malformed
  | fuel + 1, text =>
    match text with
    | .char '"' :: rest =>
      match stringFrom {} rest with
      | .ok (t, rest) => .ok (.string t, rest)
      | .error fault => .error fault
    | .char '[' :: rest =>
      match room, skipBlanks rest with
      | 0, _ => .error (.tooDeep .array)
      | _, .char ']' :: rest => .ok (.array [], rest)
      | room + 1, rest => itemsFrom room fuel [] rest
    | .char '\x7b' :: rest =>
      match room, skipBlanks rest with
      | 0, _ => .error (.tooDeep .object)
      | _, .char '\x7d' :: rest => .ok (.object [], rest)
      | room + 1, rest => fieldsFrom room fuel [] rest
    | text => scalar text

/-- The array whose items so far are given, latest first, and of which another item follows. -/
def itemsFrom (room : Nat) : Nat → List Json → Points → Taken Json
  | 0, _, _ => .error .malformed
  | fuel + 1, items, text =>
    match valueFrom room fuel text with
    | .error fault => .error fault
    | .ok (item, rest) =>
      match skipBlanks rest with
      | .char ']' :: rest => .ok (.array (item :: items).reverse, rest)
      | .char ',' :: rest => itemsFrom room fuel (item :: items) (skipBlanks rest)
      | _ => .error .malformed

/-- The object whose fields so far are given and of which another field follows. -/
def fieldsFrom (room : Nat) : Nat → List (Text × Json) → Points → Taken Json
  | 0, _, _ => .error .malformed
  | fuel + 1, fields, text =>
    match text with
    | .char '"' :: rest =>
      match stringFrom {} rest with
      | .error fault => .error fault
      | .ok (key, rest) =>
        match skipBlanks rest with
        | .char ':' :: rest =>
          match valueFrom room fuel (skipBlanks rest) with
          | .error fault => .error fault
          | .ok (value, rest) =>
            let fields := addField fields key.shown value
            match skipBlanks rest with
            | .char '\x7d' :: rest => .ok (.object fields, rest)
            | .char ',' :: rest => fieldsFrom room fuel fields (skipBlanks rest)
            | _ => .error .malformed
        | _ => .error .malformed
    | _ => .error .malformed

end

/-- The JSON value that a text spells: `valueFrom` its beginning. Every step of the reader takes a
character, so twice the length of the text is enough for it. -/
def parse (text : Points) : Except Fault Json :=
  match valueFrom maxDepth (2 * text.length + 2) (skipBlanks text) with
  | .error fault => .error fault
  | .ok (value, rest) => if (skipBlanks rest).isEmpty then .ok value else .error .malformed

/-- The octets without the mark that they are UTF-8. -/
def withoutMark : Octets → Octets
  | 0xEF :: 0xBB :: 0xBF :: rest => rest
  | octets => octets

/-- The JSON value of a message: `parse` of the text in the encoding that `Encoding.detect` finds. -/
def ofMessage (octets : Octets) : Except Fault Json :=
  match (Encoding.detect octets).decode? (withoutMark octets) with
  | some text => parse text
  | none => .error .malformed

end Externalize.Json
