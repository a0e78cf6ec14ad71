import Externalize.Text.Digit
import Externalize.Text.Quoted

/-!
# `Externalize.CommandLine.Switch`: the switches of the command line

A switch has one or two spellings and may take a value. `read` tells what an argument is: a plain
word, a switch with or without something attached to it, or a switch that does not exist. A switch of
one letter may have more letters attached, and one of a whole word may be cut short as long as only
one is meant.
-/

set_option autoImplicit false

namespace Externalize

/-- A switch of the command line. -/
inductive Switch
  | help
  | file
  | folder
  | stem
  | ending
  | target
  | recursive
  | backup
  | accessor
  | yes
  | verbose
  deriving Repr, DecidableEq

namespace Switch

/-- All switches, in the order of the help. -/
def all : List Switch :=
  [.help, .file, .folder, .stem, .ending, .target, .recursive, .backup, .accessor, .yes, .verbose]

/-- The spellings of a switch. -/
def spellings : Switch → List String
  | .help => ["-h", "--help"]
  | .file => ["-i"]
  | .folder => ["-d"]
  | .stem => ["-p"]
  | .ending => ["-s"]
  | .target => ["-x"]
  | .recursive => ["-r"]
  | .backup => ["-b"]
  | .accessor => ["-c"]
  | .yes => ["-y", "--yes"]
  | .verbose => ["-v", "--verbose"]

/-- Whether a value belongs to the switch. -/
def takesValue : Switch → Bool
  | .file | .folder | .stem | .ending | .target => true
  | _ => false

/-- The `spellings` of a switch as messages name it. -/
def title (switch : Switch) : String :=
  "/".intercalate switch.spellings

/-- Every one of the `spellings` with its switch. -/
def table : List (Text × Switch) :=
  all.flatMap fun switch => switch.spellings.map fun spelling => (spelling.toList, switch)

/-- The switch of a spelling in the `table`. -/
def ofSpelling? (spelling : Text) : Option Switch :=
  table.lookup spelling

end Switch

/-- What an argument of the command line is. -/
inductive Argument
  /-- A plain word. -/
  | word
  /-- The two dashes behind which every argument is a plain word. -/
  | dashes
  | known (switch : Switch) (spelling : Text) (attached : Option Text)
  /-- It looks like a switch, but there is none like it. -/
  | unknown
  deriving Repr, DecidableEq

namespace Argument

/-- The text before the first equals sign, and the text behind it if there is one. -/
def atEquals (text : Text) : Text × Option Text :=
  let before := text.takeWhile (· != '=')
  match text.drop before.length with
  | _ :: after => (before, some after)
  | [] => (before, none)

/-- Whether a text looks like a negative number. -/
def isNegativeNumber : Text → Bool
  | '-' :: rest =>
    let isDigit (c : Char) : Bool := (digitValue? c).isSome
    let rest := if rest.getLast? = some '\n' then rest.dropLast else rest
    let after := rest.dropWhile isDigit
    match after with
    | [] => !rest.isEmpty
    | '.' :: fraction => !fraction.isEmpty && fraction.all isDigit
    | _ => false
  | _ => false

/-- The switches that an argument may mean, each with its full spelling and with what is attached. -/
def candidates (text : Text) : List (Switch × Text × Option Text) :=
  if "--".toList.isPrefixOf text then
    let (short, attached) := atEquals text
    (Switch.table.filter fun entry => short.isPrefixOf entry.1).map fun (spelling, switch) =>
      (switch, spelling, attached)
  else
    (Switch.table.filter fun entry => entry.1 == text.take 2).map fun (spelling, switch) =>
      (switch, spelling, some (text.drop 2))

/-- What an argument that begins with a dash is, if no switch is spelled like that: the only one of its
`candidates`. -/
def ofOther (text : Text) : Except String Argument :=
  match candidates text with
  | [(switch, spelling, attached)] => .ok (.known switch spelling attached)
  | [] =>
    if isNegativeNumber text || text.contains ' ' then .ok .word else .ok .unknown
  | several =>
    let matching := ", ".intercalate (several.map fun (_, spelling, _) => String.ofList spelling)
    .error s!"ambiguous option: {String.ofList text} could match {matching}"

/-- What an argument is. It fails if there are several `candidates`. -/
def read (text : Text) : Except String Argument :=
  if text = ['-', '-'] then .ok .dashes
  else if text.head? != some '-' then .ok .word
  else
    match Switch.ofSpelling? text, atEquals text with
    | some switch, _ => .ok (.known switch text none)
    | none, (spelling, some value) =>
      match Switch.ofSpelling? spelling with
      | some switch => .ok (.known switch spelling (some value))
      | none => ofOther text
    | none, _ => if text.length = 1 then .ok .word else ofOther text

/-- `read` for each argument. Behind two dashes all are plain words. -/
def readAll : List Text → Except String (List (Text × Argument))
  | [] => .ok []
  | text :: rest => do
    match ← read text with
    | .dashes => return (text, .dashes) :: rest.map fun text => (text, .word)
    | argument =>
      let later ← readAll rest
      return (text, argument) :: later

end Argument

end Externalize
