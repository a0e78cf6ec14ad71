import Externalize.Disk.Access
import Externalize.Naming
import Externalize.Resource.Renumber

/-!
# `Externalize.Fault`: what can go wrong

Three circles of trouble are told apart. An `Interruption` comes from outside: the disk refuses an
operation, a file holds no text, or no file can hold a text. A `Problem` is what an extraction reports
instead of a result. A `Fault` is anything that ends an operation early; of those, a problem is for
the outcome of the extraction to tell, and the others are for whoever asked.
-/

set_option autoImplicit false

namespace Externalize

/-- A `refusal` of the disk, with its `path` and, if something was to be moved, the `target` it was to
be moved to. -/
structure DiskFault where
  refusal : Refusal
  path : Path
  target : Option Path := none
  deriving Repr, DecidableEq

/-- A path between quotes. -/
def Path.quoted (path : Path) : String :=
  String.ofList path.text.quote

/-- The text that is told of a refusal and its paths. -/
def DiskFault.message (fault : DiskFault) : String :=
  let told := s!"[Errno {fault.refusal.code}] {fault.refusal.message}: {fault.path.quoted}"
  match fault.target with
  | none => told
  | some target => s!"{told} -> {target.quoted}"

/-- Trouble from outside. -/
inductive Interruption
  | disk (fault : DiskFault)
  | octets (fault : Utf8.Fault)
  /-- A text that cannot be written. -/
  | halves (fault : Utf8.Halves)
  deriving Repr, DecidableEq

/-- The text that is told of trouble from outside. -/
def Interruption.message : Interruption → String
  | .disk fault => fault.message
  | .octets fault => fault.message
  | .halves fault => fault.message

/-- What an extraction reports instead of a result. -/
inductive Problem
  /-- Reading or writing was interrupted. -/
  | interrupted (cause : Interruption)
  /-- The name templates do not fit together. -/
  | badTemplates (stem ending : Points) (cause : Template.Mismatch)
  /-- No input file was given. -/
  | noInput
  /-- The input file does not exist. -/
  | inputMissing (path : Path)
  /-- The input file is a folder. -/
  | inputIsFolder (path : Path)
  /-- The target holds something other than string resources. -/
  | notResource (target : Path)
  deriving Repr, DecidableEq

/-- The text that is told of a problem. -/
def Problem.message : Problem → String
  | .interrupted _ => "Unable to extract strings."
  | .badTemplates stem ending _ => badTemplatesMessage stem ending
  | .noInput => "input file is missing."
  | .inputMissing path => s!"input file does not exist: {path}"
  | .inputIsFolder path => s!"input file is a directory: {path}"
  | .notResource target => s!"{target} exists and is not a string resource file"

/-- The `message` of what brought a problem about, or else of the problem itself. -/
def Problem.reason : Problem → String
  | .interrupted cause => cause.message
  | .badTemplates _ _ cause => cause.message
  | problem => problem.message

/-- Anything that ends an operation early. -/
inductive Fault
  | interruption (cause : Interruption)
  | problem (problem : Problem)
  /-- A path holds the character zero, which no path on a disk can. -/
  | zeroInPath
  /-- A path without a name was to be extended. -/
  | unnamed (path : Path)
  /-- A closed file was written to. -/
  | closed
  /-- A count is out of reach of the name templates. -/
  | outOfReach (overflow : Template.Overflow)
  /-- A name is no replacement. -/
  | replacement (fault : Replacement.Fault)
  /-- A question met the end of the input. -/
  | noAnswer
  /-- A path is needed that was given without a value. -/
  | pathWithoutValue
  /-- A template is needed that was given without a value. -/
  | templateWithoutValue
  deriving Repr, DecidableEq

/-- The text that is told of a fault. -/
def Fault.message : Fault → String
  | .interruption cause => cause.message
  | .problem reported => reported.message
  | .zeroInPath => "embedded null byte"
  | .unnamed path => s!"PosixPath({path.quoted}) has an empty name"
  | .closed => "I/O operation on closed file."
  | .outOfReach overflow => overflow.message
  | .replacement fault => fault.message
  | .noAnswer => "EOF when reading a line"
  | .pathWithoutValue => "expected str, bytes or os.PathLike object, not list"
  | .templateWithoutValue => "'list' object has no attribute 'endswith'"

/-- A `NameFault` as a `Fault`: `badTemplates` are a problem, and a count out of reach is not. -/
def NameFault.toFault : NameFault → Fault
  | .badTemplates stem ending cause => .problem (.badTemplates stem ending cause)
  | .outOfReach overflow => .outOfReach overflow

/-- A `RenumberFault` as a `Fault`. -/
def RenumberFault.toFault : RenumberFault → Fault
  | .halves fault => .interruption (.halves fault)
  | .naming fault => fault.toFault
  | .replacement fault => .replacement fault

end Externalize
