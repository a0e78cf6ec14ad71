import Externalize.Fault
import Externalize.Journal
import Externalize.Text.Line

/-!
# `Externalize.Job`: operations on a workspace

A workspace is a disk and a journal. A job is an operation on a workspace that may end early with a
fault; what it did before stays done. The jobs here are the single steps that everything else is made
of: asking what stands at a path, and reading, writing, moving and deleting one file.
-/

set_option autoImplicit false

namespace Externalize

/-- A `disk` together with the `journal` of the run. -/
structure Workspace where
  disk : Disk
  journal : Journal := #[]
  deriving Repr, DecidableEq

/-- An operation on a `Workspace`, which gives a result or ends with a `Fault`. -/
abbrev Job := ExceptT Fault (StateM Workspace)

namespace Job

/-- Adds a record to the `journal`. -/
def record (level : Level) (origin : Origin) (message : String) : Job Unit :=
  modify fun space => { space with journal := space.journal.push { level, origin, message } }

/-- The `disk` as it is now. -/
def disk : Job Disk := do
  return (← get).disk

/-- Refuses a path with a zero character, which cannot stand on a disk. -/
def checkPath (path : Path) : Job Unit :=
  if path.names.any (·.contains '\x00') then throw .zeroInPath else pure ()

/-- What `ask` says about the disk. A refusal is told under `path`. -/
def look {α : Type} (path : Path) (ask : Disk → Except Refusal α) : Job α := do
  checkPath path
  match ask (← disk) with
  | .ok answer => return answer
  | .error refusal => throw (.interruption (.disk { refusal, path }))

/-- Replaces the disk by what `act` makes of it. A refusal is told under `path` and `target`. -/
def change (path : Path) (target : Option Path) (act : Disk → Except Refusal Disk) : Job Unit := do
  match act (← disk) with
  | .ok disk => modify fun space => { space with disk }
  | .error refusal => throw (.interruption (.disk { refusal, path, target }))

/-- The node that `Disk.find` finds. Nothing stands at a path that is `missing` or leads through a file,
but a name that is too long is a fault. -/
def node? (path : Path) : Job (Option Node) := do
  if path.names.any (·.contains '\x00') then return none
  match (← disk).find path with
  | .ok (_, node) => return some node
  | .error .missing | .error .notFolder => return none
  | .error refusal => throw (.interruption (.disk { refusal, path }))

/-- Whether `node?` is something. -/
def pathExists (path : Path) : Job Bool := do
  return (← node? path).isSome

/-- Whether `node?` is a file. -/
def isFile (path : Path) : Job Bool := do
  match ← node? path with
  | some (.file _) => return true
  | _ => return false

/-- Whether `node?` is a folder. -/
def isFolder (path : Path) : Job Bool := do
  return (← node? path) = some .folder

/-- `Disk.read` as a job. -/
def readOctets (path : Path) : Job Octets :=
  look path (·.read path)

/-- The text that `Utf8.decode` makes of a file, as it is. -/
def readText (path : Path) : Job Text := do
  match Utf8.decode (← readOctets path) with
  | .ok text => return text
  | .error fault => throw (.interruption (.octets fault))

/-- `readText` with `Text.unifyBreaks`. -/
def readLines (path : Path) : Job Text := do
  return Text.unifyBreaks (← readText path)

/-- `Disk.write` as a job. -/
def writeOctets (path : Path) (octets : Octets) : Job Unit := do
  checkPath path
  change path none (·.write path octets)

/-- `writeOctets` of the text in UTF-8. -/
def writeText (path : Path) (text : Text) : Job Unit :=
  writeOctets path (Utf8.encode text)

/-- `Disk.append` as a job. -/
def appendOctets (path : Path) (octets : Octets) : Job Unit := do
  checkPath path
  change path none (·.append path octets)

/-- `Disk.remove` as a job. -/
def remove (path : Path) : Job Unit := do
  checkPath path
  change path none (·.remove path)

/-- `Disk.move` as a job. -/
def move (path target : Path) : Job Unit := do
  checkPath path
  checkPath target
  change path (some target) (·.move path target)

/-- `Path.extend?` as a job. -/
def extend (path : Path) (more : Text) : Job Path :=
  match path.extend? more with
  | some longer => return longer
  | none => throw (.unnamed path)

/-- Runs a job; if the disk refuses something, `handle` goes on. -/
def onRefusal {α : Type} (job : Job α) (handle : DiskFault → Job α) : Job α :=
  tryCatch job fun
    | .interruption (.disk fault) => handle fault
    | fault => throw fault

/-- Runs a job; an `interruption` that it ends with becomes an `interrupted` problem. -/
def reported {α : Type} (job : Job α) : Job α :=
  tryCatch job fun
    | .interruption cause => throw (.problem (.interrupted cause))
    | fault => throw fault

end Job

end Externalize
