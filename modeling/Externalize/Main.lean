import Externalize.CommandLine.Run
import Std.Time

/-!
# `Externalize.Main`: the program

The files that a run can touch are read into a disk, the run is done on that disk, and the files that
it changed are written back. A folder is searched among the files whose paths stand on the standard
input, one on a line, so that whoever calls the program decides which files it may touch.
-/

set_option autoImplicit false

namespace Externalize.CommandLine

/-- The paths that extraction from a file can touch. -/
def pathsAround (path : Path) : List Path :=
  [path, path.parent.child Accessor.fileName, path.parent.child Job.batchTargetName] ++
    (path.extend? Job.backupEnding).toList ++ (path.extend? Job.targetEnding).toList

/-- The paths that a run can touch, if the files `below` its folder are these. -/
def pathsTouched (settings : Settings) (below : List Path) : List Path :=
  settings.folder.toList ++ settings.options.target.toList ++
    (settings.file.toList ++ below).flatMap pathsAround

/-- The full path of a location. -/
def fullPath (location : Location) : String :=
  toString { anchor := .top, names := location : Path }

/-- What stands at a location of the machine. -/
def nodeAt? (location : Location) : IO (Option Node) := do
  try
    return some (.file (← IO.FS.readBinFile (fullPath location)).toList)
  catch
    | .inappropriateType .. => return some .folder
    | _ => return none

/-- The disk with what stands along a path of the machine, by `nodeAt?`. -/
def load (disk : Disk) (path : Path) : IO Disk := do
  let mut loaded := disk
  let mut location := disk.start path
  for name in path.names do
    if name = Disk.parentName then
      location := location.dropLast
    else
      let above := loaded.get? location
      location := location ++ [name]
      if above = some .folder && (loaded.get? location).isNone then
        if let some node ← nodeAt? location then
          loaded := loaded.set location node
  return loaded

/-- Writes the files that differ between `before` and `after` to the machine. -/
def save (before after : Disk) : IO Unit := do
  for (location, node) in after.nodes do
    if let .file octets := node then
      if before.get? location ≠ some node then
        IO.FS.writeBinFile (fullPath location) ⟨octets.toArray⟩
  for (location, _) in before.nodes do
    if (after.get? location).isNone then
      IO.FS.removeFile (fullPath location)

/-- The lines of the standard input up to its end. -/
partial def remainingLines (input : IO.FS.Stream) : IO (List Text) := do
  let line ← input.getLine
  if line.isEmpty then return []
  return line.toList.filter (· ≠ '\n') :: (← remainingLines input)

/-- Puts the open question to whoever sits at the terminal, by `ask`: what was printed, and what was
typed. -/
def converse (arguments : Arguments) (input : IO.FS.Stream) : IO (String × Option Text) := do
  if !(← input.isTty) then return ("", none)
  match ask arguments (some []) with
  | (_, .ok _) => return ("", some [])
  | (question, .error _) =>
    IO.print question
    (← IO.getStdout).flush
    let line ← input.getLine
    return (question, some line.toList)

/-- The disk of the working folder with all `pathsTouched`. -/
def diskFor (arguments : Arguments) (typed : Option Text) (input : IO.FS.Stream) : IO Disk := do
  let home := Path.ofText (toString (← IO.currentDir)).toList
  let disk : Disk := { nodes := [], home := home.names }
  let disk := disk.put home.names .folder
  match ask arguments typed with
  | (_, .error _) => return disk
  | (_, .ok answer) =>
    let settings := arguments.settings.settle answer
    let below ← if settings.recursive then remainingLines input else pure []
    (pathsTouched settings (below.map Path.ofText)).foldlM load disk

/-- Prints how a run ended, less what was already printed, and gives its exit code. -/
def finish (ending : Ending) (printed : String) : IO UInt32 := do
  IO.print (ending.out.drop printed.length)
  IO.eprint ending.err
  match ending.exit with
  | .ok code => return code.toUInt32
  | .error fault =>
    IO.eprintln fault.message
    return 1

/-- `CommandLine.run` on the machine. -/
def runHere (texts : List Text) : IO UInt32 := do
  let time := (← Std.Time.PlainDateTime.now).format "uuuu-MM-dd HH:mm:ss,SSS"
  match Invocation.ofArguments texts with
  | .run arguments =>
    let input ← IO.getStdin
    let (printed, typed) ← converse arguments input
    let disk ← diskFor arguments typed input
    let started ← IO.monoMsNow
    let (_, after) := run { time, milliseconds := "" } texts typed { disk }
    save disk after.disk
    let milliseconds := toString ((← IO.monoMsNow) - started)
    finish (run { time, milliseconds } texts typed { disk }).1 printed
  | _ => finish (run { time, milliseconds := "" } texts none { disk := ⟨[], []⟩ }).1 ""

end Externalize.CommandLine

/-- The program. -/
def main (texts : List String) : IO UInt32 :=
  Externalize.CommandLine.runHere (texts.map String.toList)
