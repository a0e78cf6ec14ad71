import Externalize.Job
import Externalize.Source.Accessor

/-!
# `Externalize.Source.Store`: source files on the disk

A source file can be moved to a backup beside it before it is written anew, and the accessor class is
written into the folder of the source that needs it.
-/

set_option autoImplicit false

namespace Externalize.Job

/-- What the name of a backup ends with. -/
def backupEnding : Text := ".backup".toList

/-- `writeText` for a source, after `move` of the old one to its backup if that is asked for. -/
def writeSource (path : Path) (text : Text) (backup : Bool) : Job Unit := do
  if backup then
    let aside ← extend path backupEnding
    move path aside
    record .info .sources s!"backed up {path} -> {aside}"
  writeText path text

/-- Writes `Accessor.source` of the text as `Accessor.fileName` into a folder. -/
def writeAccessor (folder : Path) (text : Text) : Job Path := do
  let path := folder.child Accessor.fileName
  writeText path (Accessor.source text)
  record .info .sources s!"wrote accessor class {path}"
  return path

end Externalize.Job
