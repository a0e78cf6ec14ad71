import Externalize.Batch.Temporary

/-!
# `Externalize.Batch.Merge`: one resource file out of many

The entries of the temporary files are put together in order, get the names from one on, and make the
target. The temporary files are deleted on the way.
-/

set_option autoImplicit false

namespace Externalize.Job

/-- The `Document.entryLines` of a temporary file that begin with `Document.entryStart`. The file is
deleted. One that is not there or cannot be read has none. -/
def gather (path : Path) : Job (List Text) := do
  if !(← pathExists path) then return []
  let read : Job (Option Text) :=
    tryCatch (some <$> readLines path) fun
      | .interruption cause => do
        record .error .folder s!"unable to read the temp file: {path} ({cause.message})"
        return none
      | fault => throw fault
  match ← read with
  | none => return []
  | some text =>
    onRefusal (remove path) fun fault =>
      record .warning .folder s!"unable to delete the temp file: {path} ({fault.message})"
    return (Document.entryLines text).filter Document.entryStart.isPrefixOf

/-- Merges `temporaries` into `target`: `gather` each, `renumber` all the lines, `writeDocument`. Gives
the number of the lines. -/
def merge (scheme : NameScheme) (temporaries : List Path) (target : Path) : Job Nat := do
  let gathered ← temporaries.mapM gather
  match scheme.renumber gathered.flatten with
  | .error fault => throw fault.toFault
  | .ok lines =>
    onRefusal (writeDocument target lines) fun fault =>
      throw (.problem (.interrupted (.disk fault)))
    return lines.length

end Externalize.Job
