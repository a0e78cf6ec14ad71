import Externalize.Batch.Discovery
import Externalize.Batch.Merge
import Externalize.Batch.Outcome
import Externalize.Extraction.File

/-!
# `Externalize.Batch.Run`: extraction from a folder

Every source file below the folder is extracted in turn, and the count goes on from file to file. A
single file writes straight to its target. Of several files each writes to a temporary file beside the
target; a file that fails gives up its temporary file, so that the next one takes over its names, and
the others are merged into the target at the end.
-/

set_option autoImplicit false

namespace Externalize

/-- What `extractEach` leaves: the `outcomes` of the files, the `temporaries` to merge, and the last
`count`. -/
structure Harvest where
  outcomes : List FileOutcome
  temporaries : List Path
  count : Int
  deriving Repr, DecidableEq

/-- Whether a file with this result keeps its temporary file and its names: it was `extracted` or has
`noStrings`. -/
def FileResult.counts : FileResult → Bool
  | .extracted .. | .noStrings .. => true
  | _ => false

namespace Job

/-- The name of the default `batchTarget`. -/
def batchTargetName : Text := "extracted_strings.xml".toList

/-- The resource file of a batch: `options.target`, or `batchTargetName` beside the `first` file. -/
def batchTarget (options : Options) (first : Path) : Path :=
  options.target.getD (first.parent.child batchTargetName)

/-- `makeTemporary` for each file, with the indices from `index` on. If the disk refuses one, those that
were `made` before are discarded again. -/
def makeTemporaries (folder : Path) : Nat → List Path → List Path → Job (Except DiskFault (List Path))
  | _, [], made => return .ok made
  | index, _ :: rest, made => do
    let attempt : Job (Except DiskFault Path) :=
      onRefusal (.ok <$> makeTemporary folder index) fun fault => return .error fault
    match ← attempt with
    | .ok path => makeTemporaries folder (index + 1) rest (made ++ [path])
    | .error fault =>
      made.forM discardTemporary
      return .error fault

/-- `extractFile` for each file in turn, into its temporary file and from the `count` of the one before.
The temporary file of a file that does not `counts` is discarded, and its count is not used up. -/
def extractEach (options : Options) : Int → List (Path × Path) → Job Harvest
  | count, [] => return { outcomes := [], temporaries := [], count }
  | count, (path, temporary) :: rest => do
    record .info .folder s!"Searching strings on: {path}"
    let outcome ← extractFile { options with target := some temporary } (some path) (.shared count)
    if outcome.result.counts then
      let later ← extractEach options outcome.count rest
      return { later with
        outcomes := outcome :: later.outcomes, temporaries := temporary :: later.temporaries }
    else
      discardTemporary temporary
      let later ← extractEach options count rest
      return { later with outcomes := outcome :: later.outcomes }

/-- Records the `message` of the outcome and ends with it. -/
def concludeBatch (outcome : BatchOutcome) : Job BatchOutcome := do
  let level := match outcome.result with
    | .failed .. => Level.error
    | _ => .info
  record level .folder outcome.message
  return outcome

/-- Runs a job; a `problem` that it ends with is given as a value. -/
def attempted {α : Type} (job : Job α) : Job (Except Problem α) :=
  tryCatch (.ok <$> job) fun
    | .problem problem => return .error problem
    | fault => throw fault

/-- `extractFile` for the only file of a folder. -/
def runSingle (options : Options) (folder file : Path) : Job BatchOutcome := do
  let outcome ← extractFile options (some file) (.shared 0)
  let batch : BatchOutcome :=
    { folder, files := [file], outcomes := [outcome], result := .ofFile outcome.result }
  record .info .folder batch.message
  return batch

/-- `makeTemporaries`, `extractEach` and `merge` for the `files`, of which `first` is the first. -/
def runSeveral (options : Options) (folder first : Path) (files : List Path) : Job BatchOutcome := do
  let ended (outcomes : List FileOutcome) (result : BatchResult) : Job BatchOutcome :=
    concludeBatch { folder, files, outcomes, result }
  match ← attempted (schemeOf options) with
  | .error problem => ended [] (.failed none (some problem))
  | .ok scheme =>
    let target := batchTarget options first
    match ← makeTemporaries target.parent 1 files [] with
    | .error fault => ended [] (.failed (some target) (some (.interrupted (.disk fault))))
    | .ok temporaries =>
      let harvest ← extractEach options 0 (files.zip temporaries)
      if harvest.count ≤ 0 then
        harvest.temporaries.forM discardTemporary
        ended harvest.outcomes (.noStrings (some target))
      else
        match ← attempted (merge scheme harvest.temporaries target) with
        | .ok written => ended harvest.outcomes (.extracted target written)
        | .error problem => ended harvest.outcomes (.failed (some target) (some problem))

/-- `findFiles` of a batch, with a record. -/
def discover (folder : Path) : Job (List Path) := do
  record .info .folder s!"Finding files on path: {folder}"
  findFiles folder

/-- `runSingle` or `runSeveral` for the files that were found, by their number. -/
def extractFiles (options : Options) (folder : Path) : List Path → Job BatchOutcome
  | [] => concludeBatch { folder, files := [], outcomes := [], result := .noFiles }
  | [file] => runSingle options folder file
  | first :: rest => runSeveral options folder first (first :: rest)

/-- Extraction from a folder: `discover`, and then `extractFiles`. -/
def runBatch (options : Options) (folder : Path) : Job BatchOutcome := do
  extractFiles options folder (← discover folder)

end Job

end Externalize
