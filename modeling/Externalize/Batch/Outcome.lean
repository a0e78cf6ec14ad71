import Externalize.Extraction.Outcome

/-!
# `Externalize.Batch.Outcome`: what extraction from a folder comes to

The outcome of a batch holds the files that were found, the outcomes of those that were tried, and a
result of its own.
-/

set_option autoImplicit false

namespace Externalize

/-- The result of `runBatch`. -/
inductive BatchResult
  /-- There are no source files. -/
  | noFiles
  /-- There was nothing to extract. -/
  | noStrings (target : Option Path)
  | extracted (target : Path) (written : Nat)
  | failed (target : Option Path) (problem : Option Problem)
  deriving Repr, DecidableEq

/-- What `runBatch` ends with: the `files` that were found, an outcome for each that was tried, and the
result. -/
structure BatchOutcome where
  folder : Path
  files : List Path
  outcomes : List FileOutcome
  result : BatchResult
  deriving Repr, DecidableEq

/-- The result of a batch whose only file has that result. -/
def BatchResult.ofFile : FileResult → BatchResult
  | .extracted _ target scan => .extracted target scan.entries.length
  | .noStrings .. => .noStrings none
  | result => .failed result.target? result.problem?

namespace BatchOutcome

/-- The name of the kind of `result`. -/
def status (outcome : BatchOutcome) : String :=
  match outcome.result with
  | .noFiles => "no-files"
  | .noStrings _ => "no-strings"
  | .extracted .. => "extracted"
  | .failed .. => "failed"

/-- How many entries `result` says that the resource file has got. -/
def written (outcome : BatchOutcome) : Nat :=
  match outcome.result with
  | .extracted _ written => written
  | _ => 0

/-- The resource file of `result`, if it came to that. -/
def target? (outcome : BatchOutcome) : Option Path :=
  match outcome.result with
  | .noFiles => none
  | .noStrings target | .failed target _ => target
  | .extracted target _ => some target

/-- The problem of `result`, if it `failed` with one. -/
def problem? (outcome : BatchOutcome) : Option Problem :=
  match outcome.result with
  | .failed _ problem => problem
  | _ => none

/-- Whether neither the batch nor one of its `outcomes` failed. -/
def ok (outcome : BatchOutcome) : Bool :=
  (match outcome.result with
    | .failed .. => false
    | _ => true) && outcome.outcomes.all (·.result.ok)

/-- The message about `result`. -/
def message (outcome : BatchOutcome) : String :=
  match outcome.result with
  | .noFiles => s!"No java or xml file found on path: {outcome.folder}"
  | .noStrings _ => s!"{outcome.files.length} files was scanned and no strings found."
  | .failed _ problem =>
    let reason := (problem.map Problem.reason).getD ""
    s!"Unable to extract strings on {outcome.folder}: {reason}"
  | .extracted target written =>
    s!"{written} strings was extracted from {outcome.files.length} files and saved to {target}"

end BatchOutcome

end Externalize
