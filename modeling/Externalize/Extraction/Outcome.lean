import Externalize.Fault
import Externalize.Source.Scan

/-!
# `Externalize.Extraction.Outcome`: what extraction from one file comes to

An outcome is one of eight results, each with what belongs to it, and the count that the next file
goes on from. Everything that is told of an outcome, its status, its message, whether all is well, is
read off the result.
-/

set_option autoImplicit false

namespace Externalize

/-- The result of `extractFile`. -/
inductive FileResult
  /-- No file was given. -/
  | noInput
  | notFound (path : Path)
  | isFolder (path : Path)
  /-- The file is no source file. -/
  | unsupported (path : Path)
  /-- The target holds something other than string resources. -/
  | invalidTarget (path target : Path)
  | failed (path target : Path) (problem : Problem)
  /-- There was nothing to extract. -/
  | noStrings (path : Path) (scan : Scan)
  | extracted (path target : Path) (scan : Scan)
  deriving Repr, DecidableEq

namespace FileResult

/-- The name of the kind of result. -/
def status : FileResult → String
  | .noInput => "missing-input"
  | .notFound _ => "not-found"
  | .isFolder _ => "is-directory"
  | .unsupported _ => "unsupported"
  | .invalidTarget .. => "invalid-target"
  | .failed .. => "failed"
  | .noStrings .. => "no-strings"
  | .extracted .. => "extracted"

/-- The file of the result, if one was given. -/
def path? : FileResult → Option Path
  | .noInput => none
  | .notFound path | .isFolder path | .unsupported path | .invalidTarget path _ | .failed path ..
  | .noStrings path _ | .extracted path .. => some path

/-- The resource file of the result, if it came to that. -/
def target? : FileResult → Option Path
  | .invalidTarget _ target | .failed _ target _ | .extracted _ target _ => some target
  | _ => none

/-- The `Scan` of the file, if it came to that. -/
def scan? : FileResult → Option Scan
  | .noStrings _ scan | .extracted _ _ scan => some scan
  | _ => none

/-- How many entries the result says that went into the resource file. -/
def written : FileResult → Nat
  | .extracted _ _ scan => scan.entries.length
  | _ => 0

/-- The `Problem` that the result reports, if any. -/
def problem? : FileResult → Option Problem
  | .noInput => some .noInput
  | .notFound path => some (.inputMissing path)
  | .isFolder path => some (.inputIsFolder path)
  | .invalidTarget _ target => some (.notResource target)
  | .failed _ _ problem => some problem
  | .unsupported _ | .noStrings .. | .extracted .. => none

/-- Whether the file was dealt with as it should be: exactly if there is no `problem?`. -/
def ok : FileResult → Bool
  | .extracted .. | .noStrings .. | .unsupported _ => true
  | _ => false

/-- The message about the result. -/
def message : FileResult → String
  | .noInput => Problem.noInput.message
  | .notFound path => (Problem.inputMissing path).message
  | .isFolder path => (Problem.inputIsFolder path).message
  | .unsupported path => s!"file must be a java or xml file, but got: {path}"
  | .invalidTarget _ target =>
    s!"target is not a string resource file, nothing extracted: {target}"
  | .failed path _ problem => s!"Unable to extract strings from {path}: {problem.reason}"
  | .noStrings path _ => s!"No strings found on: {path}"
  | .extracted path _ scan => s!"{scan.entries.length} strings was found on: {path}"

end FileResult

/-- What `extractFile` ends with. -/
structure FileOutcome where
  result : FileResult
  /-- The count that the next file goes on from. -/
  count : Int
  deriving Repr, DecidableEq

end Externalize
