import Externalize.Batch.Run

/-!
# `Externalize.Settings.Basic`: what a run is asked to do

Settings name a file or a folder, or both, and say how extraction is to be done. Two combinations need
a question: a file together with a folder, and a folder that is not to be searched. `settle` takes the
answer in, and a folder that was not given is never searched.
-/

set_option autoImplicit false

namespace Externalize

/-- What a run is asked to do. -/
structure Settings where
  file : Option Path := none
  folder : Option Path := none
  options : Options := {}
  /-- Whether the folder is searched. -/
  recursive : Bool := false
  deriving Repr, DecidableEq

/-- A question about settings. -/
inductive Question
  /-- Is the folder searched, although there is a file? -/
  | folderOrFile
  /-- Is the folder searched, although that was not asked for? -/
  | searchFolder
  deriving Repr, DecidableEq

/-- The wording of a question. -/
def Question.text : Question → String
  | .folderOrFile => "Both a file and a directory were given, scan the directory?"
  | .searchFolder => "A directory needs recursive mode, enable it?"

namespace Settings

/-- The question that the settings leave open, if there is one. -/
def question? (settings : Settings) : Option Question :=
  if settings.folder.isNone then none
  else if settings.file.isSome then some .folderOrFile
  else if settings.recursive then none
  else some .searchFolder

/-- The settings with the answer to their `question?`. Without an answer they stay as they are. -/
def settle (settings : Settings) (answer : Option Bool) : Settings :=
  let wanted := if settings.question?.isSome then answer.getD settings.recursive
    else settings.recursive
  { settings with recursive := settings.folder.isSome && wanted }

end Settings

/-- The outcome of `Settings.run`. -/
inductive Outcome
  | file (outcome : FileOutcome)
  | batch (outcome : BatchOutcome)
  deriving Repr, DecidableEq

namespace Outcome

/-- The message about the outcome. -/
def message : Outcome → String
  | .file outcome => outcome.result.message
  | .batch outcome => outcome.message

/-- Whether everything was dealt with as it should be. -/
def ok : Outcome → Bool
  | .file outcome => outcome.result.ok
  | .batch outcome => outcome.ok

/-- How many entries were written. -/
def written : Outcome → Nat
  | .file outcome => outcome.result.written
  | .batch outcome => outcome.written

/-- The resource file, if it came to that. -/
def target? : Outcome → Option Path
  | .file outcome => outcome.result.target?
  | .batch outcome => outcome.target?

end Outcome

/-- `Job.runBatch` on the folder if it is to be searched, and else `Job.extractFile`. -/
def Settings.run (settings : Settings) : Job Outcome :=
  match settings.recursive, settings.folder with
  | true, some folder => .batch <$> Job.runBatch settings.options folder
  | _, _ => .file <$> Job.extractFile settings.options settings.file .fresh

end Externalize
