import Externalize.CommandLine.Arguments

/-!
# `Externalize.CommandLine.Run`: a run from the command line

A run prints the message of its outcome, and the journal goes to the error output with a time before
each record. Questions are put to whoever sits at the terminal; if nobody does, the settings stay as
they are.
-/

set_option autoImplicit false

namespace Externalize.CommandLine

/-- How the program is called. -/
def usageLines : List String :=
  ["usage: string-extractor [-h] [-i FILE] [-d PATH] [-p TEXT] [-s TEXT] [-x FILE]",
    "                        [-r] [-b] [-c] [-y] [-v]"]

/-- What the help tells below the usage. -/
def helpLines : List String :=
  ["",
    "Extract raw strings from xml and java files of an android app project to an",
    "optional xml file and link them.",
    "",
    "options:",
    "  -h, --help     show this help message and exit",
    "  -i FILE        the single xml or java file to scan. -d and -r are ignored if",
    "                 given.",
    "  -d PATH        directory to scan for xml or java files, requires -r.",
    "  -p TEXT        prefix used when generating the xml string names",
    "  -s TEXT        suffix used when generating the xml string names",
    "  -x FILE        the file to write the generated xml to",
    "  -r             search -d recursively and extract the strings of every file",
    "                 found",
    "  -b             backup the original file to filename.backup",
    "  -c             use the ExtractedString class in java files.",
    "                 ExtractedString.java is generated next to the input file;",
    "                 call ExtractedString.setContext(context) from your",
    "                 Application or Activity onCreate.",
    "  -y, --yes      answer yes to every question",
    "  -v, --verbose  debug logging"]

/-- Lines with a line feed behind each. -/
def unlines (lines : List String) : String :=
  String.join (lines.map (· ++ "\n"))

/-- What is printed of a `complaint`: the usage and the complaint. -/
def misuseText (complaint : String) : String :=
  unlines (usageLines ++ [s!"string-extractor: error: {complaint}"])

/-- What is shown of the time: the time of a record and the duration of the run. -/
structure Clock where
  time : String
  milliseconds : String

/-- How a run ended: with an exit code or a fault, and with what it printed. -/
structure Ending where
  exit : Except Fault Nat
  out : String := ""
  err : String := ""

/-- Whether a line is taken for a yes. -/
def isYes (line : Text) : Bool :=
  let answer := (Text.strip line).map Char.toLower
  answer.isEmpty || answer == "y".toList || answer == "yes".toList

/-- The line that asks the `question`. -/
def prompt (question : Question) : String :=
  s!"{question.text} [Y/n] ? : "

/-- The answer to the open question of the settings, if there is one and someone answers: what is
printed on the way, and the answer. What is typed at the terminal is `none` if there is no terminal,
and its first line is the answer. -/
def ask (arguments : Arguments) (typed : Option Text) :
    String × Except Fault (Option Bool) :=
  match arguments.settings.question?, arguments.yes, typed with
  | none, _, _ => ("", .ok none)
  | some _, true, _ => ("", .ok (some true))
  | some _, false, none => ("", .ok none)
  | some question, false, some [] => (prompt question, .error .noAnswer)
  | some question, false, some (c :: rest) =>
    (prompt question, .ok (some (isYes ((c :: rest).takeWhile (· != '\n')))))

/-- What is printed of an outcome: its `message`, its `target?` if something was `written`, and the
time. -/
def report (clock : Clock) (outcome : Outcome) : String :=
  let saved :=
    match outcome.target? with
    | some target =>
      if outcome.written = 0 then []
      else [s!"strings saved to {target} in {clock.milliseconds} ms."]
    | none => []
  unlines (outcome.message :: saved)

/-- The records between the journals `before` and `after` as lines, from `debug` on if `verbose`, and
else from `info` on. -/
def journalText (clock : Clock) (verbose : Bool) (before after : Journal) : String :=
  let level := if verbose then Level.debug else .info
  let added : Journal := after.extract before.size after.size
  unlines ((added.atLeast level).map (Record.line clock.time))

/-- Ends the job if `target` is among the `valueless` switches. -/
def needTarget (valueless : List Switch) : Job Unit :=
  if valueless.contains .target then throw .pathWithoutValue else return

/-- Ends the job if `stem` or `ending` is among the `valueless` switches. -/
def needTemplates (valueless : List Switch) : Job Unit :=
  if valueless.contains .stem || valueless.contains .ending then throw .templateWithoutValue
  else return

/-- Does what the settings ask for, up to the first need of a value that was not given. With several
files the templates are needed before the target, otherwise the target before the templates. -/
def attempt (valueless : List Switch) (settings : Settings) : Job Outcome :=
  match settings.recursive, settings.folder with
  | true, some folder =>
    if valueless.contains .folder then throw .pathWithoutValue
    else do
      let files ← Job.discover folder
      match files with
      | [] => pure ()
      | [_] => do needTarget valueless; needTemplates valueless
      | _ => do needTemplates valueless; needTarget valueless
      .batch <$> Job.extractFiles settings.options folder files
  | _, _ =>
    if valueless.contains .file then throw .pathWithoutValue
    else do
      if ← Job.isExtractable settings.file then
        needTarget valueless
        needTemplates valueless
      settings.run

/-- `attempt` in a workspace, and what is printed of that. -/
def perform (clock : Clock) (arguments : Arguments) (settings : Settings) (out : String)
    (space : Workspace) : Ending × Workspace :=
  let (result, after) := (attempt arguments.valueless settings).run space
  let err := journalText clock arguments.verbose space.journal after.journal
  match result with
  | .error fault => ({ exit := .error fault, out, err }, after)
  | .ok outcome =>
    ({ exit := .ok (if outcome.ok then 0 else 1), out := out ++ report clock outcome, err }, after)

/-- A run from the command line: `Invocation.ofArguments`, the question if there is one, and `perform`. -/
def run (clock : Clock) (texts : List Text) (typed : Option Text) (space : Workspace) :
    Ending × Workspace :=
  match Invocation.ofArguments texts with
  | .help => ({ exit := .ok 0, out := unlines (usageLines ++ helpLines) }, space)
  | .misuse complaint => ({ exit := .ok 2, err := misuseText complaint }, space)
  | .run arguments =>
    match ask arguments typed with
    | (out, .error fault) => ({ exit := .error fault, out }, space)
    | (out, .ok answer) =>
      let settings := arguments.settings.settle answer
      if !settings.recursive && settings.file.isNone then
        ({ exit := .ok 1, out := out ++ "option -d requires -r.\n" }, space)
      else perform clock arguments settings out space

end Externalize.CommandLine
