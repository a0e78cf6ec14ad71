import Externalize.Extraction.Outcome
import Externalize.Resource.Store
import Externalize.Source.Relink
import Externalize.Source.Store

/-!
# `Externalize.Extraction.File`: extraction from one file

The file is read and scanned, its entries are added to the resource file, and the file is written
anew with references in the place of the literals. If the source cannot be written, the resource file
is put back the way it was. What goes wrong on the way is reported as the outcome.
-/

set_option autoImplicit false

namespace Externalize

/-- How `extractFile` is to work. -/
structure Options where
  /-- The resource file; by default one beside the source. -/
  target : Option Path := none
  /-- Whether code reaches its strings through the accessor class. -/
  accessor : Bool := false
  stem : Option Points := none
  ending : Option Points := none
  /-- Whether sources are backed up. -/
  backup : Bool := false
  deriving Repr, DecidableEq

/-- Where the count of a file starts: at zero, or where another file ended. -/
inductive Counter
  | fresh
  /-- The count goes on from another file. -/
  | shared (start : Int)
  deriving Repr, DecidableEq

/-- The count before the first entry. -/
def Counter.start : Counter → Int
  | .fresh => 0
  | .shared start => start

namespace Job

/-- What `targetOf` puts behind the name of a source. -/
def targetEnding : Text := "_extracted_strings.xml".toList

/-- The resource file of a source: `options.target`, or one beside it with `targetEnding`. -/
def targetOf (options : Options) (path : Path) : Job Path :=
  match options.target with
  | some target => return target
  | none => extend path targetEnding

/-- `NameScheme.build` of the templates in `options`. -/
def schemeOf (options : Options) : Job NameScheme :=
  match NameScheme.build options.stem options.ending options.accessor with
  | .ok scheme => return scheme
  | .error fault => throw fault.toFault

/-- `Scanning.step` for the next literal of a scan, with a record if it becomes an entry. -/
def scanLiteral (scheme : NameScheme) (state : Scanning) (literal : Literal) : Job Scanning := do
  match state.judge scheme literal with
  | .error fault => throw fault.toFault
  | .ok verdict =>
    if let .entry entry := verdict then
      record .debug .scanning
        s!"literal {String.ofList entry.raw} at {literal.position} -> {String.ofList entry.name.shown}"
    return state.settle verdict

/-- `scan` of a text by `scanLiteral`, with the records of that. -/
def scanText (scheme : NameScheme) (kind : Kind) (text : Text) (count : Int) : Job Scan := do
  let state ← (literals kind text).foldlM (scanLiteral scheme) (.start kind count)
  return state.result

/-- Puts the file at `target` back the way it was; `previous` is `none` if there was no file. A refusal
is recorded. -/
def restore (target : Path) (previous : Option Octets) : Job Unit :=
  onRefusal
    (match previous with
    | none => remove target
    | some octets => writeOctets target octets)
    fun fault => record .warning .file s!"unable to restore {target}: {fault.message}"

/-- `Writer.session` with the entries. -/
def store (target : Path) (entries : List Entry) : Job Unit :=
  Writer.session target (entries.map fun entry => (entry.name, ↑entry.value))

/-- `writeSource`, and `restore` of the resource file if that is refused. -/
def relinkSource (path target : Path) (previous : Option Octets) (text : Text) (backup : Bool) :
    Job Unit :=
  onRefusal (writeSource path text backup) fun fault => do
    restore target previous
    throw (.interruption (.disk fault))

/-- Extracts the strings of the source at `path` into `target`. It reads and scans the source, and if
there are entries it does `store`, `relinkSource` and, for code with `scheme.accessor`, `writeAccessor`.
Faults are `reported`. -/
def extractInto (scheme : NameScheme) (path : Path) (kind : Kind) (target : Path) (backup : Bool)
    (count : Int) : Job Scan :=
  reported do
    let text ← readText path
    let scan ← scanText scheme kind text count
    record .debug .file
      s!"{path}: {scan.found} matches, {scan.blanks} blank, {scan.duplicates} duplicate"
    if scan.entries.isEmpty then return scan
    let previous ← if ← isFile target then some <$> readOctets target else pure none
    store target scan.entries
    let relinked := relink kind scan.entries text
    relinkSource path target previous relinked backup
    if kind = .code && scheme.accessor then
      let _ ← writeAccessor path.parent relinked
    return scan

/-- Records the `message` of a result and ends with it. -/
def conclude (level : Level) (result : FileResult) (count : Int) : Job FileOutcome := do
  record level .file result.message
  return { result, count }

/-- `extractInto` for a source file, with a problem told as a `FileResult`. -/
def extractSource (options : Options) (path : Path) (kind : Kind) (count : Int) :
    Job FileOutcome := do
  let target ← targetOf options path
  let extraction : Job (Except Problem Scan) :=
    tryCatch
      (do
        let scheme ← schemeOf options
        let scan ← extractInto scheme path kind target options.backup count
        return .ok scan)
      fun
        | .problem problem => return .error problem
        | fault => throw fault
  match ← extraction with
  | .error (.notResource refused) => conclude .error (.invalidTarget path refused) count
  | .error problem => conclude .error (.failed path target problem) count
  | .ok scan =>
    if scan.entries.isEmpty then conclude .info (.noStrings path scan) scan.count
    else conclude .info (.extracted path target scan) scan.count

/-- Whether `extractFile` would get to `extractSource`. -/
def isExtractable : Option Path → Job Bool
  | none => return false
  | some path => do
    if !(← pathExists path) then return false
    else if ← isFolder path then return false
    else return path.kind?.isSome

/-- Extraction from one file: `extractSource`, if something stands at the path that is no folder and has
a `kind?`. -/
def extractFile (options : Options) (path? : Option Path) (counter : Counter) :
    Job FileOutcome := do
  match path? with
  | none => conclude .error .noInput counter.start
  | some path =>
    if !(← pathExists path) then conclude .error (.notFound path) counter.start
    else if ← isFolder path then conclude .error (.isFolder path) counter.start
    else
      match path.kind? with
      | none => conclude .info (.unsupported path) counter.start
      | some kind => extractSource options path kind counter.start

end Job

end Externalize
