import Externalize.Job
import Externalize.Resource.Document

/-!
# `Externalize.Resource.Store`: resource documents on the disk

A file counts as a resource file if it is not too big and its first part shows both a mark of the
frame of a resource document and the start of an entry; nothing further is checked. A `Writer` adds
entries at the end of such a file, or of an empty or new one, and brings the file into the canonical
layout when it saves. It takes no more entries once it is closed.

An entry reaches the file when it is added. Only the break before an entry that no file can hold stays
`pending`, until the next entry is added or the file is closed.
-/

set_option autoImplicit false

namespace Externalize

/-- How many octets of a file `looksLikeResource` looks at. -/
def probeSize : Nat := 2048

/-- A file of that size or more is no resource file. -/
def maxResourceSize : Nat := 4 * 1024 * 1024

/-- Whether a file with these octets is taken for a resource document: it has one of the marks of a
document and `entryStart` among its first octets, and is smaller than `maxResourceSize`. -/
def looksLikeResource (octets : Octets) : Bool :=
  let head := Utf8.widen (octets.take probeSize)
  let marks :=
    [Document.declaration, Document.declarationSingle, Document.openingStart, Document.closing]
  decide (octets.length < maxResourceSize) && marks.any (Text.occursIn · head) &&
    Text.occursIn Document.entryStart head

namespace Job

/-- Whether `node?` is a file that `looksLikeResource`. -/
def isResourceFile (path : Path) : Job Bool := do
  match ← node? path with
  | some (.file octets) => return looksLikeResource octets
  | _ => return false

/-- Writes the `Document.document` of the lines. -/
def writeDocument (path : Path) (lines : List Text) : Job Unit :=
  writeText path (Document.document lines)

/-- Writes what `Document.format` makes of a file. -/
def formatFile (path : Path) : Job Unit := do
  let text ← readLines path
  writeText path (Document.format text)

end Job

/-- A resource file that entries are added to. -/
structure Writer where
  path : Path
  /-- Whether the file held something before. -/
  existed : Bool
  /-- Whether it was recognised as a resource file. -/
  recognised : Bool
  /-- How many entries were added. -/
  written : Nat := 0
  /-- What was written and has not reached the file, or `none` once the file is closed. -/
  pending : Option Octets := some []
  deriving Repr, DecidableEq

namespace Writer

/-- So many octets do not stay `pending`. -/
def bufferSize : Nat := 8192

/-- Whether the node is more than an empty file. -/
def holdsSomething : Option Node → Bool
  | none => false
  | some (.file octets) => !octets.isEmpty
  | some _ => true

/-- Opens a file for adding entries, and makes it if there is none. What `holdsSomething` other than
string resources is left alone. -/
def start (path : Path) : Job Writer := do
  let existed := holdsSomething (← Job.node? path)
  let recognised ← Job.isResourceFile path
  if existed && !recognised then throw (.problem (.notResource path))
  Job.appendOctets path []
  return { path, existed, recognised }

/-- `appendOctets` to the file, if there are any. -/
def flush (writer : Writer) (octets : Octets) : Job Unit :=
  if octets.isEmpty then return () else Job.appendOctets writer.path octets

/-- Flushes the octets if there are `bufferSize` of them, and gives those that stay pending. -/
def hold (writer : Writer) (octets : Octets) : Job Octets := do
  if octets.length < bufferSize then return octets
  writer.flush octets
  return []

/-- Adds a break and the `entryPoints` of an entry at the end of the file, and gives the writer that is
left and the fault, if there was one. The break before an entry that no file can hold stays `pending`. -/
def write (writer : Writer) (name value : Points) : Job (Writer × Option Fault) := do
  match writer.pending with
  | none => return (writer, some .closed)
  | some pending =>
    let pending ← writer.hold (pending ++ Utf8.encode Document.lineBreak)
    match Utf8.encodePoints (Document.entryPoints name value) with
    | .error halves =>
      return ({ writer with pending := some pending }, some (.interruption (.halves halves)))
    | .ok entry =>
      writer.flush (pending ++ entry)
      return ({ writer with written := writer.written + 1, pending := some [] }, none)

/-- Flushes what is `pending` and closes the file. No more entries are added from then on. -/
def close (writer : Writer) : Job Writer := do
  match writer.pending with
  | none => return writer
  | some pending =>
    writer.flush pending
    return { writer with pending := none }

/-- `formatFile` of the file, with a record. -/
def merge (writer : Writer) : Job Unit := do
  Job.formatFile writer.path
  Job.record .debug .resources s!"merged {writer.written} entries into {writer.path}"

/-- `close` and then `merge`. -/
def save (writer : Writer) : Job Writer := do
  let writer ← writer.close
  writer.merge
  return writer

/-- `write` for each entry, a name and a value. The first fault ends that. -/
def writeAll (writer : Writer) : List (Points × Points) → Job (Writer × Option Fault)
  | [] => return (writer, none)
  | (name, value) :: entries => do
    match ← writer.write name value with
    | (writer, none) => writer.writeAll entries
    | (writer, some fault) => return (writer, some fault)

/-- `start`, `writeAll` and `save`. If an entry cannot be added, the file is closed as it is. -/
def session (target : Path) (entries : List (Points × Points)) : Job Unit := do
  let writer ← start target
  match ← writer.writeAll entries with
  | (writer, none) =>
    let _ ← writer.save
  | (writer, some fault) =>
    let _ ← writer.close
    throw fault

/-- Something that is done with a `Writer`. -/
inductive Action
  | write (name value : Points)
  | save
  | close
  deriving Repr, DecidableEq

/-- Does the action, and gives the writer that is left and the fault, if there was one. `save` closes
the writer even if it fails. -/
def perform (writer : Writer) : Action → Job (Writer × Option Fault)
  | .write name value => writer.write name value
  | .save => do
    let writer ← writer.close
    tryCatch (do writer.merge; return (writer, none)) fun fault => return (writer, some fault)
  | .close => return (← writer.close, none)

end Writer

end Externalize
