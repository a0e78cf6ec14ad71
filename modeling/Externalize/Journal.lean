/-!
# `Externalize.Journal`: what a run tells about itself

A run keeps a journal. Each record has a level, says which part of the program wrote it, and has a
message.
-/

set_option autoImplicit false

namespace Externalize

/-- How important a record is. -/
inductive Level
  | debug
  | info
  | warning
  | error
  deriving Repr, DecidableEq

namespace Level

/-- The name of a level. -/
def label : Level → String
  | .debug => "DEBUG"
  | .info => "INFO"
  | .warning => "WARNING"
  | .error => "ERROR"

/-- The rank of a level among the others. -/
def rank : Level → Nat
  | .debug => 0
  | .info => 1
  | .warning => 2
  | .error => 3

/-- The level of that name. -/
def ofLabel? (label : String) : Option Level :=
  [Level.debug, .info, .warning, .error].find? fun level => level.label == label

end Level

/-- The part of the program that wrote a record. -/
inductive Origin
  /-- Extraction from a folder. -/
  | folder
  /-- Extraction from one file. -/
  | file
  /-- Resource documents. -/
  | resources
  /-- Source files. -/
  | sources
  /-- Scanning for literals. -/
  | scanning
  deriving Repr, DecidableEq

/-- A record of a journal. -/
structure Record where
  level : Level
  origin : Origin
  message : String
  deriving Repr, DecidableEq

/-- The record as a line, with the time it is given. -/
def Record.line (time : String) (record : Record) : String :=
  s!"{time} [{record.level.label}] {record.message}"

/-- A journal, in the order of writing. -/
abbrev Journal := Array Record

/-- The records of at least that level. -/
def Journal.atLeast (level : Level) (journal : Journal) : List Record :=
  journal.toList.filter fun record => level.rank ≤ record.level.rank

end Externalize
