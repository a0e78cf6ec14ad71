import Externalize.Resource.Store

/-!
# `Externalize.Batch.Temporary`: temporary resource files

Each file of a batch first writes to a resource file of its own. Such a file is made empty, under a
name that nothing stands at, and it is known by its absolute path.
-/

set_option autoImplicit false

namespace Externalize

/-- The text of a number with at least `width` digits. -/
def stampText (width n : Nat) : Text :=
  let digits := Nat.toDigits 10 n
  List.replicate (width - digits.length) '0' ++ digits

/-- The name of a temporary file: the `index` of the file that it is for, and a `stamp` that sets it
apart. -/
def temporaryName (index : Int) (stamp : Nat) : Text :=
  "tmp_ext_str_".toList ++ (toString index).toList ++ ['_'] ++ stampText 8 stamp

/-- The path from the top folder down, with `Path.collapse` of its names. -/
def Path.absolute (home : Location) (path : Path) : Path :=
  match path.anchor with
  | .relative => { anchor := .top, names := Path.collapse (home ++ path.names) }
  | _ => { path with names := Path.collapse path.names }

/-- The path with the first stamp for which `find` finds nothing in `folder`. -/
def Disk.freshTemporary (disk : Disk) (folder : Path) (index : Int) : Path :=
  let path (stamp : Nat) := (folder.absolute disk.home).child (temporaryName index stamp)
  let stamps := List.range (disk.nodes.length + 1)
  path ((stamps.find? fun stamp => (disk.find (path stamp)).toOption.isNone).getD 0)

namespace Job

/-- Makes an empty file at the `freshTemporary` path in `folder`. -/
def makeTemporary (folder : Path) (index : Int) : Job Path := do
  let path := (← disk).freshTemporary folder index
  writeOctets path []
  return path

/-- `remove` of a temporary file. That it is `missing` does not matter, and any other refusal is
recorded. -/
def discardTemporary (path : Path) : Job Unit :=
  onRefusal (remove path) fun fault => do
    if fault.refusal ≠ .missing then
      record .warning .folder s!"unable to delete the temp file: {path} ({fault.message})"

end Job

end Externalize
