import Externalize.Disk.Basic

/-!
# `Externalize.Disk.Access`: reading and changing a disk by paths

A path is followed name by name from the working folder or the top folder. Every name but the last
has to lead to a folder, and no name may be too long. What an operation refuses it refuses with one
of a few reasons, and then it changes nothing.
-/

set_option autoImplicit false

namespace Externalize

/-- Why an operation on a disk is refused. -/
inductive Refusal
  | missing
  | notFolder
  | isFolder
  | nameTooLong
  | notEmpty
  | busy
  | intoItself
  deriving Repr, DecidableEq

/-- The number that is told of a refusal. -/
def Refusal.code : Refusal → Nat
  | .missing => 2
  | .notFolder => 20
  | .isFolder => 21
  | .nameTooLong => 36
  | .notEmpty => 39
  | .busy => 16
  | .intoItself => 22

/-- The text that is told of a refusal. -/
def Refusal.message : Refusal → String
  | .missing => "No such file or directory"
  | .notFolder => "Not a directory"
  | .isFolder => "Is a directory"
  | .nameTooLong => "File name too long"
  | .notEmpty => "Directory not empty"
  | .busy => "Device or resource busy"
  | .intoItself => "Invalid argument"

namespace Disk

/-- The name that `follow` goes up by. -/
def parentName : Text := ['.', '.']

/-- The most octets that `follow` takes of one name. -/
def maxNameOctets : Nat := 255

/-- The most octets that `locate` takes of a path. -/
def maxPathOctets : Nat := 4095

/-- Follows the names from a location on, through folders. The location that is reached need not hold
anything. -/
def follow (disk : Disk) : Location → List Text → Except Refusal Location
  | location, [] => .ok location
  | location, name :: rest =>
    match disk.get? location with
    | none => .error .missing
    | some .folder =>
      if name = parentName then disk.follow location.dropLast rest
      else if maxNameOctets < (Utf8.encode name).length then .error .nameTooLong
      else disk.follow (location ++ [name]) rest
    | some _ => .error .notFolder

/-- The location that a path starts from: `home`, or the top. -/
def start (disk : Disk) (path : Path) : Location :=
  match path.anchor with
  | .relative => disk.home
  | .top | .doubleTop => []

/-- The location that a path leads to by `follow`. -/
def locate (disk : Disk) (path : Path) : Except Refusal Location :=
  if maxPathOctets < (Utf8.encode path.text).length then .error .nameTooLong
  else disk.follow (disk.start path) path.names

/-- The location that `locate` gives for a path, and the node that stands there. -/
def find (disk : Disk) (path : Path) : Except Refusal (Location × Node) := do
  let location ← disk.locate path
  match disk.get? location with
  | none => .error .missing
  | some node => .ok (location, node)

/-- The octets of the file that `find` finds. A device has none. -/
def read (disk : Disk) (path : Path) : Except Refusal Octets := do
  match ← disk.find path with
  | (_, .file octets) => .ok octets
  | (_, .device) => .ok []
  | (_, .folder) => .error .isFolder

/-- Opens a file for writing. It holds `change` of what it held, where no file counts as empty. -/
def update (disk : Disk) (path : Path) (change : Octets → Octets) : Except Refusal Disk := do
  let location ← disk.locate path
  match disk.get? location with
  | none => .ok (disk.set location (.file (change [])))
  | some (.file octets) => .ok (disk.set location (.file (change octets)))
  | some .device => .ok disk
  | some .folder => .error .isFolder

/-- `update` to `octets`, whatever the file held before. -/
def write (disk : Disk) (path : Path) (octets : Octets) : Except Refusal Disk :=
  disk.update path fun _ => octets

/-- `update` by `octets` at the end. -/
def append (disk : Disk) (path : Path) (octets : Octets) : Except Refusal Disk :=
  disk.update path (· ++ octets)

/-- `erase` of the file or device that `find` finds. -/
def remove (disk : Disk) (path : Path) : Except Refusal Disk := do
  match ← disk.find path with
  | (_, .folder) => .error .isFolder
  | (location, _) => .ok (disk.erase location)

/-- Whether the path ends with `parentName`, so that it names no entry of a folder. -/
def endsAbove (path : Path) : Bool :=
  path.names.getLast? == some parentName

/-- Gives the file or folder at `source` the path `target`. A file takes the place of a file, and a
folder that of an empty folder, with `prune` and `rehang`. -/
def move (disk : Disk) (source target : Path) : Except Refusal Disk := do
  if endsAbove source || endsAbove target then
    let _ ← disk.locate source
    let _ ← disk.locate target
    .error .busy
  let (origin, node) ← disk.find source
  let place ← disk.locate target
  if place = origin then .ok disk
  else if isBelow origin place then .error .intoItself
  else
    match node, disk.get? place with
    | .folder, none => .ok (disk.rehang origin place)
    | .folder, some .folder =>
      if disk.isEmptyBelow place then .ok ((disk.prune place).rehang origin place)
      else .error .notEmpty
    | .folder, some _ => .error .notFolder
    | _, some .folder => .error .isFolder
    | node, _ => .ok ((disk.erase origin).set place node)

/-- The disk with folders on the way to `location`, where nothing stands yet. -/
def makeFolders (disk : Disk) (location : Location) : Disk :=
  (List.range location.length).foldl
    (fun disk depth =>
      let above := location.take depth
      if (disk.get? above).isNone then disk.set above .folder else disk)
    disk

/-- `set` after `makeFolders`. -/
def put (disk : Disk) (location : Location) (node : Node) : Disk :=
  (disk.makeFolders location).set location node

end Disk

end Externalize
