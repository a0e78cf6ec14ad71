import Externalize.Path
import Externalize.Text.Utf8

/-!
# `Externalize.Disk.Basic`: a disk as a value

A disk says what stands at each location, and a location is the list of the names from the top folder
down. The top folder is always there. Everything else that can be asked of a disk goes through
`Disk.get?`, and the two ways of changing a disk, `set` and `erase`, are pinned by what they do to it.

Two things that a real disk may have are left out, and every result on disks is to be read with that in
mind. There are no symbolic links: a `Node` never points elsewhere, so a file stands at one `Location` and
whatever is done to it is done there. There are no permissions either, nor a disk that is full: what is
done is refused for the reasons in `Refusal` only, all of which are told by the path and by what stands
at it and on the way to it.
-/

set_option autoImplicit false

namespace Externalize

/-- The names from the top folder down. -/
abbrev Location := List Text

/-- What stands at a location. There is no symbolic link among the nodes, and none has permissions. -/
inductive Node
  | file (octets : Octets)
  | folder
  /-- Something that can be read and written but holds nothing. -/
  | device
  deriving Repr, DecidableEq

/-- The `nodes` of a disk, each with its location, and the folder `home` that relative paths start
from. -/
structure Disk where
  nodes : List (Location × Node)
  home : Location
  deriving Repr, DecidableEq

namespace Disk

/-- The node at `location`. The top `[]` is a folder. -/
def get? (disk : Disk) (location : Location) : Option Node :=
  if location = [] then some .folder else disk.nodes.lookup location

/-- The disk without the node at `location`. -/
def erase (disk : Disk) (location : Location) : Disk :=
  { disk with nodes := disk.nodes.filter fun entry => entry.1 != location }

/-- The disk with `node` at `location`. -/
def set (disk : Disk) (location : Location) (node : Node) : Disk :=
  { disk with nodes := (location, node) :: (disk.erase location).nodes }

/-- Whether `location` lies strictly below `folder`. -/
def isBelow (folder location : Location) : Bool :=
  folder.isPrefixOf location && folder.length < location.length

/-- The disk with everything at `source` and below it moved to `target`. -/
def rehang (disk : Disk) (source target : Location) : Disk :=
  { disk with
    nodes := disk.nodes.map fun (location, node) =>
      if source.isPrefixOf location then (target ++ location.drop source.length, node)
      else (location, node) }

/-- The disk without anything at `location` and below it. -/
def prune (disk : Disk) (location : Location) : Disk :=
  { disk with nodes := disk.nodes.filter fun entry => !location.isPrefixOf entry.1 }

/-- Whether no node `isBelow` the location. -/
def isEmptyBelow (disk : Disk) (location : Location) : Bool :=
  disk.nodes.all fun entry => !isBelow location entry.1

theorem lookup_filter_ne (nodes : List (Location × Node)) (location other : Location)
    (h : other ≠ location) :
    (nodes.filter fun entry => entry.1 != location).lookup other = nodes.lookup other := by
  induction nodes with
  | nil => rfl
  | cons entry rest ih =>
    obtain ⟨key, node⟩ := entry
    rw [List.filter_cons]
    by_cases hk : key = location
    · subst hk
      have : (other == key) = false := by simpa using h
      simp [List.lookup_cons, this, ih]
    · have : (key != location) = true := by simpa using hk
      simp [this, List.lookup_cons, ih]

theorem lookup_filter_self (nodes : List (Location × Node)) (location : Location) :
    (nodes.filter fun entry => entry.1 != location).lookup location = none := by
  induction nodes with
  | nil => rfl
  | cons entry rest ih =>
    obtain ⟨key, node⟩ := entry
    rw [List.filter_cons]
    by_cases hk : key = location
    · subst hk; simpa using ih
    · have h1 : (key != location) = true := by simpa using hk
      have h2 : (location == key) = false := by simpa using fun e : location = key => hk e.symm
      simp [h1, List.lookup_cons, h2, ih]

/-- After `set`, the location has the node and every other location what it had. The top folder
cannot be replaced. -/
theorem get?_set (disk : Disk) (location other : Location) (node : Node) (h : location ≠ []) :
    (disk.set location node).get? other = if other = location then some node else disk.get? other := by
  by_cases ho : other = location
  · subst ho; simp [get?, set, h]
  · by_cases he : other = []
    · subst he; simp [get?, ho]
    · have : (other == location) = false := by simpa using ho
      simp [get?, set, erase, ho, he, List.lookup_cons, this, lookup_filter_ne _ _ _ ho]

/-- After `erase`, the location has nothing and every other location what it had. -/
theorem get?_erase (disk : Disk) (location other : Location) (h : location ≠ []) :
    (disk.erase location).get? other = if other = location then none else disk.get? other := by
  by_cases ho : other = location
  · subst ho; simp [get?, erase, h, lookup_filter_self]
  · by_cases he : other = []
    · subst he; simp [get?, ho]
    · simp [get?, erase, ho, he, lookup_filter_ne _ _ _ ho]

end Disk

end Externalize
