import Externalize.Job

/-!
# `Externalize.Batch.Discovery`: the source files below a folder

Every source file below the folder is found, at any depth. The search goes down folder by folder: what
stands in a folder is taken in the order of the names, which are compared character by character, and a
folder is searched as soon as it is met. Looking at something whose path is too long ends the search.
-/

set_option autoImplicit false

namespace Externalize

/-- Whether `name` is the name of a source file: the path has a `kind?`. -/
def isSourceName (name : Text) : Bool :=
  (Path.kind? { names := [name] }).isSome

namespace Disk

/-- The last name of `location`, if it stands directly in `folder`. -/
def nameIn? (folder location : Location) : Option Text :=
  if location.dropLast = folder then location.getLast? else none

/-- The names of the `nodes` that stand directly in `folder`, sorted by `precedes`. -/
def namesIn (disk : Disk) (folder : Location) : List Text :=
  (disk.nodes.filterMap fun entry => nameIn? folder entry.1).mergeSort
    fun name other => !other.precedes name

/-- The length of the longest location among the `nodes`. -/
def depth (disk : Disk) : Nat :=
  disk.nodes.foldr (fun entry deepest => max entry.1.length deepest) 0

theorem length_le_depth {disk : Disk} {entry : Location × Node} (h : entry ∈ disk.nodes) :
    entry.1.length ≤ disk.depth := by
  unfold depth
  generalize disk.nodes = nodes at h ⊢
  induction nodes with
  | nil => cases h
  | cons first nodes ih =>
    rw [List.foldr_cons]
    rcases List.mem_cons.mp h with rfl | hmem
    · exact Nat.le_max_left _ _
    · exact Nat.le_trans (ih hmem) (Nat.le_max_right _ _)

theorem nameIn?_eq_some_iff {folder location : Location} {name : Text} :
    nameIn? folder location = some name ↔ location = folder ++ [name] := by
  unfold nameIn?
  constructor
  · intro h
    split at h
    · rename_i hfolder
      obtain ⟨above, rfl⟩ := List.getLast?_eq_some_iff.mp h
      rw [List.dropLast_concat] at hfolder
      rw [hfolder]
    · cases h
  · rintro rfl
    simp

/-- `namesIn` gives the names of the `nodes` in the folder. -/
theorem mem_namesIn {disk : Disk} {folder : Location} {name : Text} :
    name ∈ disk.namesIn folder ↔ folder ++ [name] ∈ disk.nodes.map (·.1) := by
  simp only [namesIn, List.mem_mergeSort, List.mem_filterMap, nameIn?_eq_some_iff, List.mem_map]

/-- `namesIn` is empty for a folder at the `depth` of the deepest node. -/
theorem length_lt_depth {disk : Disk} {folder : Location} {name : Text}
    (h : name ∈ disk.namesIn folder) : folder.length < disk.depth := by
  obtain ⟨entry, hentry, hlocation⟩ := List.mem_map.mp (mem_namesIn.mp h)
  have hdepth := length_le_depth hentry
  rwa [hlocation, List.length_append, List.length_singleton] at hdepth

/-- The paths of the source files below the folder at `location`, to which `path` leads. Each folder is
looked at in the order of `namesIn`. -/
def walk (disk : Disk) (path : Path) (location : Location) : Except DiskFault (List Path) :=
  (disk.namesIn location).attach.flatMapM fun ⟨name, _⟩ =>
    match disk.find (path.child name) with
    | .error .nameTooLong => .error { refusal := .nameTooLong, path := path.child name }
    | .ok (_, .folder) => disk.walk (path.child name) (location ++ [name])
    | _ => .ok (if isSourceName name then [path.child name] else [])
termination_by disk.depth - location.length
decreasing_by
  rename_i hname
  have hdepth := length_lt_depth hname
  rw [List.length_append, List.length_singleton]
  omega

/-- `walk`, one folder unfolded. -/
theorem walk_eq (disk : Disk) (path : Path) (location : Location) :
    disk.walk path location = (disk.namesIn location).flatMapM fun name =>
      match disk.find (path.child name) with
      | .error .nameTooLong => .error { refusal := .nameTooLong, path := path.child name }
      | .ok (_, .folder) => disk.walk (path.child name) (location ++ [name])
      | _ => .ok (if isSourceName name then [path.child name] else []) := by
  rw [walk, List.flatMapM_subtype fun _ _ => rfl, List.unattach_attach]

end Disk

namespace Job

/-- The source files that `walk` gives below `root`. Anything but a folder has none, and the journal
says so. -/
def findFiles (root : Path) : Job (List Path) := do
  match ← node? root with
  | some (.file _) =>
    record .warning .folder s!"File: {root} is not a directory"
    return []
  | none =>
    record .warning .folder s!"File: {root} does not exist"
    return []
  | some .device =>
    let fault : DiskFault := { refusal := .notFolder, path := root }
    record .warning .folder s!"unable to read directory {root}: {fault.message}"
    return []
  | some .folder =>
    let location ← look root (·.locate root)
    match (← disk).walk root location with
    | .ok files => return files
    | .error fault => throw (.interruption (.disk fault))

end Job

end Externalize
