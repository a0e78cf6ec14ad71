import Externalize.Disk.Access

/-!
# `Externalize.Proofs.Disk`: what the operations on a disk do

A path leads through folders only, so where it leads depends on the folders of the disk and on
nothing else. `SameFolders` says that two disks have the same ones, and `SameFolders.locate_iff` that
paths then lead to the same locations. Writing, deleting and moving files keep the folders, so a path
that was followed once stays good while files come and go.

Each operation is pinned by an equivalence with what stands at the locations involved:
`update_eq_ok_iff`, `remove_eq_ok_iff`, `read_eq_ok_iff`, and `move_file` for a file that gets another
name in its folder. `Admits` is the one condition under which a file can be written. What an operation
leaves of the rest of the disk is said by `Wrote` for one file, by `WroteAll` for several, by `Cleared`
for files that are deleted and by `Spares` for what is none of their business.
-/

set_option autoImplicit false

namespace Externalize.Disk

@[simp]
theorem get?_top (disk : Disk) : disk.get? [] = some .folder := by
  simp [get?]

/-- A location at which `get?` finds no folder is not the top `[]`. -/
theorem ne_top_of_get? {disk : Disk} {location : Location}
    (h : disk.get? location ≠ some .folder) : location ≠ [] := by
  rintro rfl
  exact h (get?_top disk)

/-! ### Disks with the same folders -/

/-- The two disks have the same `home`, and `get?` finds a folder on both or on neither. -/
structure SameFolders (disk other : Disk) : Prop where
  home : disk.home = other.home
  folder : ∀ location, disk.get? location = some .folder ↔ other.get? location = some .folder

namespace SameFolders

theorem refl (disk : Disk) : SameFolders disk disk :=
  ⟨rfl, fun _ => Iff.rfl⟩

theorem symm {disk other : Disk} (h : SameFolders disk other) : SameFolders other disk :=
  ⟨h.home.symm, fun location => (h.folder location).symm⟩

theorem trans {disk other third : Disk} (h : SameFolders disk other)
    (h' : SameFolders other third) : SameFolders disk third :=
  ⟨h.home.trans h'.home, fun location => (h.folder location).trans (h'.folder location)⟩

end SameFolders

/-- `set` keeps the folders, if `node` is no folder and none stands at `location`. -/
theorem sameFolders_set {disk : Disk} {location : Location} {node : Node}
    (hfree : disk.get? location ≠ some .folder) (hnode : node ≠ .folder) :
    SameFolders disk (disk.set location node) := by
  refine ⟨rfl, fun other => ?_⟩
  rw [get?_set _ _ _ _ (ne_top_of_get? hfree)]
  split
  · rename_i h
    subst h
    simp [hfree, hnode]
  · rfl

/-- `erase` keeps the folders, if none stands at `location`. -/
theorem sameFolders_erase {disk : Disk} {location : Location}
    (hfree : disk.get? location ≠ some .folder) : SameFolders disk (disk.erase location) := by
  refine ⟨rfl, fun other => ?_⟩
  rw [get?_erase _ _ _ (ne_top_of_get? hfree)]
  split
  · rename_i h
    subst h
    simp [hfree]
  · rfl

/-- `follow` takes the first name from a folder: up for `parentName`, and down for a name of at most
`maxNameOctets` octets. -/
theorem follow_cons_eq_ok_iff {disk : Disk} {location goal : Location} {name : Text}
    {rest : List Text} :
    disk.follow location (name :: rest) = .ok goal ↔
      disk.get? location = some .folder ∧
        ((name = parentName ∧ disk.follow location.dropLast rest = .ok goal) ∨
          (name ≠ parentName ∧ (Utf8.encode name).length ≤ maxNameOctets ∧
            disk.follow (location ++ [name]) rest = .ok goal)) := by
  rw [follow]
  split
  · simp_all
  · rename_i h
    by_cases hname : name = parentName
    · simp [h, hname]
    · by_cases hlong : maxNameOctets < (Utf8.encode name).length
      · simp [h, hname, hlong, Nat.not_le_of_lt hlong]
      · simp [h, hname, hlong, Nat.le_of_not_lt hlong]
  · rename_i node hnode hfolder
    simp_all

/-- `follow` leads to the same places on two disks with `SameFolders`. -/
theorem SameFolders.follow_iff {disk other : Disk} (h : SameFolders disk other)
    (names : List Text) (location goal : Location) :
    disk.follow location names = .ok goal ↔ other.follow location names = .ok goal := by
  induction names generalizing location with
  | nil => simp [follow]
  | cons name rest ih => simp only [follow_cons_eq_ok_iff, h.folder, ih]

/-- `locate` leads to the same places on two disks with `SameFolders`. -/
theorem SameFolders.locate_iff {disk other : Disk} (h : SameFolders disk other) (path : Path)
    (location : Location) : disk.locate path = .ok location ↔ other.locate path = .ok location := by
  have hstart : disk.start path = other.start path := by
    simp only [start, h.home]
  unfold locate
  split
  · simp
  · rw [hstart, h.follow_iff]

/-- Two disks with `SameFolders` refuse the same names with `nameTooLong`: `follow` meets such a name on
its way through folders. -/
theorem SameFolders.follow_tooLong {disk other : Disk} (h : SameFolders disk other)
    {names : List Text} {location : Location}
    (hlong : disk.follow location names = .error .nameTooLong) :
    other.follow location names = .error .nameTooLong := by
  induction names generalizing location with
  | nil => cases hlong
  | cons name rest ih =>
    unfold follow at hlong
    split at hlong
    · cases hlong
    · rename_i hfolder
      rw [follow, (h.folder location).mp hfolder]
      by_cases hparent : name = parentName
      · simp only [if_pos hparent] at hlong ⊢
        exact ih hlong
      · by_cases hname : maxNameOctets < (Utf8.encode name).length
        · simp only [if_neg hparent, if_pos hname]
        · simp only [if_neg hparent, if_neg hname] at hlong ⊢
          exact ih hlong
    · cases hlong

theorem SameFolders.locate_tooLong {disk other : Disk} (h : SameFolders disk other) {path : Path}
    (hlong : disk.locate path = .error .nameTooLong) :
    other.locate path = .error .nameTooLong := by
  have hstart : disk.start path = other.start path := by
    simp only [start, h.home]
  unfold locate at hlong ⊢
  split at hlong
  · rw [if_pos ‹_›]
  · rw [if_neg ‹_›, ← hstart]
    exact h.follow_tooLong hlong

/-! ### The last name of a path -/

/-- `follow` takes the last `name` from the folder that the names before it lead to. -/
theorem follow_append_eq_ok_iff {disk : Disk} {names : List Text} {location goal : Location}
    {name : Text} (hname : name ≠ parentName) :
    disk.follow location (names ++ [name]) = .ok goal ↔
      ∃ folder, disk.follow location names = .ok folder ∧ disk.get? folder = some .folder ∧
        (Utf8.encode name).length ≤ maxNameOctets ∧ goal = folder ++ [name] := by
  induction names generalizing location with
  | nil =>
    rw [List.nil_append, follow_cons_eq_ok_iff]
    simp only [follow, Except.ok.injEq]
    constructor
    · rintro ⟨hfolder, ⟨habove, -⟩ | ⟨-, hshort, rfl⟩⟩
      · exact absurd habove hname
      · exact ⟨location, rfl, hfolder, hshort, rfl⟩
    · rintro ⟨folder, rfl, hfolder, hshort, rfl⟩
      exact ⟨hfolder, Or.inr ⟨hname, hshort, rfl⟩⟩
  | cons head rest ih =>
    simp only [List.cons_append, follow_cons_eq_ok_iff, ih]
    constructor
    · rintro ⟨hfolder, ⟨hhead, folder, hfollow, hrest⟩ | ⟨hhead, hshort, folder, hfollow, hrest⟩⟩
      · exact ⟨folder, ⟨hfolder, Or.inl ⟨hhead, hfollow⟩⟩, hrest⟩
      · exact ⟨folder, ⟨hfolder, Or.inr ⟨hhead, hshort, hfollow⟩⟩, hrest⟩
    · rintro ⟨folder, ⟨hfolder, ⟨hhead, hfollow⟩ | ⟨hhead, hshort, hfollow⟩⟩, hrest⟩
      · exact ⟨hfolder, Or.inl ⟨hhead, folder, hfollow, hrest⟩⟩
      · exact ⟨hfolder, Or.inr ⟨hhead, hshort, folder, hfollow, hrest⟩⟩

/-- `locate` leads to the last name of the path, in the `folder` that `follow` reaches with the names
before it. -/
theorem locate_eq_ok_append {disk : Disk} {path : Path} {names : List Text} {name : Text}
    {location : Location} (hnames : path.names = names ++ [name]) (hname : name ≠ parentName)
    (h : disk.locate path = .ok location) :
    ∃ folder, disk.follow (disk.start path) names = .ok folder ∧
      disk.get? folder = some .folder ∧ location = folder ++ [name] := by
  unfold locate at h
  split at h
  · simp at h
  · rw [hnames, follow_append_eq_ok_iff hname] at h
    obtain ⟨folder, hfollow, hfolder, -, hlocation⟩ := h
    exact ⟨folder, hfollow, hfolder, hlocation⟩

/-- A path `other` that differs from `path` in its last name leads into the same `folder`. -/
theorem locate_sibling {disk : Disk} {path other : Path} {names : List Text} {name : Text}
    {folder place : Location} (hanchor : other.anchor = path.anchor)
    (hnames : other.names = names ++ [name]) (hname : name ≠ parentName)
    (hfollow : disk.follow (disk.start path) names = .ok folder)
    (h : disk.locate other = .ok place) : place = folder ++ [name] := by
  obtain ⟨folder', hfollow', -, hplace⟩ := locate_eq_ok_append hnames hname h
  have hstart : disk.start other = disk.start path := by
    simp only [start, hanchor]
  rw [hstart, hfollow, Except.ok.injEq] at hfollow'
  rw [hplace, hfollow']

/-! ### The operations -/

theorem find_eq_ok_iff {disk : Disk} {path : Path} {location : Location} {node : Node} :
    disk.find path = .ok (location, node) ↔
      disk.locate path = .ok location ∧ disk.get? location = some node := by
  unfold find
  cases hlocate : disk.locate path with
  | error refusal => simp [bind, Except.bind]
  | ok reached =>
    simp only [bind, Except.bind]
    split
    · rename_i hget
      simp only [reduceCtorEq, Except.ok.injEq, false_iff, not_and]
      rintro rfl
      simp [hget]
    · rename_i found hget
      simp only [Except.ok.injEq, Prod.mk.injEq]
      constructor
      · rintro ⟨rfl, rfl⟩
        exact ⟨rfl, hget⟩
      · rintro ⟨rfl, hnode⟩
        rw [hget, Option.some.injEq] at hnode
        exact ⟨rfl, hnode⟩

/-- `follow` refuses with `missing`, `notFolder` or `nameTooLong`. -/
theorem follow_error_cases {disk : Disk} {location : Location} {names : List Text} {refusal : Refusal}
    (h : disk.follow location names = .error refusal) :
    refusal = .missing ∨ refusal = .notFolder ∨ refusal = .nameTooLong := by
  fun_induction follow disk location names <;> simp_all

/-- `find` refuses with the three refusals of `follow`. -/
theorem find_error_cases {disk : Disk} {path : Path} {refusal : Refusal}
    (h : disk.find path = .error refusal) :
    refusal = .missing ∨ refusal = .notFolder ∨ refusal = .nameTooLong := by
  rw [find, locate] at h
  split at h
  · cases h
    exact .inr (.inr rfl)
  · cases hfollow : disk.follow (disk.start path) path.names with
    | error lost =>
      rw [hfollow] at h
      cases h
      exact follow_error_cases hfollow
    | ok location =>
      simp only [hfollow, bind, Except.bind] at h
      split at h <;> cases h
      exact .inl rfl

theorem read_eq_ok_iff {disk : Disk} {path : Path} {octets : Octets} :
    disk.read path = .ok octets ↔
      ∃ location, disk.locate path = .ok location ∧
        (disk.get? location = some (.file octets) ∨
          disk.get? location = some .device ∧ octets = []) := by
  have hfind : ∀ location node, disk.find path = .ok (location, node) ↔ _ :=
    fun location node => find_eq_ok_iff
  unfold read
  cases h : disk.find path with
  | error refusal =>
    simp only [bind, Except.bind, reduceCtorEq, false_iff]
    rintro ⟨location, hlocate, hnode | ⟨hnode, -⟩⟩
    · simp [(hfind _ _).mpr ⟨hlocate, hnode⟩] at h
    · simp [(hfind _ _).mpr ⟨hlocate, hnode⟩] at h
  | ok found =>
    obtain ⟨location, node⟩ := found
    obtain ⟨hlocate, hnode⟩ := (hfind _ _).mp h
    simp only [bind, Except.bind, hlocate, Except.ok.injEq, exists_eq_left', hnode,
      Option.some.injEq]
    cases node with
    | file found => simp
    | folder => simp
    | device => simp [eq_comm]

/-- A file can be written at the path: `locate` leads somewhere, and not to a folder. -/
def Admits (disk : Disk) (path : Path) : Prop :=
  ∃ location, disk.locate path = .ok location ∧ disk.get? location ≠ some .folder

theorem SameFolders.admits_iff {disk other : Disk} (h : SameFolders disk other) (path : Path) :
    disk.Admits path ↔ other.Admits path := by
  simp only [Admits, h.locate_iff, ne_eq, h.folder]

theorem update_eq_ok_iff {disk after : Disk} {path : Path} {change : Octets → Octets} :
    disk.update path change = .ok after ↔
      ∃ location, disk.locate path = .ok location ∧
        ((disk.get? location = none ∧ after = disk.set location (.file (change []))) ∨
          (∃ octets, disk.get? location = some (.file octets) ∧
            after = disk.set location (.file (change octets))) ∨
          (disk.get? location = some .device ∧ after = disk)) := by
  unfold update
  cases hlocate : disk.locate path with
  | error refusal => simp [bind, Except.bind]
  | ok location =>
    simp only [bind, Except.bind, Except.ok.injEq, exists_eq_left']
    cases hget : disk.get? location with
    | none => simp [eq_comm]
    | some node =>
      cases node with
      | file octets => simp [eq_comm]
      | folder => simp
      | device => simp [eq_comm]

/-- `update` ends well exactly where the disk `Admits` the path. -/
theorem update_isOk_iff {disk : Disk} {path : Path} {change : Octets → Octets} :
    (∃ after, disk.update path change = .ok after) ↔ disk.Admits path := by
  constructor
  · rintro ⟨after, h⟩
    obtain ⟨location, hlocate, ⟨hget, -⟩ | ⟨octets, hget, -⟩ | ⟨hget, -⟩⟩ := update_eq_ok_iff.mp h
    · exact ⟨location, hlocate, by simp [hget]⟩
    · exact ⟨location, hlocate, by simp [hget]⟩
    · exact ⟨location, hlocate, by simp [hget]⟩
  · rintro ⟨location, hlocate, hget⟩
    cases hnode : disk.get? location with
    | none => exact ⟨_, update_eq_ok_iff.mpr ⟨location, hlocate, Or.inl ⟨hnode, rfl⟩⟩⟩
    | some node =>
      cases node with
      | file octets =>
        exact ⟨_, update_eq_ok_iff.mpr ⟨location, hlocate, Or.inr (Or.inl ⟨octets, hnode, rfl⟩)⟩⟩
      | folder => exact absurd hnode hget
      | device =>
        exact ⟨disk, update_eq_ok_iff.mpr ⟨location, hlocate, Or.inr (Or.inr ⟨hnode, rfl⟩)⟩⟩

/-- `update` keeps the folders. -/
theorem update_sameFolders {disk after : Disk} {path : Path} {change : Octets → Octets}
    (h : disk.update path change = .ok after) : SameFolders disk after := by
  obtain ⟨location, -, ⟨hget, rfl⟩ | ⟨octets, hget, rfl⟩ | ⟨-, rfl⟩⟩ := update_eq_ok_iff.mp h
  · exact sameFolders_set (by simp [hget]) (by simp)
  · exact sameFolders_set (by simp [hget]) (by simp)
  · exact SameFolders.refl _

/-- `update` changes nothing but the location that `locate` leads to. -/
theorem get?_update {disk after : Disk} {path : Path} {change : Octets → Octets}
    {location other : Location} (h : disk.update path change = .ok after)
    (hlocate : disk.locate path = .ok location) (hother : other ≠ location) :
    after.get? other = disk.get? other := by
  obtain ⟨reached, hreached, hcases⟩ := update_eq_ok_iff.mp h
  rw [hlocate, Except.ok.injEq] at hreached
  subst hreached
  obtain ⟨hget, rfl⟩ | ⟨octets, hget, rfl⟩ | ⟨-, rfl⟩ := hcases
  · have hfree : disk.get? location ≠ some .folder := by simp [hget]
    rw [get?_set _ _ _ _ (ne_top_of_get? hfree), if_neg hother]
  · have hfree : disk.get? location ≠ some .folder := by simp [hget]
    rw [get?_set _ _ _ _ (ne_top_of_get? hfree), if_neg hother]
  · rfl

/-- What `update` leaves at `location` depends on nothing but what stood there: `other` is a disk with
the same there. -/
theorem get?_update_congr {disk other after after' : Disk} {path : Path} {change : Octets → Octets}
    {location : Location} (h : disk.update path change = .ok after)
    (h' : other.update path change = .ok after') (hlocate : disk.locate path = .ok location)
    (hlocate' : other.locate path = .ok location) (hsame : other.get? location = disk.get? location) :
    after'.get? location = after.get? location := by
  unfold update at h h'
  simp only [hlocate, hlocate', hsame, bind, Except.bind] at h h'
  -- `update` looks at what stands there, and at nothing else.
  cases hget : disk.get? location with
  | none =>
    have hne := ne_top_of_get? (by simp [hget] : disk.get? location ≠ some .folder)
    rw [hget] at h h'
    cases h
    cases h'
    rw [get?_set _ _ _ _ hne, get?_set _ _ _ _ hne, hsame]
  | some node =>
    rw [hget] at h h'
    cases node with
    | file octets =>
      have hne := ne_top_of_get? (by simp [hget] : disk.get? location ≠ some .folder)
      cases h
      cases h'
      rw [get?_set _ _ _ _ hne, get?_set _ _ _ _ hne, hsame]
    | folder => cases h
    | device =>
      cases h
      cases h'
      exact hsame

theorem remove_eq_ok_iff {disk after : Disk} {path : Path} :
    disk.remove path = .ok after ↔
      ∃ location node, disk.locate path = .ok location ∧ disk.get? location = some node ∧
        node ≠ .folder ∧ after = disk.erase location := by
  unfold remove
  cases h : disk.find path with
  | error refusal =>
    simp only [bind, Except.bind, reduceCtorEq, false_iff]
    rintro ⟨location, node, hlocate, hget, -, -⟩
    simp [find_eq_ok_iff.mpr ⟨hlocate, hget⟩] at h
  | ok found =>
    obtain ⟨location, node⟩ := found
    obtain ⟨hlocate, hget⟩ := find_eq_ok_iff.mp h
    simp only [bind, Except.bind, hlocate, Except.ok.injEq]
    cases node with
    | file octets => simp [hget, eq_comm]
    | folder => simp [hget]
    | device => simp [hget, eq_comm]

theorem remove_missing {disk : Disk} {path : Path} {location : Location}
    (hlocate : disk.locate path = .ok location) (hget : disk.get? location = none) :
    disk.remove path = .error .missing := by
  simp [remove, find, hlocate, hget, bind, Except.bind]

/-- `move` of a file to the name `name'` in its own `folder`. A file at that name is replaced. Where the
disk does not `Admits` the `target`, `move` is refused. -/
theorem move_file {disk : Disk} {path target : Path} {folder : Location} {name name' : Text}
    {octets : Octets} (hpath : endsAbove path = false) (htarget : endsAbove target = false)
    (hfind : disk.find path = .ok (folder ++ [name], .file octets)) (hname : name' ≠ name)
    (hplace : ∀ place, disk.locate target = .ok place → place = folder ++ [name']) :
    (disk.Admits target ∧ disk.move path target
        = .ok ((disk.erase (folder ++ [name])).set (folder ++ [name']) (.file octets))) ∨
      (¬disk.Admits target ∧ ∃ refusal, disk.move path target = .error refusal) := by
  have hmove : disk.move path target =
      (disk.locate target).bind fun place =>
        if place = folder ++ [name] then .ok disk
        else if isBelow (folder ++ [name]) place then .error .intoItself
        else if disk.get? place = some .folder then .error .isFolder
        else .ok ((disk.erase (folder ++ [name])).set place (.file octets)) := by
    simp only [move, hpath, htarget, Bool.or_self, Bool.false_eq_true, if_false, hfind]
    cases disk.locate target with
    | error refusal => rfl
    | ok place =>
      simp only [bind, Except.bind]
      split
      · rfl
      · split
        · rfl
        · cases disk.get? place with
          | none => rfl
          | some node => cases node <;> rfl
  rw [hmove]
  cases hlocate : disk.locate target with
  | error refusal =>
    right
    refine ⟨?_, refusal, rfl⟩
    rintro ⟨place, h, -⟩
    simp [hlocate] at h
  | ok place =>
    -- Both names are in one folder, so neither location lies below the other.
    have hne : ¬folder ++ [name'] = folder ++ [name] := by simpa using hname
    have hbelow : isBelow (folder ++ [name]) (folder ++ [name']) = false := by
      simp [isBelow]
    obtain rfl := hplace place hlocate
    simp only [Except.bind, if_neg hne, hbelow, Bool.false_eq_true, if_false]
    by_cases hget : disk.get? (folder ++ [name']) = some .folder
    · right
      rw [if_pos hget]
      refine ⟨?_, .isFolder, rfl⟩
      rintro ⟨other, hother, hfree⟩
      rw [hlocate, Except.ok.injEq] at hother
      exact hfree (hother ▸ hget)
    · left
      rw [if_neg hget]
      exact ⟨⟨_, hlocate, hget⟩, rfl⟩

/-! ### A file written -/

/-- The disk `after` has a file of `octets` at `place`, and `get?` finds what it found on `disk`
everywhere else. -/
structure Wrote (disk after : Disk) (place : Location) (octets : Octets) : Prop where
  folders : SameFolders disk after
  get? : ∀ location, after.get? location
    = if location = place then some (.file octets) else disk.get? location

namespace Wrote

variable {disk mid after : Disk} {place other : Location} {octets octets' : Octets}

theorem get?_place (h : Wrote disk after place octets) :
    after.get? place = some (.file octets) := by
  rw [h.get?, if_pos rfl]

theorem get?_of_ne (h : Wrote disk after place octets) (hother : other ≠ place) :
    after.get? other = disk.get? other := by
  rw [h.get?, if_neg hother]

/-- Of two files that `Wrote` puts at one `place`, the second counts. -/
theorem trans (h : Wrote disk mid place octets) (h' : Wrote mid after place octets') :
    Wrote disk after place octets' := by
  refine ⟨h.folders.trans h'.folders, fun location => ?_⟩
  rw [h'.get?]
  split
  · rfl
  · rename_i hne
    exact h.get?_of_ne hne

end Wrote

theorem wrote_set {disk : Disk} {place : Location} (octets : Octets)
    (hfree : disk.get? place ≠ some .folder) : Wrote disk (disk.set place (.file octets)) place octets :=
  ⟨sameFolders_set hfree (by simp), fun location => get?_set _ _ _ _ (ne_top_of_get? hfree)⟩

/-- `update` at a `place` with nothing, or with a file of the octets `previous`, leaves a file there:
`Wrote` holds. -/
theorem update_wrote {disk : Disk} {path : Path} {place : Location} (change : Octets → Octets)
    (previous : Option Octets) (hlocate : disk.locate path = .ok place)
    (hget : disk.get? place = previous.map .file) :
    ∃ after, disk.update path change = .ok after ∧
      Wrote disk after place (change (previous.getD [])) := by
  cases previous with
  | none =>
    exact ⟨_, update_eq_ok_iff.mpr ⟨place, hlocate, Or.inl ⟨hget, rfl⟩⟩,
      wrote_set _ (by simp [hget])⟩
  | some octets =>
    exact ⟨_, update_eq_ok_iff.mpr ⟨place, hlocate, Or.inr (Or.inl ⟨octets, hget, rfl⟩)⟩,
      wrote_set _ (by simp [hget])⟩

/-- `update` of a file that is there: `update_wrote` for the octets of that file. -/
theorem update_file {disk : Disk} {path : Path} {place : Location} {octets : Octets}
    (change : Octets → Octets) (hlocate : disk.locate path = .ok place)
    (hget : disk.get? place = some (.file octets)) :
    ∃ after, disk.update path change = .ok after ∧ Wrote disk after place (change octets) :=
  update_wrote change (some octets) hlocate hget

/-! ### What is spared -/

/-- The disks have `SameFolders`, and `get?` finds the same on both at each location that is `kept`. -/
structure Spares (disk after : Disk) (kept : Location → Prop) : Prop where
  folders : SameFolders disk after
  get? : ∀ location, kept location → after.get? location = disk.get? location

namespace Spares

variable {disk mid after : Disk} {kept kept' : Location → Prop}

theorem refl (disk : Disk) (kept : Location → Prop) : Spares disk disk kept :=
  ⟨.refl disk, fun _ _ => rfl⟩

theorem symm (h : Spares disk after kept) : Spares after disk kept :=
  ⟨h.folders.symm, fun location hkept => (h.get? location hkept).symm⟩

theorem trans (h : Spares disk mid kept) (h' : Spares mid after kept) : Spares disk after kept :=
  ⟨h.folders.trans h'.folders, fun location hkept =>
    (h'.get? location hkept).trans (h.get? location hkept)⟩

theorem mono (h : Spares disk after kept) (hkept : ∀ location, kept' location → kept location) :
    Spares disk after kept' :=
  ⟨h.folders, fun location hmem => h.get? location (hkept location hmem)⟩

/-- `find` finds the same on both disks, if the path leads to a location that is `kept`. -/
theorem find_eq (h : Spares disk after kept) {path : Path}
    (hkept : ∀ location, disk.locate path = .ok location → kept location) :
    (after.find path).toOption = (disk.find path).toOption := by
  have hfind : ∀ {disk : Disk} {found : Location × Node}, (disk.find path).toOption = some found ↔
      disk.find path = .ok found := fun {disk found} => by
    cases disk.find path <;> simp [Except.toOption]
  refine Option.ext fun found => ?_
  rw [hfind, hfind, find_eq_ok_iff, find_eq_ok_iff, ← h.folders.locate_iff]
  refine and_congr_right fun hlocate => ?_
  rw [h.get? found.1 (hkept found.1 hlocate)]

/-- An `update` that ends well on `disk` ends well on `other` too, if the path leads to a location that
is `kept`. -/
theorem update_ok {other : Disk} (h : Spares disk other kept) {path : Path}
    {change : Octets → Octets}
    (hkept : ∀ location, disk.locate path = .ok location → kept location)
    (hupdate : disk.update path change = .ok after) :
    ∃ after', other.update path change = .ok after' ∧ Spares after after' kept := by
  obtain ⟨after', hupdate'⟩ := update_isOk_iff.mpr
    ((h.folders.admits_iff path).mp (update_isOk_iff.mp ⟨after, hupdate⟩))
  refine ⟨after', hupdate', (update_sameFolders hupdate).symm.trans
    (h.folders.trans (update_sameFolders hupdate')), fun location hlocation => ?_⟩
  obtain ⟨place, hplace, -⟩ := update_eq_ok_iff.mp hupdate
  have hplace' := (h.folders.locate_iff path place).mp hplace
  by_cases heq : location = place
  · rw [heq]
    exact get?_update_congr hupdate hupdate' hplace hplace' (h.get? place (hkept place hplace))
  · rw [get?_update hupdate' hplace' heq, get?_update hupdate hplace heq, h.get? location hlocation]

end Spares

theorem Wrote.spares {disk after : Disk} {place : Location} {octets : Octets}
    (h : Wrote disk after place octets) : Spares disk after (· ≠ place) :=
  ⟨h.folders, fun _ hne => h.get?_of_ne hne⟩

/-! ### What is taken away -/

/-- `get?` finds nothing on `after` at the `places`, and what it found on `disk` everywhere else. -/
structure Cleared (disk after : Disk) (places : List Location) : Prop where
  folders : SameFolders disk after
  get? : ∀ location, after.get? location
    = if location ∈ places then none else disk.get? location

theorem cleared_erase {disk : Disk} {place : Location} (h : disk.get? place ≠ some .folder) :
    Cleared disk (disk.erase place) [place] := by
  refine ⟨sameFolders_erase h, fun location => ?_⟩
  rw [get?_erase _ _ _ (ne_top_of_get? h)]
  simp

namespace Cleared

variable {disk mid after : Disk} {place : Location} {places others : List Location}

theorem nil (disk : Disk) : Cleared disk disk [] :=
  ⟨.refl disk, fun location => by simp⟩

theorem append (h : Cleared disk mid places) (h' : Cleared mid after others) :
    Cleared disk after (places ++ others) := by
  refine ⟨h.folders.trans h'.folders, fun location => ?_⟩
  rw [h'.get?, h.get?]
  by_cases hothers : location ∈ others <;> simp [hothers]

theorem get?_of_mem (h : Cleared disk after places) (hmem : place ∈ places) :
    after.get? place = none := by
  rw [h.get?, if_pos hmem]

theorem spares (h : Cleared disk after places) : Spares disk after (· ∉ places) :=
  ⟨h.folders, fun location hne => by rw [h.get?, if_neg hne]⟩

/-- `Cleared` for a disk on which a file was written at a free `place`: that place is one more to
clear. -/
theorem of_wrote {octets : Octets} (h : Cleared disk after places) (hwrote : Wrote disk mid place octets)
    (hfree : disk.get? place = none) : Cleared mid after (places ++ [place]) := by
  refine ⟨hwrote.folders.symm.trans h.folders, fun location => ?_⟩
  rw [h.get?, hwrote.get?]
  by_cases heq : location = place
  · simp [heq, hfree]
  · simp [heq]

end Cleared

/-! ### Files written one after the other -/

/-- The `writes` are done in their order, so that of two at one location the later counts. -/
structure WroteAll (disk : Disk) (writes : List (Location × Octets)) (after : Disk) : Prop where
  folders : SameFolders disk after
  get? : ∀ location, after.get? location
    = ((writes.reverse.lookup location).map Node.file).or (disk.get? location)

theorem Wrote.wroteAll {disk after : Disk} {place : Location} {octets : Octets}
    (h : Wrote disk after place octets) : WroteAll disk [(place, octets)] after := by
  refine ⟨h.folders, fun location => ?_⟩
  rw [h.get?, List.reverse_singleton, List.lookup_cons, List.lookup_nil]
  by_cases heq : location = place
  · rw [if_pos heq, beq_iff_eq.mpr heq]
    rfl
  · rw [if_neg heq, beq_eq_false_iff_ne.mpr heq]
    rfl

namespace WroteAll

variable {disk mid after : Disk} {writes later : List (Location × Octets)} {location : Location}

theorem of_same (hfolders : SameFolders disk after)
    (hsame : ∀ location, after.get? location = disk.get? location) : WroteAll disk [] after :=
  ⟨hfolders, fun location => by rw [hsame]; rfl⟩

theorem trans (h : WroteAll disk writes mid) (h' : WroteAll mid later after) :
    WroteAll disk (writes ++ later) after := by
  refine ⟨h.folders.trans h'.folders, fun location => ?_⟩
  rw [h'.get?, h.get?, List.reverse_append, List.lookup_append, Option.map_or, Option.or_assoc]

/-- `get?` finds what it found before at a location that is in none of the `writes`. -/
theorem get?_of_ne (h : WroteAll disk writes after) (hne : ∀ write ∈ writes, location ≠ write.1) :
    after.get? location = disk.get? location := by
  have hnone : writes.reverse.lookup location = none := by
    refine List.lookup_eq_none_iff.mpr fun write hmem => ?_
    simpa using hne write (List.mem_reverse.mp hmem)
  rw [h.get?, hnone]
  rfl

/-- The `writes` make no device. -/
theorem get?_device (h : WroteAll disk writes after) (hget : after.get? location = some .device) :
    disk.get? location = some .device := by
  rw [h.get?] at hget
  cases hlookup : writes.reverse.lookup location with
  | none => rwa [hlookup] at hget
  | some octets =>
    rw [hlookup] at hget
    cases hget

/-- The file of a `write` is there in the end, if all the `writes` at its location have its octets. -/
theorem get?_of_mem (h : WroteAll disk writes after) {write : Location × Octets}
    (hmem : write ∈ writes)
    (hone : ∀ other ∈ writes, other.1 = write.1 → other.2 = write.2) :
    after.get? write.1 = some (.file write.2) := by
  rw [h.get?]
  cases hlookup : writes.reverse.lookup write.1 with
  | none =>
    have hne := List.lookup_eq_none_iff.mp hlookup write (List.mem_reverse.mpr hmem)
    simp at hne
  | some octets =>
    -- The file that counts is one of those at the place.
    obtain ⟨front, rest, hwrites, -⟩ := List.lookup_eq_some_iff.mp hlookup
    have hlast : (write.1, octets) ∈ writes := by
      rw [← List.mem_reverse, hwrites]
      simp
    rw [← hone _ hlast rfl]
    rfl

end WroteAll

end Externalize.Disk
