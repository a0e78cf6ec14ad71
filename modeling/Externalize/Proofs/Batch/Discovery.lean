import Externalize.Proofs.Batch.Run

/-!
# `Externalize.Proofs.Batch.Discovery`: which files are found, and which after some are deleted

The order of the files that are found does not depend on the order of the nodes, so leaving some names
out before sorting or after it is the same (`mergeSort_filter`).

On a tree (`Disk.IsTree`) the path of a file that is found leads to the file, unless it is too long, and
no two of these paths lead to the same place. `discover_found` says so, and `discover_without` says what
is found after some of the files were deleted: the others. A tree without some of its files is a tree,
and no path in it has become longer (`IsTree.clear`, `Cleared.fits`).
-/

set_option autoImplicit false

namespace Externalize

open Disk (Cleared SameFolders)

/-- `mergeSort` commutes with `filter`. -/
theorem mergeSort_filter (keep : List Text → Bool) (found : List (List Text)) :
    (found.filter keep).mergeSort inOrder = (found.mergeSort inOrder).filter keep := by
  have hperm : ((found.filter keep).mergeSort inOrder).Perm ((found.mergeSort inOrder).filter keep) :=
    (List.mergeSort_perm _ _).trans ((List.mergeSort_perm found inOrder).filter keep).symm
  exact hperm.eq_of_pairwise (fun _ _ _ _ => le_antisymm) (pairwise_le_mergeSort inOrder_iff _)
    ((pairwise_le_mergeSort inOrder_iff found).filter keep)

namespace Disk

/-! ### Deleting files -/

/-- The locations that `locate` gives for the paths, as far as it gives any. -/
def placesOf (disk : Disk) (paths : List Path) : List Location :=
  paths.filterMap fun path => (disk.locate path).toOption

theorem mem_placesOf {disk : Disk} {paths : List Path} {place : Location} :
    place ∈ disk.placesOf paths ↔ ∃ path ∈ paths, disk.locate path = .ok place := by
  rw [placesOf, List.mem_filterMap]
  refine exists_congr fun path => and_congr_right fun _ => ?_
  cases disk.locate path <;> simp [Except.toOption]

theorem not_folder_of_placesOf {disk : Disk} {paths : List Path}
    (h : ∀ path ∈ paths, ∀ place, disk.locate path = .ok place → disk.get? place ≠ some .folder) :
    ∀ place ∈ disk.placesOf paths, disk.get? place ≠ some .folder := by
  intro place hplace
  obtain ⟨path, hpath, hlocate⟩ := mem_placesOf.mp hplace
  exact h path hpath place hlocate

theorem SameFolders.placesOf_eq {disk other : Disk} (h : SameFolders disk other) (paths : List Path) :
    disk.placesOf paths = other.placesOf paths := by
  refine List.filterMap_congr fun path _ => Option.ext fun place => ?_
  have hiff := h.locate_iff path place
  revert hiff
  cases disk.locate path <;> cases other.locate path <;> simp [Except.toOption]

/-- The disk after `erase` of all the `places`. -/
def clear (disk : Disk) (places : List Location) : Disk :=
  { disk with nodes := disk.nodes.filter fun entry => entry.1 ∉ places }

theorem clear_clear (disk : Disk) (places others : List Location) :
    (disk.clear places).clear others = disk.clear (places ++ others) := by
  simp only [clear, List.filter_filter, List.mem_append, not_or, Bool.decide_and, Bool.and_comm]

theorem clear_of_notMem {disk : Disk} {places : List Location}
    (h : ∀ entry ∈ disk.nodes, entry.1 ∉ places) : disk.clear places = disk := by
  rw [clear, List.filter_eq_self.mpr fun entry hmem => decide_eq_true (h entry hmem)]

theorem erase_eq_clear (disk : Disk) (place : Location) : disk.erase place = disk.clear [place] := by
  refine congrArg (fun nodes => { disk with nodes }) (List.filter_congr fun entry _ => ?_)
  by_cases heq : entry.1 = place <;> simp [heq]

theorem lookup_filter_notMem (nodes : List (Location × Node)) (places : List Location)
    (location : Location) :
    (nodes.filter fun entry => entry.1 ∉ places).lookup location
      = if location ∈ places then none else nodes.lookup location := by
  induction nodes with
  | nil => simp
  | cons entry nodes ih =>
    by_cases hplace : entry.1 ∈ places
    · rw [List.filter_cons_of_neg (by simpa using hplace), ih, List.lookup_cons]
      split
      · rfl
      · rename_i hother
        have hne : (location == entry.1) = false := by
          rw [beq_eq_false_iff_ne]
          rintro rfl
          exact hother hplace
        rw [hne]
    · rw [List.filter_cons_of_pos (by simpa using hplace), List.lookup_cons, List.lookup_cons, ih]
      by_cases heq : location = entry.1
      · simp [heq, hplace]
      · rw [beq_eq_false_iff_ne.mpr heq]

/-- `clear` is `Cleared`, if no folder stands at the `places`. -/
theorem cleared_clear {disk : Disk} {places : List Location}
    (h : ∀ place ∈ places, disk.get? place ≠ some .folder) :
    Cleared disk (disk.clear places) places := by
  have hget : ∀ location, (disk.clear places).get? location
      = if location ∈ places then none else disk.get? location := by
    intro location
    by_cases htop : location = []
    · have hmem : location ∉ places := fun hmem => ne_top_of_get? (h location hmem) htop
      simp [htop, htop ▸ hmem]
    · simp only [get?, if_neg htop, clear, lookup_filter_notMem]
  refine ⟨⟨rfl, fun location => ?_⟩, hget⟩
  rw [hget]
  split
  · rename_i hmem
    simp [h location hmem]
  · rfl

/-- `clear` keeps `IsTree`, if no folder stands at the `places`. -/
theorem IsTree.clear {disk : Disk} (h : disk.IsTree) {places : List Location}
    (hfree : ∀ place ∈ places, disk.get? place ≠ some .folder) : (disk.clear places).IsTree := by
  have hcleared := cleared_clear hfree
  have hnodes : ∀ entry ∈ (disk.clear places).nodes, entry ∈ disk.nodes :=
    fun entry hmem => (List.mem_filter.mp hmem).1
  refine ⟨?_, ?_, ?_, ?_⟩
  · exact h.nodup.sublist (List.filter_sublist.map _)
  · intro entry hmem
    exact (hcleared.folders.folder _).mp (h.above entry (hnodes entry hmem))
  · intro entry hmem
    exact h.named entry (hnodes entry hmem)
  · intro entry hmem
    exact h.noZero entry (hnodes entry hmem)

/-- `Fits` is kept by `Cleared`: where all could be looked at, the rest still can. -/
theorem Cleared.fits {disk after : Disk} {places : List Location} (h : Cleared disk after places)
    {path : Path} {folder : Location} (hfits : disk.Fits path folder) : after.Fits path folder := by
  intro names hnames hlong
  obtain ⟨hne, hget⟩ := mem_below.mp hnames
  rw [h.get?] at hget
  have hbelow : names ∈ disk.below folder := by
    refine mem_below.mpr ⟨hne, fun hnone => hget ?_⟩
    rw [hnone, ite_self]
  exact hfits names hbelow (h.folders.symm.locate_tooLong hlong)

/-- The disk after `remove` of all the paths, as far as it ends well. -/
def without (disk : Disk) (paths : List Path) : Disk :=
  paths.foldl (fun disk path => (disk.remove path).toOption.getD disk) disk

/-- `remove` is `clear` of the place that the path leads to, if it leads anywhere. -/
theorem remove_getD {disk : Disk} {path : Path}
    (h : ∀ place, disk.locate path = .ok place → disk.get? place ≠ some .folder) :
    (disk.remove path).toOption.getD disk = disk.clear (disk.placesOf [path]) := by
  cases hlocate : disk.locate path with
  | error refusal =>
    have hremove : disk.remove path = .error refusal := by
      simp [remove, find, hlocate, bind, Except.bind]
    have hplaces : disk.placesOf [path] = [] := by simp [placesOf, hlocate, Except.toOption]
    rw [hremove, hplaces, clear_of_notMem (by simp)]
    rfl
  | ok place =>
    have hfree := h place hlocate
    have hplaces : disk.placesOf [path] = [place] := by simp [placesOf, hlocate, Except.toOption]
    rw [hplaces]
    cases hget : disk.get? place with
    | none =>
      -- `remove` refuses, and there is nothing to clear either.
      rw [remove_missing hlocate hget, clear_of_notMem]
      · rfl
      · intro entry hmem hplace
        rw [List.mem_singleton] at hplace
        rw [get?, if_neg (ne_top_of_get? hfree), List.lookup_eq_none_iff] at hget
        simpa [hplace] using hget entry hmem
    | some node =>
      rw [remove_eq_ok_iff.mpr ⟨place, node, hlocate, hget, fun hnode => hfree (hnode ▸ hget), rfl⟩,
        ← erase_eq_clear]
      rfl

/-- `without` is `clear` of the `placesOf` the paths. -/
theorem without_eq_clear {disk : Disk} {paths : List Path}
    (h : ∀ path ∈ paths, ∀ place, disk.locate path = .ok place → disk.get? place ≠ some .folder) :
    disk.without paths = disk.clear (disk.placesOf paths) := by
  induction paths generalizing disk with
  | nil => exact (clear_of_notMem (by simp [placesOf])).symm
  | cons path paths ih =>
    have hfirst := remove_getD (h path (by simp))
    have hcleared : Cleared disk (disk.clear (disk.placesOf [path])) (disk.placesOf [path]) := by
      refine cleared_clear (not_folder_of_placesOf fun other hother => ?_)
      exact List.mem_singleton.mp hother ▸ h path (by simp)
    have hfolders := hcleared.folders
    have hrest : (disk.clear (disk.placesOf [path])).without paths = _ :=
      ih fun other hmem place hlocate hget => h other (List.mem_cons_of_mem _ hmem) place
        ((hfolders.locate_iff other place).mpr hlocate) ((hfolders.folder place).mpr hget)
    show ((disk.remove path).toOption.getD disk).without paths = _
    rw [hfirst, hrest, ← hfolders.placesOf_eq, clear_clear, placesOf, placesOf, placesOf,
      ← List.filterMap_append]
    rfl

theorem cleared_without {disk : Disk} {paths : List Path}
    (h : ∀ path ∈ paths, ∀ place, disk.locate path = .ok place → disk.get? place ≠ some .folder) :
    Cleared disk (disk.without paths) (disk.placesOf paths) := by
  rw [without_eq_clear h]
  exact cleared_clear (not_folder_of_placesOf h)

theorem IsTree.without {disk : Disk} (htree : disk.IsTree) {paths : List Path}
    (h : ∀ path ∈ paths, ∀ place, disk.locate path = .ok place → disk.get? place ≠ some .folder) :
    (disk.without paths).IsTree := by
  rw [without_eq_clear h]
  exact htree.clear (not_folder_of_placesOf h)

end Disk

/-! ### The files that are found -/

/-- Paths of files that are all in different places. A path that leads nowhere is too long. -/
structure Found (disk : Disk) (files : List Path) : Prop where
  nodup : files.Nodup
  noZero : ∀ file ∈ files, ¬Job.HasZero file
  leads : ∀ file ∈ files, disk.locate file ≠ .error .nameTooLong → ∃ place node,
    disk.locate file = .ok place ∧ disk.get? place = some node ∧ node ≠ .folder
  apart : ∀ file ∈ files, ∀ other ∈ files, ∀ place, disk.locate file = .ok place →
    disk.locate other = .ok place → file = other

/-- No folder stands where one of the files that are `Found` is. -/
theorem Found.not_folder {disk : Disk} {files : List Path} (h : Found disk files) {file : Path}
    (hmem : file ∈ files) {place : Location} (hlocate : disk.locate file = .ok place) :
    disk.get? place ≠ some .folder := by
  obtain ⟨place', node, hlocate', hnode, hfile⟩ := h.leads file hmem (by simp [hlocate])
  obtain rfl := Except.ok.inj (hlocate.symm.trans hlocate')
  rw [hnode]
  simpa using hfile

/-- One of the files that are `Found` is not at the `placesOf` others. -/
theorem Found.notMem_placesOf {disk : Disk} {files gone : List Path} (h : Found disk files)
    (hgone : gone ⊆ files) {file : Path} (hmem : file ∈ files.filter (· ∉ gone)) {place : Location}
    (hlocate : disk.locate file = .ok place) : place ∉ disk.placesOf gone := by
  intro hplace
  obtain ⟨other, hother, hlocate'⟩ := Disk.mem_placesOf.mp hplace
  obtain ⟨hfile, hkept⟩ := List.mem_filter.mp hmem
  obtain rfl := h.apart file hfile other (hgone hother) place hlocate hlocate'
  exact of_decide_eq_true hkept hother

namespace Disk.IsTree

variable {disk : Disk} {root : Path} {location : Location} {names : List Text}

/-- Each of `sourcesBelow` a location of a tree is a node that is no folder. -/
theorem exists_source (h : disk.IsTree) (hnames : names ∈ disk.sourcesBelow location) :
    ∃ node, disk.get? (location ++ names) = some node ∧ node ≠ .folder := by
  obtain ⟨hbelow, hfile, -⟩ := h.mem_sourcesBelow.mp hnames
  obtain ⟨node, hnode⟩ := Option.ne_none_iff_exists'.mp (mem_below.mp hbelow).2
  exact ⟨node, hnode, fun hfolder => hfile (hfolder ▸ hnode)⟩

theorem locate_source (h : disk.IsTree) (hroot : disk.locate root = .ok location)
    (hnames : names ∈ disk.sourcesBelow location) :
    disk.locate { root with names := root.names ++ names } = .ok (location ++ names) ∨
      disk.locate { root with names := root.names ++ names } = .error .nameTooLong := by
  obtain ⟨node, hnode, -⟩ := h.exists_source hnames
  exact h.locate_below hroot (by simp [hnode])

/-- `locate` of one of `sourcesBelow` leads to its place. -/
theorem place_of_source (h : disk.IsTree) (hroot : disk.locate root = .ok location)
    (hnames : names ∈ disk.sourcesBelow location) {place : Location}
    (hlocate : disk.locate { root with names := root.names ++ names } = .ok place) :
    place = location ++ names := by
  rcases h.locate_source hroot hnames with hfound | hlong
  · exact Except.ok.inj (hlocate.symm.trans hfound)
  · cases hlocate.symm.trans hlong

theorem noZero_of_source (h : disk.IsTree) (hroot : ¬Job.HasZero root)
    (hnames : names ∈ disk.sourcesBelow location) :
    ¬Job.HasZero { root with names := root.names ++ names } := by
  obtain ⟨node, hnode, -⟩ := h.exists_source hnames
  rw [Job.HasZero, List.any_append, Bool.or_eq_true, not_or]
  refine ⟨hroot, ?_⟩
  rw [List.any_eq_true]
  rintro ⟨name, hname, hzero⟩
  exact h.noZero_of_get? (by simp [hnode]) name (List.mem_append_right location hname)
    (List.contains_iff_mem.mp hzero)

theorem found (h : disk.IsTree) (hzero : ¬Job.HasZero root)
    (hroot : disk.locate root = .ok location) :
    Found disk ((disk.sourcesBelow location).map
      fun names => { root with names := root.names ++ names }) := by
  refine ⟨?_, ?_, ?_, ?_⟩
  · rw [List.Nodup, List.pairwise_map]
    refine (h.pairwise_sourcesBelow location).imp fun hlt heq => hlt.ne ?_
    simpa using heq
  · rintro file hfile
    obtain ⟨names, hnames, rfl⟩ := List.mem_map.mp hfile
    exact h.noZero_of_source hzero hnames
  · rintro file hfile hlong
    obtain ⟨names, hnames, rfl⟩ := List.mem_map.mp hfile
    obtain ⟨node, hnode, hfree⟩ := h.exists_source hnames
    exact ⟨_, node, (h.locate_source hroot hnames).resolve_right hlong, hnode, hfree⟩
  · rintro file hfile other hother place hlocate hlocate'
    obtain ⟨names, hnames, rfl⟩ := List.mem_map.mp hfile
    obtain ⟨names', hnames', rfl⟩ := List.mem_map.mp hother
    have heq := (h.place_of_source hroot hnames hlocate).symm.trans
      (h.place_of_source hroot hnames' hlocate')
    rw [List.append_cancel_left heq]

end Disk.IsTree

/-- `sourcesBelow` after `clear`: those that are not at the `places`. -/
theorem Disk.sourcesBelow_clear (disk : Disk) (places : List Location) (location : Location) :
    (disk.clear places).sourcesBelow location
      = (disk.sourcesBelow location).filter fun names => location ++ names ∉ places := by
  rw [sourcesBelow, sourcesBelow, ← mergeSort_filter, clear, List.filterMap_filter,
    List.filter_filterMap]
  refine congrArg (List.mergeSort · inOrder) (List.filterMap_congr fun entry _ => ?_)
  cases hsource : sourceBelow? location entry with
  | none => simp
  | some names =>
    rw [(sourceBelow?_eq_some_iff.mp hsource).1]
    by_cases hmem : location ++ names ∈ places <;> simp [hmem, Option.filter]

namespace Job

/-- `findFiles` on a tree gives nothing, or `sourcesBelow` a folder that `Fits`. -/
theorem of_findFiles {root : Path} {space after : Workspace} {files : List Path}
    (htree : space.disk.IsTree) (h : (findFiles root).ends space = (.ok files, after)) :
    files = [] ∨ ∃ location, ¬HasZero root ∧ space.disk.find root = .ok (location, .folder) ∧
      space.disk.Fits root location ∧ files = (space.disk.sourcesBelow location).map
        fun names => { root with names := root.names ++ names } := by
  rcases node?_ends root space with ⟨hnode, -⟩ | ⟨location, node, hnode, hzero, hfind⟩ |
    ⟨fault, hnode, -⟩
  · rw [findFiles, ends_bind_ok hnode] at h
    cases h
    exact .inl rfl
  · cases node with
    | folder =>
      have hlocate := (Disk.find_eq_ok_iff.mp hfind).1
      rw [findFiles_folder hzero hfind] at h
      -- A folder in which some path is too long makes the search fail, against `h`.
      by_cases hfits : space.disk.Fits root location
      · rw [htree.walk_of_fits hlocate hfits] at h
        cases h
        exact .inr ⟨location, hzero, hfind, hfits, rfl⟩
      · obtain ⟨names, -, -, -, hwalk⟩ := htree.walk_of_tooLong hlocate hfits
        rw [hwalk] at h
        cases h
    | file octets =>
      rw [findFiles, ends_bind_ok hnode] at h
      cases h
      exact .inl rfl
    | device =>
      rw [findFiles, ends_bind_ok hnode] at h
      cases h
      exact .inl rfl
  · rw [findFiles, ends_bind_error hnode] at h
    cases h

theorem of_discover {folder : Path} {space after : Workspace} {files : List Path}
    (h : (discover folder).ends space = (.ok files, after)) :
    ∃ told, told.disk = space.disk ∧ (findFiles folder).ends told = (.ok files, after) := by
  obtain ⟨_, told, htold, hfind⟩ := of_ends_bind_ok h
  have hdisk : told.disk = space.disk := by
    cases htold
    rfl
  exact ⟨told, hdisk, hfind⟩

theorem discover_folder {folder : Path} {space : Workspace} {location : Location}
    (htree : space.disk.IsTree) (hzero : ¬HasZero folder)
    (hfind : space.disk.find folder = .ok (location, .folder)) (hfits : space.disk.Fits folder location) :
    ∃ after, (discover folder).ends space
        = (.ok ((space.disk.sourcesBelow location).map
            fun names => { folder with names := folder.names ++ names }), after) ∧
      after.disk = space.disk := by
  obtain ⟨told, htold, hdisk⟩ := record_ends .info .folder s!"Finding files on path: {folder}" space
  rw [← hdisk] at htree hfind hfits ⊢
  have hwalk := htree.walk_of_fits (Disk.find_eq_ok_iff.mp hfind).1 hfits
  refine ⟨told, (ends_bind_ok htold).trans ?_, rfl⟩
  rw [findFiles_folder hzero hfind, hwalk]
  rfl

/-- `discover` on a tree gives files that are `Found`. -/
theorem discover_found {folder : Path} {space after : Workspace} {files : List Path}
    (htree : space.disk.IsTree) (h : (discover folder).ends space = (.ok files, after)) :
    Found space.disk files := by
  obtain ⟨told, hdisk, hfind⟩ := of_discover h
  rw [← hdisk] at htree ⊢
  rcases of_findFiles htree hfind with rfl | ⟨location, hzero, hroot, -, rfl⟩
  · exact ⟨by simp, by simp, by simp, by simp⟩
  · exact htree.found hzero (Disk.find_eq_ok_iff.mp hroot).1

end Job

namespace Disk.IsTree

variable {disk : Disk} {folder : Path} {location : Location} {gone : List Path}

/-- One of `sourcesBelow` the folder is at the `placesOf` the paths exactly if its path is one of them. -/
theorem mem_placesOf_iff (htree : disk.IsTree) (hlocate : disk.locate folder = .ok location)
    (hgone : ∀ file ∈ gone, file ∈ (disk.sourcesBelow location).map
        (fun names => { folder with names := folder.names ++ names }) ∧
      disk.locate file ≠ .error .nameTooLong)
    {names : List Text} (hnames : names ∈ disk.sourcesBelow location) :
    location ++ names ∈ disk.placesOf gone ↔
      { folder with names := folder.names ++ names } ∈ gone := by
  rw [mem_placesOf]
  refine ⟨?_, fun hmem => ⟨_, hmem, ?_⟩⟩
  · rintro ⟨path, hpath, hplace⟩
    obtain ⟨names', hnames', rfl⟩ := List.mem_map.mp (hgone path hpath).1
    have heq := htree.place_of_source hlocate hnames' hplace
    rwa [List.append_cancel_left heq]
  · exact (htree.locate_source hlocate hnames).resolve_right (hgone _ hmem).2

/-- `sourcesBelow` after `without` some of the files: the others. -/
theorem sourcesBelow_without (htree : disk.IsTree) (hlocate : disk.locate folder = .ok location)
    (hgone : ∀ file ∈ gone, file ∈ (disk.sourcesBelow location).map
        (fun names => { folder with names := folder.names ++ names }) ∧
      disk.locate file ≠ .error .nameTooLong)
    (hfree : ∀ path ∈ gone, ∀ place, disk.locate path = .ok place →
      disk.get? place ≠ some .folder) :
    ((disk.without gone).sourcesBelow location).map
        (fun names => ({ folder with names := folder.names ++ names } : Path))
      = ((disk.sourcesBelow location).map
          fun names => { folder with names := folder.names ++ names }).filter (· ∉ gone) := by
  rw [without_eq_clear hfree, sourcesBelow_clear, List.filter_map]
  refine congrArg (List.map _) (List.filter_congr fun names hnames => ?_)
  exact decide_eq_decide.mpr (not_congr (htree.mem_placesOf_iff hlocate hgone hnames))

end Disk.IsTree

namespace Job

/-- `discover` after `without` some of the files gives the others. -/
theorem discover_without {folder : Path} {space after : Workspace} {files gone : List Path}
    (htree : space.disk.IsTree) (h : (discover folder).ends space = (.ok files, after))
    (hgone : ∀ file ∈ gone, file ∈ files ∧ space.disk.locate file ≠ .error .nameTooLong) :
    ∃ after', (discover folder).ends { space with disk := space.disk.without gone }
        = (.ok (files.filter (· ∉ gone)), after') ∧
      after'.disk = space.disk.without gone := by
  have hfound := discover_found htree h
  obtain ⟨told, hdisk, hfind⟩ := of_discover h
  have hfree : ∀ path ∈ gone, ∀ place, space.disk.locate path = .ok place →
      space.disk.get? place ≠ some .folder :=
    fun path hpath place hlocate => hfound.not_folder (hgone path hpath).1 hlocate
  have hcleared := Disk.cleared_without hfree
  rcases of_findFiles (hdisk ▸ htree) hfind with rfl | ⟨location, hzero, hroot, hfits, rfl⟩
  · -- Where nothing is found there is nothing to delete.
    obtain rfl : gone = [] := List.eq_nil_iff_forall_not_mem.mpr fun file hmem => by
      simpa using (hgone file hmem).1
    exact ⟨after, h, (findFiles_ends hfind).1.trans hdisk⟩
  · rw [hdisk] at hroot hfits hgone ⊢
    obtain ⟨hlocate, hfolder⟩ := Disk.find_eq_ok_iff.mp hroot
    have hroot' : (space.disk.without gone).find folder = .ok (location, .folder) :=
      Disk.find_eq_ok_iff.mpr ⟨(hcleared.folders.locate_iff folder location).mp hlocate,
        (hcleared.folders.folder location).mp hfolder⟩
    rw [← htree.sourcesBelow_without hlocate hgone hfree]
    exact discover_folder (htree.without hfree) hzero hroot' (hcleared.fits hfits)

end Job

end Externalize
