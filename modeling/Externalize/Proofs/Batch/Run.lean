import Externalize.Proofs.Batch.Walk
import Externalize.Proofs.Extraction.File

/-!
# `Externalize.Proofs.Batch.Run`: how a batch ends

What a batch finds are source files by name (`findFiles_ends`). Of several files it ends in one of
the five ways that `SeveralEnds` lists, each with the outcomes, the result and the disk that it leaves;
`runBatch_ends` adds the batches of one file and of none.
-/

set_option autoImplicit false

namespace Externalize

namespace Job

/-! ### Finding the files -/

/-- `kind?` of a path is decided by its `name`, with `isSourceName`. -/
theorem isSome_kind? (path : Path) : path.kind?.isSome = isSourceName path.name := by
  have hname : Path.name { names := [path.name] } = path.name := rfl
  simp only [isSourceName, Path.kind?, Path.extension, hname]

/-- `findFiles` leaves the disk as it is, and gives paths with a `kind?`. -/
theorem findFiles_ends {root : Path} {space after : Workspace} {files : List Path}
    (h : (findFiles root).ends space = (.ok files, after)) :
    after.disk = space.disk ∧ ∀ file ∈ files, file.kind?.isSome = true := by
  obtain ⟨node, mid, hnode, h⟩ := of_ends_bind_ok h
  obtain rfl : mid = space := by
    rcases node?_ends root space with ⟨hends, -⟩ | ⟨_, _, hends, -⟩ | ⟨_, hends, -⟩
    · exact (Prod.mk.inj (hnode.symm.trans hends)).2
    · exact (Prod.mk.inj (hnode.symm.trans hends)).2
    · exact (Prod.mk.inj (hnode.symm.trans hends)).2
  match node with
  | none | some (.file _) | some .device =>
    cases h
    exact ⟨rfl, by simp⟩
  | some .folder =>
    obtain ⟨location, looked, hlook, h⟩ := of_ends_bind_ok h
    rw [ends_look] at hlook
    obtain rfl := (Prod.mk.inj hlook).2
    rw [ends_bind_ok (ends_disk _)] at h
    split at h
    · rename_i found hwalk
      cases h
      refine ⟨rfl, fun file hmem => ?_⟩
      rw [isSome_kind?]
      exact Disk.isSourceName_of_walk hwalk file hmem
    · cases h

/-- `discover` leaves the disk as it is, and gives paths with a `kind?`. -/
theorem discover_ends {folder : Path} {space after : Workspace} {files : List Path}
    (h : (discover folder).ends space = (.ok files, after)) :
    after.disk = space.disk ∧ ∀ file ∈ files, file.kind?.isSome = true := by
  obtain ⟨_, told, htold, hfind⟩ := of_ends_bind_ok h
  obtain ⟨hdisk, hkinds⟩ := findFiles_ends hfind
  cases htold
  exact ⟨hdisk, hkinds⟩

/-- `findFiles` of a folder is `Disk.walk`. -/
theorem findFiles_folder {root : Path} {space : Workspace} {location : Location}
    (hzero : ¬HasZero root) (hfind : space.disk.find root = .ok (location, .folder)) :
    (findFiles root).ends space
      = ((space.disk.walk root location).mapError fun fault => .interruption (.disk fault), space) := by
  have hlook : (look root (·.locate root)).ends space = (.ok location, space) := by
    rw [ends_look, if_neg hzero, (Disk.find_eq_ok_iff.mp hfind).1]
  unfold findFiles
  rw [ends_bind_ok (node?_of_find hzero hfind)]
  refine (ends_bind_ok hlook).trans ?_
  rw [ends_bind_ok (ends_disk space)]
  cases space.disk.walk root location <;> rfl

end Job

/-- A disk of which the result of `findFiles` can be told at once: it is a tree, its `nodes` have the
sources below the folder in order, and no path below the folder is too long. -/
structure Disk.Listed (disk : Disk) (root : Path) (location : Location) : Prop where
  tree : disk.IsTree
  sorted : (disk.nodes.filterMap (sourceBelow? location)).Pairwise (inOrder · ·)
  fits : ∀ names ∈ disk.nodes.filterMap fun entry => namesBelow? location entry.1,
    disk.isTooLong { root with names := root.names ++ names } = false

instance (disk : Disk) (root : Path) (location : Location) : Decidable (disk.Listed root location) :=
  decidable_of_iff
    (disk.IsTree ∧ (disk.nodes.filterMap (sourceBelow? location)).Pairwise (inOrder · ·) ∧
      ∀ names ∈ disk.nodes.filterMap fun entry => Disk.namesBelow? location entry.1,
        disk.isTooLong { root with names := root.names ++ names } = false)
    ⟨fun ⟨tree, sorted, fits⟩ => ⟨tree, sorted, fits⟩, fun ⟨tree, sorted, fits⟩ => ⟨tree, sorted, fits⟩⟩

namespace Job

/-- `findFiles` of a folder on a disk that is `Listed` gives the sources in the order of the `nodes`. -/
theorem findFiles_of_sorted {root : Path} {space : Workspace} {location : Location}
    (hzero : ¬HasZero root) (hfind : space.disk.find root = .ok (location, .folder))
    (hlisted : space.disk.Listed root location) :
    (findFiles root).ends space
      = (.ok ((space.disk.nodes.filterMap (sourceBelow? location)).map
          fun names => { root with names := root.names ++ names }), space) := by
  have hsources : space.disk.sourcesBelow location
      = space.disk.nodes.filterMap (sourceBelow? location) :=
    List.mergeSort_of_pairwise hlisted.sorted
  have hwalk := hlisted.tree.walk_of_fits (Disk.find_eq_ok_iff.mp hfind).1
    (Disk.fits_of_nodes hlisted.fits)
  rw [findFiles_folder hzero hfind, hwalk, hsources]
  rfl

theorem discover_of_sorted {folder : Path} {space : Workspace} {location : Location}
    (hzero : ¬HasZero folder)
    (hfind : (space.disk.find folder).toOption = some (location, .folder))
    (hlisted : space.disk.Listed folder location) :
    (discover folder).ends space
      = (.ok ((space.disk.nodes.filterMap (sourceBelow? location)).map
          fun names => { folder with names := folder.names ++ names }),
        { space with
          journal := space.journal.push
            { level := .info, origin := .folder, message := s!"Finding files on path: {folder}" } }) := by
  have hfound : space.disk.find folder = .ok (location, .folder) := by
    cases h : space.disk.find folder with
    | error refusal => rw [h] at hfind; cases hfind
    | ok found => rw [h] at hfind; exact congrArg _ (Option.some.inj hfind)
  exact (ends_bind_ok (ends_record _ _ _ _)).trans (findFiles_of_sorted hzero hfound hlisted)

theorem runBatch_of_sorted {options : Options} {folder : Path} {space : Workspace}
    {location : Location} (hzero : ¬HasZero folder)
    (hfind : (space.disk.find folder).toOption = some (location, .folder))
    (hlisted : space.disk.Listed folder location) :
    (runBatch options folder).ends space
      = (extractFiles options folder ((space.disk.nodes.filterMap (sourceBelow? location)).map
          fun names => { folder with names := folder.names ++ names })).ends
        { space with
          journal := space.journal.push
            { level := .info, origin := .folder, message := s!"Finding files on path: {folder}" } } :=
  ends_bind_ok (discover_of_sorted hzero hfind hlisted)

/-! ### Several files -/

/-- The five ends of `runSeveral`. -/
inductive SeveralEnds (options : Options) (first : Path) (files : List Path) (space : Workspace) :
    List FileOutcome → BatchResult → Disk → Prop
  /-- The templates are not accepted. -/
  | badTemplates {problem : Problem} :
      SeveralEnds options first files space [] (.failed none (some problem)) space.disk
  /-- The disk refuses a temporary file. -/
  | noTemporaries {fault : DiskFault} {result : BatchResult} {made : Workspace}
      (make : (makeTemporaries (batchTarget options first).parent 1 files []).ends space
        = (.ok (.error fault), made))
      (failed : ∃ target problem, result = .failed target problem) :
      SeveralEnds options first files space [] result made.disk
  /-- No file has anything to extract. -/
  | nothing {outcomes : List FileOutcome} {target : Option Path} {after : Disk} :
      SeveralEnds options first files space outcomes (.noStrings target) after
  /-- The temporary files are merged. -/
  | merged {scheme : NameScheme} {temporaries : List Path} {made each last : Workspace}
      {harvest : Harvest} {written : Nat}
      (scheme_eq : NameScheme.build options.stem options.ending options.accessor = .ok scheme)
      (make : (makeTemporaries (batchTarget options first).parent 1 files []).ends space
        = (.ok (.ok temporaries), made))
      (extract : (extractEach options 0 (files.zip temporaries)).ends made = (.ok harvest, each))
      (merge : (merge scheme harvest.temporaries (batchTarget options first)).ends each
        = (.ok written, last)) :
      SeveralEnds options first files space harvest.outcomes
        (.extracted (batchTarget options first) written) last.disk
  /-- Something was extracted, but merging has a problem. -/
  | unmerged {scheme : NameScheme} {temporaries : List Path} {made each last : Workspace}
      {harvest : Harvest} {problem : Problem} {result : BatchResult}
      (scheme_eq : NameScheme.build options.stem options.ending options.accessor = .ok scheme)
      (make : (makeTemporaries (batchTarget options first).parent 1 files []).ends space
        = (.ok (.ok temporaries), made))
      (extract : (extractEach options 0 (files.zip temporaries)).ends made = (.ok harvest, each))
      (count : 0 < harvest.count)
      (merge : (merge scheme harvest.temporaries (batchTarget options first)).ends each
        = (.error (.problem problem), last))
      (failed : ∃ target problem, result = .failed target problem) :
      SeveralEnds options first files space harvest.outcomes result last.disk

theorem attempted_ok {α : Type} {job : Job α} {space after : Workspace} {result : Except Problem α}
    (h : (attempted job).ends space = (.ok result, after)) :
    job.ends space = (result.mapError .problem, after) := by
  rw [attempted, ends_tryCatch, ends_map] at h
  generalize job.ends space = ended at h
  obtain ⟨settled, mid⟩ := ended
  cases settled with
  | ok a =>
    cases h
    rfl
  | error fault =>
    cases fault <;> cases h
    rfl

theorem concludeBatch_ok {batch outcome : BatchOutcome} {space after : Workspace}
    (h : (concludeBatch batch).ends space = (.ok outcome, after)) :
    outcome = batch ∧ after.disk = space.disk := by
  cases h
  exact ⟨rfl, rfl⟩

/-- `runSeveral` has one of the five `SeveralEnds`. -/
theorem runSeveral_ends {options : Options} {folder first : Path} {files : List Path}
    {space after : Workspace} {outcome : BatchOutcome}
    (h : (runSeveral options folder first files).ends space = (.ok outcome, after)) :
    outcome.files = files ∧
      SeveralEnds options first files space outcome.outcomes outcome.result after.disk := by
  -- Each of the steps that follow can be the last one: the templates, the temporary files, the files
  -- and the merge.
  obtain ⟨built, mid, hbuilt, h⟩ := of_ends_bind_ok h
  have hscheme := (schemeOf_ends options space).symm.trans (attempted_ok hbuilt)
  obtain ⟨hscheme, rfl⟩ := Prod.mk.inj hscheme
  cases built with
  | error problem =>
    obtain ⟨rfl, hdisk⟩ := concludeBatch_ok h
    exact ⟨rfl, hdisk ▸ .badTemplates⟩
  | ok scheme =>
    replace hscheme : NameScheme.build options.stem options.ending options.accessor = .ok scheme := by
      cases hbuild : NameScheme.build options.stem options.ending options.accessor with
      | error fault => rw [hbuild] at hscheme; cases hscheme
      | ok other => rw [hbuild] at hscheme; cases hscheme; rfl
    obtain ⟨made, space', hmake, h⟩ := of_ends_bind_ok h
    cases made with
    | error fault =>
      obtain ⟨rfl, hdisk⟩ := concludeBatch_ok h
      exact ⟨rfl, hdisk ▸ .noTemporaries hmake ⟨_, _, rfl⟩⟩
    | ok temporaries =>
      obtain ⟨harvest, each, hextract, h⟩ := of_ends_bind_ok h
      by_cases hcount : harvest.count ≤ 0
      · rw [if_pos hcount] at h
        obtain ⟨_, discarded, -, h⟩ := of_ends_bind_ok h
        obtain ⟨rfl, -⟩ := concludeBatch_ok h
        exact ⟨rfl, .nothing⟩
      · rw [if_neg hcount] at h
        obtain ⟨merged, last, hmerge, h⟩ := of_ends_bind_ok h
        replace hmerge := attempted_ok hmerge
        cases merged with
        | ok written =>
          obtain ⟨rfl, hdisk⟩ := concludeBatch_ok h
          exact ⟨rfl, hdisk ▸ .merged hscheme hmake hextract hmerge⟩
        | error problem =>
          obtain ⟨rfl, hdisk⟩ := concludeBatch_ok h
          exact ⟨rfl, hdisk ▸ .unmerged hscheme hmake hextract (by omega) hmerge ⟨_, _, rfl⟩⟩

/-! ### All batches -/

/-- The ends of `extractFiles`, by the number of the files. -/
inductive BatchEnds (options : Options) (space : Workspace) (outcome : BatchOutcome) (after : Disk) :
    Prop
  /-- There are no files. -/
  | noFiles (files : outcome.files = []) (result : outcome.result = .noFiles)
  /-- There is one file, which is extracted as it would be alone. -/
  | single {file : Path} {single : FileOutcome} {last : Workspace} (files : outcome.files = [file])
      (extract : (extractFile options (some file) (.shared 0)).ends space = (.ok single, last))
      (outcomes : outcome.outcomes = [single]) (result : outcome.result = .ofFile single.result)
      (disk : after = last.disk)
  /-- There are several files. -/
  | several {first second : Path} {rest : List Path} (files : outcome.files = first :: second :: rest)
      (ends : SeveralEnds options first (first :: second :: rest) space outcome.outcomes
        outcome.result after)

/-- `extractFiles` has one of the `BatchEnds`. -/
theorem extractFiles_ends {options : Options} {folder : Path} {files : List Path}
    {space after : Workspace} {outcome : BatchOutcome}
    (h : (extractFiles options folder files).ends space = (.ok outcome, after)) :
    outcome.files = files ∧ BatchEnds options space outcome after.disk := by
  match files with
  | [] =>
    obtain ⟨rfl, -⟩ := concludeBatch_ok h
    exact ⟨rfl, .noFiles rfl rfl⟩
  | [file] =>
    obtain ⟨single, last, hsingle, h⟩ := of_ends_bind_ok h
    cases h
    exact ⟨rfl, .single rfl hsingle rfl rfl rfl⟩
  | first :: second :: rest =>
    obtain ⟨hfiles, hends⟩ := runSeveral_ends h
    exact ⟨hfiles, .several hfiles hends⟩

/-- `runBatch` is `discover`, and then one of the `BatchEnds` on the disk as it was. -/
theorem runBatch_ends {options : Options} {folder : Path} {space after : Workspace}
    {outcome : BatchOutcome} (h : (runBatch options folder).ends space = (.ok outcome, after)) :
    ∃ found, (discover folder).ends space = (.ok outcome.files, found) ∧ found.disk = space.disk ∧
      BatchEnds options found outcome after.disk := by
  obtain ⟨files, found, hfiles, hextract⟩ := of_ends_bind_ok h
  obtain ⟨rfl, hends⟩ := extractFiles_ends hextract
  exact ⟨found, hfiles, (discover_ends hfiles).1, hends⟩

end Job

end Externalize
