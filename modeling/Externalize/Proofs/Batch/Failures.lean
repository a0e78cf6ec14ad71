import Externalize.Proofs.Batch.Discovery
import Externalize.Proofs.Batch.Finish
import Externalize.Proofs.Batch.Names
import Externalize.Proofs.Batch.Sources

/-!
# `Externalize.Proofs.Batch.Failures`: files that fail do not matter to the others

A batch is run twice: on a tree, and on the tree without the files that failed the first time. If no
accessor class is asked for and several files are left, both runs come to the same
(`runBatch_without_failed`).

The files that are left are found again (`discover_without`). There are temporary files for them
(`makeTemporaries_of_le`) and they have the same entries as before (`extractEach_alike`), so that the
two runs go on in the same way (`finish_alike`). A file whose path is too long would not be found where
it is, and so could not be deleted by its path; but a batch that meets one comes to no outcome
(`runSeveral_tried`).
-/

set_option autoImplicit false

namespace Externalize

open Disk (Cleared SameFolders Spares)

namespace Job

/-! ### Several files -/

/-- `makeTemporaries` and `extractEach` leave a harvest that is `Harvested`. -/
theorem exists_harvested {options : Options} {scheme : NameScheme} {folder : Path}
    {files temporaries : List Path} {count : Int} {space made after : Workspace} {harvest : Harvest}
    (hscheme : NameScheme.build options.stem options.ending options.accessor = .ok scheme)
    (hmake : (makeTemporaries folder 1 files []).ends space = (.ok (.ok temporaries), made))
    (h : (extractEach options count (files.zip temporaries)).ends made = (.ok harvest, after)) :
    ∃ yields, Harvested space.disk after.disk harvest yields := by
  obtain ⟨tasks, -, hready, hpairs, hstart⟩ := exists_tasks hmake
  rw [hpairs] at h
  obtain ⟨-, -, yields, htemporaries, hholds, hsubset, hlines⟩ := extractEach_holds hscheme hready h
  refine ⟨yields, htemporaries, hholds, ?_, fun last hlast =>
    extractEach_dotless hscheme hready hstart h htemporaries hholds hsubset hlast⟩
  rw [← List.flatMap_def]
  exact hlines (fun entries => gatheredLines (storedText entries)) rfl

theorem length_countedFiles_le (files : List Path) (outcomes : List FileOutcome) :
    (countedFiles files outcomes).length ≤ files.length := by
  rw [countedFiles, List.length_map]
  refine (List.length_filter_le _ _).trans ?_
  rw [List.length_zip]
  exact Nat.min_le_left _ _

/-- `makeTemporaries` and `extractEach` for the `countedFiles`, on a disk where other files are gone:
the count and the entries are the same, and the disks are `Alike`. -/
theorem tryFiles_alike {options : Options} {scheme : NameScheme} {folder : Path}
    {files temporaries : List Path} {gone : List Location} {space space' made each : Workspace}
    {harvest : Harvest}
    (hscheme : NameScheme.build options.stem options.ending options.accessor = .ok scheme)
    (haccessor : options.accessor = false) (halike : Alike gone space.disk space'.disk)
    (hdotless : Spares space.disk space'.disk Dotless)
    (hkept : ∀ file ∈ countedFiles files harvest.outcomes, ∀ location,
      space.disk.locate file = .ok location → location ∉ gone)
    (hmake : (makeTemporaries folder 1 files []).ends space = (.ok (.ok temporaries), made))
    (h : (extractEach options 0 (files.zip temporaries)).ends made = (.ok harvest, each)) :
    ∃ temporaries' made' harvest' each',
      (makeTemporaries folder 1 (countedFiles files harvest.outcomes) []).ends space'
        = (.ok (.ok temporaries'), made') ∧
      (extractEach options 0 ((countedFiles files harvest.outcomes).zip temporaries')).ends made'
        = (.ok harvest', each') ∧
      harvest'.count = harvest.count ∧ harvest'.lines = harvest.lines ∧
      SameFolders space.disk each.disk ∧ Alike gone each.disk each'.disk := by
  -- There are no more files than before, so there are temporary files for all of them.
  obtain ⟨temporaries', made', hmake'⟩ : ∃ temporaries' made',
      (makeTemporaries folder 1 (countedFiles files harvest.outcomes) []).ends space'
        = (.ok (.ok temporaries'), made') :=
    makeTemporaries_of_le hdotless (length_countedFiles_le files harvest.outcomes) hmake
  have hmade := (makeTemporaries_ends (.nil _) hmake).1
  have hmade' := (makeTemporaries_ends (.nil _) hmake').1
  obtain ⟨tasks, rfl, hready, hpairs⟩ := exists_ready hmake
  obtain ⟨tasks', hfiles, hready', hpairs'⟩ := exists_ready hmake'
  rw [hpairs] at h
  obtain ⟨harvest', each', h', hcount, hentries, halike'⟩ :=
    extractEach_alike hscheme haccessor hready hready' (halike.of_spares hmade hmade') hfiles
      (fun file hmem location hlocate => hkept file (hfiles ▸ hmem) location
        ((hmade.folders.locate_iff file location).mpr hlocate)) h
  rw [← hpairs'] at h'
  exact ⟨temporaries', made', harvest', each', hmake', h', hcount, Harvest.lines_eq hentries,
    hmade.folders.trans (extractEach_holds hscheme hready h).1.folders, halike'⟩

/-- `runSeveral` of the `countedFiles`, on a disk where other files are gone, has the same `status` and
`written`, and leaves the same where they are not gone. -/
theorem runSeveral_alike {options : Options} {folder first target : Path} {files : List Path}
    {space space' after : Workspace} {outcome : BatchOutcome} {gone : List Location} (first' : Path)
    (haccessor : options.accessor = false) (htarget : options.target = some target)
    (hcleared : Cleared space.disk space'.disk gone) (hgone : ∀ location ∈ gone, ¬Dotless location)
    (hplace : ∀ location, space.disk.locate target = .ok location → location ∉ gone)
    (hkept : ∀ file ∈ countedFiles files outcome.outcomes, ∀ location,
      space.disk.locate file = .ok location → location ∉ gone)
    (houtcomes : outcome.outcomes ≠ [])
    (h : (runSeveral options folder first files).ends space = (.ok outcome, after)) :
    ∃ outcome' after',
      (runSeveral options folder first' (countedFiles files outcome.outcomes)).ends space'
        = (.ok outcome', after') ∧
      outcome'.status = outcome.status ∧ outcome'.written = outcome.written ∧
      SameFolders space.disk after.disk ∧ Spares after.disk after'.disk (· ∉ gone) := by
  -- At the start the names without a dot are the same as well, and that is where temporary files go.
  have halike : Alike gone space.disk space'.disk := hcleared.spares.mono fun _ hkept => hkept.2
  have hdotless : Spares space.disk space'.disk Dotless :=
    hcleared.spares.mono fun location hdot hmem => hgone location hmem hdot
  obtain ⟨scheme, temporaries, made, harvest, each, hscheme, hmake, hextract, hfinish⟩ :=
    of_runSeveral htarget houtcomes h
  obtain ⟨yields, hharvest⟩ := exists_harvested hscheme hmake hextract
  obtain ⟨hsame, hfolders'⟩ := of_finish hharvest hfinish
  rw [hsame] at hkept ⊢
  obtain ⟨temporaries', made', harvest', each', hmake', hextract', hcount, hlines, hfolders, heach⟩ :=
    tryFiles_alike hscheme haccessor halike hdotless hkept hmake hextract
  obtain ⟨yields', hharvest'⟩ := exists_harvested hscheme hmake' hextract'
  obtain ⟨outcome', after', hfinish', hstatus, hwritten, hspares⟩ :=
    finish_alike hharvest hharvest' hdotless heach hcount hlines
      (fun location hlocate => hplace location ((hfolders.locate_iff _ _).mpr hlocate)) hfinish
  refine ⟨outcome', after', ?_, hstatus, hwritten, hfolders.trans hfolders', hspares⟩
  rw [runSeveral_of_ends htarget hscheme hmake' hextract']
  exact hfinish'

/-! ### The files that were tried -/

/-- A file for which `extractFile` has an outcome does not have too long a path. -/
theorem locate_of_extractFile {options : Options} {path : Path} {counter : Counter}
    {space after : Workspace} {outcome : FileOutcome} (hzero : ¬HasZero path)
    (h : (extractFile options (some path) counter).ends space = (.ok outcome, after)) :
    space.disk.locate path ≠ .error .nameTooLong := by
  intro hlong
  have hfind : space.disk.find path = .error .nameTooLong := by
    simp [Disk.find, hlong, bind, Except.bind]
  cases (extractFile_of_tooLong hzero hfind).symm.trans h

/-- `extractEach` has an outcome for each file, and no file has too long a path. -/
theorem extractEach_tried {options : Options} {scheme : NameScheme} {tasks : List Task} {count : Int}
    {space after : Workspace} {harvest : Harvest}
    (hscheme : NameScheme.build options.stem options.ending options.accessor = .ok scheme)
    (hready : Ready space.disk tasks)
    (h : (extractEach options count (tasks.map fun task => (task.file, task.temporary))).ends space
      = (.ok harvest, after)) :
    harvest.outcomes.length = tasks.length ∧ ∀ task ∈ tasks, ¬HasZero task.file →
      space.disk.locate task.file ≠ .error .nameTooLong := by
  induction tasks generalizing count space harvest with
  | nil =>
    cases h
    exact ⟨rfl, by simp⟩
  | cons task tasks ih =>
    obtain ⟨told, outcome, mid, next, later, count', hdisk, hfile, hnext, hrest, hlater, houtcomes⟩ :=
      of_extractEach_tail hscheme hready h
    rw [← hdisk] at hready ⊢
    have hfolders := (extractFile_temporary hscheme hready.head hfile).1.folders.trans hnext.folders
    obtain ⟨hlength, hothers⟩ := ih hrest hlater
    refine ⟨by rw [houtcomes, List.length_cons, hlength, List.length_cons], fun other hmem hzero => ?_⟩
    rcases List.mem_cons.mp hmem with rfl | hmem
    · exact locate_of_extractFile hzero hfile
    · exact fun hlong => hothers other hmem hzero (hfolders.locate_tooLong hlong)

theorem runSeveral_tried {options : Options} {folder first target : Path} {files : List Path}
    {space after : Workspace} {outcome : BatchOutcome} (htarget : options.target = some target)
    (houtcomes : outcome.outcomes ≠ [])
    (h : (runSeveral options folder first files).ends space = (.ok outcome, after)) :
    outcome.outcomes.length = files.length ∧ ∀ file ∈ files, ¬HasZero file →
      space.disk.locate file ≠ .error .nameTooLong := by
  obtain ⟨scheme, temporaries, made, harvest, each, hscheme, hmake, hextract, hfinish⟩ :=
    of_runSeveral htarget houtcomes h
  have hfolders := (makeTemporaries_ends (.nil _) hmake).1.folders
  obtain ⟨yields, hharvest⟩ := exists_harvested hscheme hmake hextract
  obtain ⟨tasks, rfl, hready, hpairs⟩ := exists_ready hmake
  rw [hpairs] at hextract
  obtain ⟨hlength, hlocate⟩ := extractEach_tried hscheme hready hextract
  refine ⟨by rw [(of_finish hharvest hfinish).1, hlength, List.length_map], fun file hmem hzero => ?_⟩
  obtain ⟨task, htask, rfl⟩ := List.mem_map.mp hmem
  exact fun hlong => hlocate task htask hzero (hfolders.locate_tooLong hlong)

end Job

/-! ### Whole batches -/

/-- `find` finds the same node on both disks, or none on either. -/
def Disk.SameNode (disk after : Disk) (path : Path) : Prop :=
  (after.find path).toOption = (disk.find path).toOption

namespace BatchOutcome

/-- The `files` whose outcome does not `counts`. -/
def failedFiles (outcome : BatchOutcome) : List Path :=
  ((outcome.files.zip outcome.outcomes).filter fun pair => !pair.2.result.counts).map Prod.fst

/-- The `files` that are not among the `failedFiles`. -/
def keptFiles (outcome : BatchOutcome) : List Path :=
  outcome.files.filter (· ∉ outcome.failedFiles)

variable {outcome : BatchOutcome}

theorem failedFiles_subset : outcome.failedFiles ⊆ outcome.files := by
  intro file hmem
  obtain ⟨pair, hpair, rfl⟩ := List.mem_map.mp hmem
  exact (List.of_mem_zip (List.mem_of_mem_filter hpair)).1

/-- `keptFiles` are the `countedFiles`, if each file has an outcome. -/
theorem keptFiles_eq (hnodup : outcome.files.Nodup)
    (hlength : outcome.outcomes.length = outcome.files.length) :
    outcome.keptFiles = Job.countedFiles outcome.files outcome.outcomes := by
  have hfst : (outcome.files.zip outcome.outcomes).map Prod.fst = outcome.files :=
    List.map_fst_zip hlength.ge
  rw [keptFiles, Job.countedFiles]
  conv_lhs => rw [← hfst]
  rw [List.filter_map]
  refine congrArg (List.map Prod.fst) (List.filter_congr fun pair hpair => ?_)
  -- No file has two outcomes.
  have hfailed : pair.1 ∈ outcome.failedFiles ↔ pair.2.result.counts = false := by
    constructor
    · intro hmem
      obtain ⟨other, hother, heq⟩ := List.mem_map.mp hmem
      obtain ⟨hother, hcounts⟩ := List.mem_filter.mp hother
      obtain rfl := List.inj_on_of_nodup_map (hfst.symm ▸ hnodup) hother hpair heq
      simpa using hcounts
    · exact fun hcounts => List.mem_map_of_mem (List.mem_filter.mpr ⟨hpair, by simp [hcounts]⟩)
  cases hcounts : pair.2.result.counts <;> simp [hfailed, hcounts]

end BatchOutcome

namespace Job

/-- `runBatch` is `runSeveral`, if `discover` gives two files or more. -/
theorem runBatch_of_discover (options : Options) {folder : Path} {files : List Path}
    {space found : Workspace} (hfiles : 2 ≤ files.length)
    (hdiscover : (discover folder).ends space = (.ok files, found)) :
    ∃ first, (runBatch options folder).ends space
      = (runSeveral options folder first files).ends found := by
  match files with
  | [] | [_] => simp at hfiles
  | first :: second :: rest => exact ⟨first, ends_bind_ok hdiscover⟩

theorem of_runBatch {options : Options} {folder : Path} {space after : Workspace}
    {outcome : BatchOutcome} (hfiles : 2 ≤ outcome.files.length)
    (h : (runBatch options folder).ends space = (.ok outcome, after)) :
    ∃ first found, (discover folder).ends space = (.ok outcome.files, found) ∧
      found.disk = space.disk ∧ (∀ file ∈ outcome.files, file.kind?.isSome = true) ∧
      (runSeveral options folder first outcome.files).ends found = (.ok outcome, after) := by
  obtain ⟨files, found, hdiscover, hextract⟩ := of_ends_bind_ok h
  obtain ⟨told, hdisk, hfind⟩ := of_discover hdiscover
  obtain ⟨hfound, hkinds⟩ := findFiles_ends hfind
  match files with
  | [] =>
    obtain ⟨rfl, -⟩ := concludeBatch_ok hextract
    simp at hfiles
  | [file] =>
    obtain ⟨single, last, -, hextract⟩ := of_ends_bind_ok hextract
    cases hextract
    simp at hfiles
  | first :: second :: rest =>
    obtain ⟨heq, -⟩ := runSeveral_ends hextract
    rw [heq]
    exact ⟨first, found, hdiscover, hfound.trans hdisk, hkinds, hextract⟩

/-- `runBatch` on the disk `without` the `failedFiles` has the same `status` and `written`, and leaves
the same where none of them was. -/
theorem runBatch_alike {options : Options} {folder target : Path} {space after : Workspace}
    {outcome : BatchOutcome} (htree : space.disk.IsTree) (haccessor : options.accessor = false)
    (htarget : options.target = some target)
    (h : (runBatch options folder).ends space = (.ok outcome, after))
    (hplace : ∀ location, space.disk.locate target = .ok location →
      location ∉ space.disk.placesOf outcome.failedFiles)
    (hkept : 2 ≤ outcome.keptFiles.length) :
    ∃ outcome' after',
      (runBatch options folder).ends { space with disk := space.disk.without outcome.failedFiles }
        = (.ok outcome', after') ∧
      outcome'.status = outcome.status ∧ outcome'.written = outcome.written ∧
      ∀ path, (∀ location, space.disk.locate path = .ok location →
          location ∉ space.disk.placesOf outcome.failedFiles) →
        after.disk.SameNode after'.disk path := by
  have hfiles : 2 ≤ outcome.files.length := hkept.trans (List.length_filter_le _ _)
  obtain ⟨first, found, hdiscover, hdisk, hkinds, hseveral⟩ := of_runBatch hfiles h
  by_cases houtcomes : outcome.outcomes = []
  · -- No file was tried, so none failed.
    have hnone : outcome.failedFiles = [] := by simp [BatchOutcome.failedFiles, houtcomes]
    rw [hnone]
    exact ⟨outcome, after, h, rfl, rfl, fun _ _ => rfl⟩
  · have hfound := discover_found htree hdiscover
    obtain ⟨hlength, hlocate⟩ := runSeveral_tried htarget houtcomes hseveral
    rw [hdisk] at hlocate
    have hgone : ∀ file ∈ outcome.failedFiles, file ∈ outcome.files ∧
        space.disk.locate file ≠ .error .nameTooLong := fun file hmem =>
      have hfile := BatchOutcome.failedFiles_subset hmem
      ⟨hfile, hlocate file hfile (hfound.noZero file hfile)⟩
    obtain ⟨found', hdiscover', hdisk'⟩ := discover_without htree hdiscover hgone
    obtain ⟨first', hrun⟩ := runBatch_of_discover options hkept hdiscover'
    have hcleared : Disk.Cleared found.disk found'.disk (space.disk.placesOf outcome.failedFiles) := by
      rw [hdisk, hdisk']
      exact Disk.cleared_without fun file hmem place hplace =>
        hfound.not_folder (hgone file hmem).1 hplace
    have hnames : ∀ location ∈ space.disk.placesOf outcome.failedFiles, ¬Dotless location := by
      intro location hmem
      obtain ⟨file, hfile, hplace⟩ := Disk.mem_placesOf.mp hmem
      exact not_dotless_of_locate (hkinds file (hgone file hfile).1) hplace
    have hcounted := BatchOutcome.keptFiles_eq hfound.nodup hlength
    have hsources : ∀ file ∈ countedFiles outcome.files outcome.outcomes, ∀ location,
        found.disk.locate file = .ok location →
        location ∉ space.disk.placesOf outcome.failedFiles := by
      intro file hmem location hplace
      rw [hdisk] at hplace
      rw [← hcounted] at hmem
      exact hfound.notMem_placesOf BatchOutcome.failedFiles_subset hmem hplace
    obtain ⟨outcome', after', hends, hstatus, hwritten, hfolders, hspares⟩ :=
      runSeveral_alike first' haccessor htarget hcleared hnames
        (fun location hlocate => hplace location (hdisk ▸ hlocate)) hsources houtcomes hseveral
    rw [← hcounted] at hends
    rw [hdisk] at hfolders
    refine ⟨outcome', after', hrun.trans hends, hstatus, hwritten, fun path hpath => ?_⟩
    exact hspares.find_eq fun location hplace =>
      hpath location ((hfolders.locate_iff path location).mpr hplace)

end Job

/-- A `backupPath` never leads to where a source is. -/
theorem locate_backup_ne {disk : Disk} {file source : Path} {location : Location}
    (hsource : source.kind?.isSome = true) (hlocate : disk.locate source = .ok location) :
    disk.locate (Job.backupPath file) ≠ .ok location := by
  intro hbackup
  obtain ⟨above, -, -, hbackup⟩ := Disk.locate_eq_ok_append
    (show (Job.backupPath file).names = file.parent.names ++ [file.name ++ Job.backupEnding] from rfl)
    (Job.backupName_ne_parentName _) hbackup
  obtain ⟨kind, hkind⟩ := Option.isSome_iff_exists.mp hsource
  have hext := Path.extension_ne_nil hkind
  obtain ⟨folder, -, -, hplace⟩ := Disk.locate_eq_ok_append
    (Path.names_eq (Path.name_ne_nil hext)) (Path.name_ne_parentName hext) hlocate
  obtain ⟨-, hname⟩ := List.append_inj' (hplace.symm.trans hbackup) rfl
  rw [Job.isSome_kind?, List.singleton_inj.mp hname, isSourceName_backup] at hsource
  cases hsource

/-- **Files that fail do not matter to the others.** Take a `runBatch` on a tree, with a `target` and
without an accessor class, that has an `outcome`. Suppose that none of its `failedFiles` is where the
target leads to (`hapart`), and that it has at least two `keptFiles`. Then `runBatch` on the tree `without`
the `failedFiles` has an outcome with the same `status` and `written`. It leaves the `SameNode` at the
target, at each of the `keptFiles` and at the `Job.backupPath` of each.

The tree has no symbolic links, as no `Node` is one. With links two of the paths that are found can lead to
one file, and deleting that file for the one takes it from the other. What `hapart` excludes is shown by
`runBatch_target_is_failed`. -/
theorem runBatch_without_failed {options : Options} {folder target : Path} {space after : Workspace}
    {outcome : BatchOutcome} (htree : space.disk.IsTree) (haccessor : options.accessor = false)
    (htarget : options.target = some target)
    (h : (Job.runBatch options folder).ends space = (.ok outcome, after))
    (hapart : ∀ file ∈ outcome.failedFiles, space.disk.locate file ≠ space.disk.locate target)
    (hkept : 2 ≤ outcome.keptFiles.length) :
    ∃ outcome' after',
      (Job.runBatch options folder).ends
          { space with disk := space.disk.without outcome.failedFiles } = (.ok outcome', after') ∧
        outcome'.status = outcome.status ∧ outcome'.written = outcome.written ∧
        after.disk.SameNode after'.disk target ∧
        ∀ file ∈ outcome.keptFiles, after.disk.SameNode after'.disk file ∧
          after.disk.SameNode after'.disk (Job.backupPath file) := by
  -- `hapart` speaks of paths; where they lead to is what counts on the disk.
  have hplace : ∀ location, space.disk.locate target = .ok location →
      location ∉ space.disk.placesOf outcome.failedFiles := by
    intro location hplace hmem
    obtain ⟨file, hfile, hplace'⟩ := Disk.mem_placesOf.mp hmem
    exact hapart file hfile (hplace'.trans hplace.symm)
  obtain ⟨outcome', after', hrun, hstatus, hwritten, hsame⟩ :=
    Job.runBatch_alike htree haccessor htarget h hplace hkept
  have hfiles : 2 ≤ outcome.files.length := hkept.trans (List.length_filter_le _ _)
  obtain ⟨_, _, hdiscover, -, hkinds, -⟩ := Job.of_runBatch hfiles h
  have hfound := Job.discover_found htree hdiscover
  have hfailed := outcome.failedFiles_subset
  refine ⟨outcome', after', hrun, hstatus, hwritten, hsame target hplace, fun file hmem =>
    ⟨hsame file fun location hlocate => hfound.notMem_placesOf hfailed hmem hlocate, hsame _ ?_⟩⟩
  -- A backup has another name than any source, so it is at none of the deleted files.
  intro location hlocate hmem
  obtain ⟨other, hother, hlocate'⟩ := Disk.mem_placesOf.mp hmem
  exact locate_backup_ne (hkinds other (hfailed hother)) hlocate' hlocate

/-- `runBatch_without_failed` at `mixedFolder`: of its four files one fails. -/
theorem runBatch_without_failed_mixedFolder :
    let options : Options := { target := some { names := ["strings.xml".toList] }, backup := true }
    ∃ outcome after,
      (Job.runBatch options { names := ["p".toList] }).ends mixedFolder = (.ok outcome, after) ∧
      outcome.failedFiles = [{ names := ["p".toList, "B.java".toList] }] ∧
      outcome.status = "extracted" ∧ outcome.written = 3 ∧
      ∃ outcome' after',
        (Job.runBatch options { names := ["p".toList] }).ends
            { mixedFolder with disk := mixedFolder.disk.without outcome.failedFiles }
          = (.ok outcome', after') ∧
        outcome'.status = outcome.status ∧ outcome'.written = outcome.written ∧
        after.disk.SameNode after'.disk { names := ["strings.xml".toList] } ∧
        ∀ file ∈ outcome.keptFiles, after.disk.SameNode after'.disk file ∧
          after.disk.SameNode after'.disk (Job.backupPath file) := by
  intro options
  have hfind : (mixedFolder.disk.find { names := ["p".toList] }).toOption
      = some (["p".toList], .folder) := by decide +kernel
  obtain ⟨outcome, hends, hview⟩ :
      ∃ outcome, (Job.runBatch options { names := ["p".toList] }).ends mixedFolder
        = (.ok outcome, ((Job.runBatch options { names := ["p".toList] }).ends mixedFolder).2) ∧
      (outcome.failedFiles, outcome.status, outcome.written, outcome.keptFiles.length)
        = ([{ names := ["p".toList, "B.java".toList] }], "extracted", 3, 3) :=
    Job.exists_ends_of_map (by
      rw [Job.runBatch_of_sorted (by decide) hfind (by decide +kernel)]
      decide +kernel)
  simp only [Prod.mk.injEq] at hview
  obtain ⟨hfailed, hstatus, hwritten, hkept⟩ := hview
  have htree : mixedFolder.disk.IsTree :=
    ⟨by decide +kernel, by decide +kernel, by decide +kernel, by decide +kernel⟩
  refine ⟨outcome, _, hends, hfailed, hstatus, hwritten,
    runBatch_without_failed htree rfl rfl hends (fun file hmem heq => ?_) (by omega)⟩
  rw [hfailed, List.mem_singleton] at hmem
  rw [hmem] at heq
  exact absurd (congrArg Except.toOption heq) (by decide +kernel)

/-- It matters where the target leads to, not how it is spelled. `p/../p/A.xml` is none of the paths that
are found below `p`, but it leads to the file at one of them, which fails. Without that file there is no
target. -/
theorem runBatch_target_is_failed :
    let folder : Path := { names := ["p".toList] }
    let target : Path := { names := ["p".toList, "..".toList, "p".toList, "A.xml".toList] }
    let options : Options := { target := some target }
    let space : Workspace :=
      { disk :=
          { home := []
            nodes :=
              [(["p".toList], .folder),
                (["p".toList, "A.xml".toList], .file [0xFF]),
                (["p".toList, "B.java".toList], .file (Utf8.encode "x = 1;".toList)),
                (["p".toList, "C.java".toList], .file (Utf8.encode "y = 2;".toList))] } }
    space.disk.IsTree ∧ ∃ outcome after outcome' after',
      (Job.runBatch options folder).ends space = (.ok outcome, after) ∧
      target ∉ outcome.files ∧ 2 ≤ outcome.keptFiles.length ∧
      (Job.runBatch options folder).ends
          { space with disk := space.disk.without outcome.failedFiles } = (.ok outcome', after') ∧
      ¬after.disk.SameNode after'.disk target := by
  intro folder target options space
  have htree : space.disk.IsTree := by decide +kernel
  let file : Path := { names := ["p".toList, "A.xml".toList] }
  let left : Workspace := { space with disk := space.disk.without [file] }
  have hfind : (space.disk.find folder).toOption = some (["p".toList], .folder) := by decide +kernel
  have hfind' : (left.disk.find folder).toOption = some (["p".toList], .folder) := by decide +kernel
  obtain ⟨outcome, hends, hview⟩ :
      ∃ outcome, (Job.runBatch options folder).ends space
        = (.ok outcome, ((Job.runBatch options folder).ends space).2) ∧
      (outcome.failedFiles, decide (target ∈ outcome.files), outcome.keptFiles.length)
        = ([file], false, 2) :=
    Job.exists_ends_of_map (by
      rw [Job.runBatch_of_sorted (by decide) hfind (by decide +kernel)]
      decide +kernel)
  simp only [Prod.mk.injEq, decide_eq_false_iff_not] at hview
  obtain ⟨hfailed, htarget, hkept⟩ := hview
  obtain ⟨outcome', hends', -⟩ :
      ∃ outcome', (Job.runBatch options folder).ends left
        = (.ok outcome', ((Job.runBatch options folder).ends left).2) ∧ outcome'.written = 0 :=
    Job.exists_ends_of_map (by
      rw [Job.runBatch_of_sorted (by decide) hfind' (by decide +kernel)]
      decide +kernel)
  refine ⟨htree, outcome, _, outcome', _, hends, htarget, hkept.ge, by rw [hfailed]; exact hends',
    fun hsame => ?_⟩
  have hthere :
      (((Job.runBatch options folder).ends space).2.disk.find target).toOption.isSome = true := by
    rw [Job.runBatch_of_sorted (by decide) hfind (by decide +kernel)]
    decide +kernel
  have hgone :
      (((Job.runBatch options folder).ends left).2.disk.find target).toOption.isSome = false := by
    rw [Job.runBatch_of_sorted (by decide) hfind' (by decide +kernel)]
    decide +kernel
  rw [← hsame, hgone] at hthere
  cases hthere

end Externalize
