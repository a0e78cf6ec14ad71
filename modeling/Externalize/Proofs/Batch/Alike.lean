import Externalize.Proofs.Batch.Each
import Externalize.Proofs.Extraction.Success

/-!
# `Externalize.Proofs.Batch.Alike`: the files of a batch on two disks that are alike

Two disks are `Alike` if they have the same folders and the same files, apart from names without a dot,
among which the temporary files are, and apart from places that are `gone`.

Take a file that is not gone. If it counts on one of two such disks it counts on the other, with the same
entries, and the disks stay alike (`extractFile_alike`). The two temporary files need not be the same.
A file that does not count leaves everything but its temporary file as it was, if no accessor class is
asked for (`extractFile_dropped`). So all the files of a batch on the one disk, and those that count of
them on the other, give the same entries and the same count, and leave the disks alike:
`extractEach_alike`.
-/

set_option autoImplicit false

namespace Externalize

open Disk (SameFolders Spares)

theorem FileResult.counts_iff (result : FileResult) :
    result.counts = true ↔ ∃ scan, result.scan? = some scan := by
  cases result <;> simp [counts, scan?]

/-- The disks have `SameFolders`, and `get?` finds the same on both at each location that is not
`Dotless` and not `gone`. -/
def Alike (gone : List Location) (disk other : Disk) : Prop :=
  Spares disk other fun location => ¬Dotless location ∧ location ∉ gone

/-- `Alike` is kept by what spares the locations that are not `Dotless`. -/
theorem Alike.of_spares {gone : List Location} {disk other after after' : Disk}
    (h : Alike gone disk other) (hspares : Spares disk after (¬Dotless ·))
    (hspares' : Spares other after' (¬Dotless ·)) : Alike gone after after' :=
  ((hspares.mono fun _ hkept => hkept.1).symm.trans h).trans (hspares'.mono fun _ hkept => hkept.1)

/-- Disks that are `Alike` and the same at the `Dotless` locations differ at the `gone` ones only. -/
theorem Alike.spares {gone : List Location} {disk other : Disk} (h : Alike gone disk other)
    (hdotless : Spares disk other Dotless) : Spares disk other (· ∉ gone) := by
  refine ⟨hdotless.folders, fun location hmem => ?_⟩
  by_cases hname : Dotless location
  · exact hdotless.get? location hname
  · exact Spares.get? h location ⟨hname, hmem⟩

/-! ### Attempts on two disks -/

namespace Attempt

variable {disk other after after' : Disk} {scheme : NameScheme} {path : Path} {kind : Kind}
  {target target' : Path} {count : Int} {a : Attempt disk scheme path kind target count}
  {b : Attempt other scheme path kind target' count} {backup : Bool} {gone : List Location}

/-- Two attempts on the same source have the same `folder`, `octets`, `text` and `scan`. -/
theorem reads_same (a : Attempt disk scheme path kind target count)
    (b : Attempt other scheme path kind target' count) (hfolders : SameFolders disk other)
    (hsame : other.get? a.origin = disk.get? a.origin) :
    b.folder = a.folder ∧ b.octets = a.octets ∧ b.text = a.text ∧ b.scan = a.scan := by
  have hlocate := (hfolders.locate_iff path _).mp a.source.locate
  obtain ⟨hfolder, -⟩ := List.append_inj' (Except.ok.inj (b.source.locate.symm.trans hlocate)) rfl
  have hholds : other.get? a.origin = some (.file b.octets) := by
    rw [origin, ← hfolder]
    exact b.source.holds
  have hoctets : b.octets = a.octets := by
    rw [hsame, origin, a.source.holds, Option.some.injEq, Node.file.injEq] at hholds
    exact hholds.symm
  have htext : b.text = a.text := Except.ok.inj (b.decoded.symm.trans (hoctets ▸ a.decoded))
  exact ⟨hfolder, hoctets, htext, Except.ok.inj (b.scanned.symm.trans (htext ▸ a.scanned))⟩

/-- Two `Ending`s with `.ok` of attempts into temporary files keep disks `Alike`. -/
theorem Ending.alike {scan scan' : Scan} (h : a.Ending backup (.ok scan) after)
    (h' : b.Ending backup (.ok scan') after') (halike : Alike gone disk other)
    (hneeds : ¬a.NeedsAccessor) (hplace : Dotless a.place) (hplace' : Dotless b.place)
    (horigin : a.origin ∉ gone) : Alike gone after after' := by
  have hsame := halike.get? a.origin ⟨a.not_dotless.1, horigin⟩
  obtain ⟨hfolder, hoctets, htext, hscan⟩ := a.reads_same b halike.folders hsame
  refine ⟨h.spares.folders.symm.trans (halike.folders.trans h'.spares.folders),
    fun location hkept => ?_⟩
  -- What is written has a dot in its name, and so has the location: neither is a temporary file.
  have hdot : ∀ {place : Location}, Dotless place → location ≠ place :=
    fun hplace heq => hkept.1 (heq ▸ hplace)
  rw [h.get?_apart hneeds (fun heq => a.not_dotless.1 (heq ▸ hplace)) (hdot hplace),
    h'.get?_apart (fun hneeds' => hneeds hneeds') (fun heq => b.not_dotless.1 (heq ▸ hplace'))
      (hdot hplace'), halike.get? location hkept]
  rw [origin, aside, relinked, origin, aside, relinked, hfolder, hoctets, htext, hscan]

end Attempt

section

variable {options : Options} {file temporary temporary' : Path} {place place' : Location}
  {count : Int} {gone : List Location}

/-- `Extractable` carries over to a disk that is `Alike`, with a temporary file of its own as the
target. -/
theorem Extractable.of_alike {disk other : Disk} {scan : Scan} (halike : Alike gone disk other)
    (hat : TemporaryAt disk temporary place []) (hat' : TemporaryAt other temporary' place' [])
    (hfile : ∀ location, disk.locate file = .ok location → location ∉ gone)
    (h : Extractable disk { options with target := some temporary } file count scan) :
    Extractable other { options with target := some temporary' } file count scan := by
  obtain ⟨kind, scheme, hkind, hbuild, hscans, hwritten⟩ := h
  have hsame : ∀ location, disk.locate file = .ok location →
      other.get? location = disk.get? location := fun location hlocate =>
    halike.get? location ⟨not_dotless_of_locate (by simp [hkind]) hlocate, hfile location hlocate⟩
  have hread : ∀ octets, disk.read file = .ok octets → other.read file = .ok octets := by
    intro octets hread
    obtain ⟨location, hlocate, hget⟩ := Disk.read_eq_ok_iff.mp hread
    rw [← hsame location hlocate] at hget
    exact Disk.read_eq_ok_iff.mpr ⟨location, (halike.folders.locate_iff _ _).mp hlocate, hget⟩
  obtain ⟨hzero, octets, text, hoctets, hdecode, hscan⟩ := hscans
  refine ⟨kind, scheme, hkind, hbuild, ⟨hzero, octets, text, hread octets hoctets, hdecode, hscan⟩,
    hwritten.imp_right ?_⟩
  rintro ⟨a, hsucceeds⟩
  have hsource : other.SourceAt file a.folder a.octets :=
    ⟨a.source.extension, a.source.noZero, (halike.folders.locate_iff _ _).mp a.source.locate,
      (hsame _ a.source.locate).trans a.source.holds⟩
  -- Both temporary files are empty, so they are no matter to what can be stored.
  have hstores : Stores a.scan.entries (some []) := (hat.opens.unique a.opens).2 ▸ hsucceeds.stores
  exact ⟨⟨a.folder, a.octets, a.text, a.scan, place', some [], hsource, a.decoded, a.scanned, a.found,
      hat'.opens⟩, hstores,
    fun hasked => (halike.folders.admits_iff _).mp (hsucceeds.backedUp hasked),
    fun hneeded => (halike.folders.admits_iff _).mp (hsucceeds.accessor hneeded)⟩

namespace Job

variable {space space' after after' : Workspace} {outcome : FileOutcome}

/-- `extractFile` of one scan on disks that are `Alike` keeps them `Alike`. -/
theorem extractFile_keeps_alike {scan : Scan} (haccessor : options.accessor = false)
    (halike : Alike gone space.disk space'.disk) (hat : TemporaryAt space.disk temporary place [])
    (hat' : TemporaryAt space'.disk temporary' place' [])
    (hfile : ∀ location, space.disk.locate file = .ok location → location ∉ gone)
    (h : (extractFile { options with target := some temporary } (some file) (.shared count)).ends space
      = (.ok (concluded file temporary count (.ok scan)), after))
    (h' : (extractFile { options with target := some temporary' } (some file) (.shared count)).ends
      space' = (.ok (concluded file temporary' count (.ok scan)), after')) :
    Alike gone after.disk after'.disk := by
  -- Both runs give one scan, so that both wrote or neither did.
  rcases extractFile_written h with ⟨hnil, hdisk⟩ | ⟨hfound, t, hending⟩
  · rcases extractFile_written h' with ⟨-, hdisk'⟩ | ⟨hfound, -⟩
    · rw [hdisk, hdisk']
      exact halike
    · exact absurd hnil hfound
  · rcases extractFile_written h' with ⟨hnil, -⟩ | ⟨-, t', hending'⟩
    · exact absurd hnil hfound
    · obtain ⟨path, kind, scheme, ⟨⟩, hkind, hbuilt, a⟩ := t
      obtain ⟨path', kind', scheme', ⟨⟩, hkind', hbuilt', b⟩ := t'
      obtain rfl := Option.some.inj (hkind.symm.trans hkind')
      obtain rfl := Except.ok.inj (hbuilt.symm.trans hbuilt')
      have hneeds : ¬a.NeedsAccessor := by
        rintro ⟨-, haccessor'⟩
        rw [NameScheme.accessor_of_build hbuilt] at haccessor'
        exact absurd (haccessor.symm.trans haccessor') (by simp)
      have hplace : Dotless a.place := (hat.opens.unique a.opens).1 ▸ hat.dotless
      have hplace' : Dotless b.place := (hat'.opens.unique b.opens).1 ▸ hat'.dotless
      exact hending.alike hending' halike hneeds hplace hplace' (hfile _ a.source.locate)

/-- `extractFile` of a file that `counts` on one of two disks that are `Alike` counts on the other, with
the same entries, and the disks stay `Alike`. -/
theorem extractFile_alike (haccessor : options.accessor = false)
    (halike : Alike gone space.disk space'.disk) (hat : TemporaryAt space.disk temporary place [])
    (hat' : TemporaryAt space'.disk temporary' place' [])
    (hfile : ∀ location, space.disk.locate file = .ok location → location ∉ gone)
    (hcounts : outcome.result.counts = true)
    (h : (extractFile { options with target := some temporary } (some file) (.shared count)).ends space
      = (.ok outcome, after)) :
    ∃ outcome' after',
      (extractFile { options with target := some temporary' } (some file) (.shared count)).ends space'
        = (.ok outcome', after') ∧
      outcome'.result.counts = true ∧ outcome'.count = outcome.count ∧
      outcome'.entries = outcome.entries ∧ Alike gone after.disk after'.disk := by
  obtain ⟨scan, hscan⟩ := (FileResult.counts_iff _).mp hcounts
  obtain ⟨rfl, hextractable⟩ := extractable_of_scan? hscan h
  obtain ⟨after', hafter'⟩ :=
    extractFile_of_extractable (hextractable.of_alike halike hat hat' hfile)
  refine ⟨_, after', hafter', (FileResult.counts_iff _).mpr ⟨scan, scan?_concluded_ok _ _ _ _⟩, ?_, ?_,
    extractFile_keeps_alike haccessor halike hat hat' hfile h hafter'⟩
  · rw [concluded_ok, concluded_ok]
  · rw [concluded_ok, concluded_ok, FileOutcome.entries, FileOutcome.entries]
    cases scan.entries.isEmpty <;> rfl

/-- `extractFile` of a file that does not `counts` leaves everything but its temporary file as it was. -/
theorem extractFile_dropped (haccessor : options.accessor = false)
    (hat : TemporaryAt space.disk temporary place []) (hcounts : outcome.result.counts = false)
    (h : (extractFile { options with target := some temporary } (some file) (.shared count)).ends space
      = (.ok outcome, after)) : Spares space.disk after.disk (¬Dotless ·) := by
  rcases extractFile_ends h with ⟨-, hdisk, -⟩ | ⟨t, ⟨cause, -, hending⟩ | ⟨rfl, -⟩⟩
  · rw [hdisk]
    exact .refl _ _
  · obtain ⟨path, kind, scheme, ⟨⟩, hkind, hbuilt, a⟩ := t
    cases hending with
    | broken _ hwrote =>
      refine hwrote.spares.mono fun location hdot heq => hdot ?_
      rw [heq, (hat.opens.unique a.opens).1]
      exact hat.dotless
    | putBack _ _ _ hfolders hsame => exact ⟨hfolders, fun location _ => hsame location⟩
    | halfDone _ _ hneeded =>
      -- Source and target are written, but only the accessor class could fail after that.
      have haccessor' := hneeded.2
      rw [NameScheme.accessor_of_build hbuilt] at haccessor'
      exact absurd (haccessor.symm.trans haccessor') (by simp)
  · cases hcounts

end Job

end

/-! ### All files -/

namespace Job

/-- `extractEach` of a file that `counts` and of the files behind it. -/
theorem extractEach_cons_ends {options : Options} {count : Int} {task : Task} {tasks : List Task}
    {space told mid after : Workspace} {outcome : FileOutcome} {later : Harvest}
    (htold : (record .info .folder s!"Searching strings on: {task.file}").ends space = (.ok (), told))
    (hfile : (extractFile { options with target := some task.temporary } (some task.file)
      (.shared count)).ends told = (.ok outcome, mid))
    (hcounts : outcome.result.counts = true)
    (hlater : (extractEach options outcome.count
      (tasks.map fun task => (task.file, task.temporary))).ends mid = (.ok later, after)) :
    (extractEach options count ((task :: tasks).map fun task => (task.file, task.temporary))).ends space
      = (.ok { later with
          outcomes := outcome :: later.outcomes
          temporaries := task.temporary :: later.temporaries }, after) := by
  rw [List.map_cons, extractEach]
  refine (ends_bind_ok htold).trans ((ends_bind_ok hfile).trans ?_)
  rw [if_pos hcounts]
  exact ends_bind_ok hlater

/-- The `files` whose outcome `counts`. -/
def countedFiles (files : List Path) (outcomes : List FileOutcome) : List Path :=
  ((files.zip outcomes).filter (·.2.result.counts)).map Prod.fst

/-- `extractEach` of some files on one disk, and of the `countedFiles` on a disk that is `Alike`: the
count and the entries are the same, and the disks stay `Alike`. -/
theorem extractEach_alike {options : Options} {scheme : NameScheme} {gone : List Location}
    {tasks tasks' : List Task} {count : Int} {space space' after : Workspace} {harvest : Harvest}
    (hscheme : NameScheme.build options.stem options.ending options.accessor = .ok scheme)
    (haccessor : options.accessor = false) (hready : Ready space.disk tasks)
    (hready' : Ready space'.disk tasks') (halike : Alike gone space.disk space'.disk)
    (hfiles : tasks'.map Task.file = countedFiles (tasks.map Task.file) harvest.outcomes)
    (hkept : ∀ file ∈ tasks'.map Task.file, ∀ location, space.disk.locate file = .ok location →
      location ∉ gone)
    (h : (extractEach options count (tasks.map fun task => (task.file, task.temporary))).ends space
      = (.ok harvest, after)) :
    ∃ harvest' after',
      (extractEach options count (tasks'.map fun task => (task.file, task.temporary))).ends space'
        = (.ok harvest', after') ∧
      harvest'.count = harvest.count ∧
      harvest'.outcomes.map FileOutcome.entries
        = (harvest.outcomes.filter (·.result.counts)).map FileOutcome.entries ∧
      Alike gone after.disk after'.disk := by
  induction tasks generalizing tasks' count space space' harvest with
  | nil =>
    cases h
    obtain rfl : tasks' = [] := List.map_eq_nil_iff.mp hfiles
    exact ⟨_, space', rfl, rfl, rfl, halike⟩
  | cons task tasks ih =>
    obtain ⟨told, outcome, mid, next, later, hdisk, hfile, hnext, hrest, hcases⟩ :=
      of_extractEach_cons hscheme hready h
    rw [← hdisk] at hready halike hkept
    have hspares := (extractFile_temporary hscheme hready.head hfile).1
    have hfolders : SameFolders told.disk next.disk := hspares.folders.trans hnext.folders
    have hkept' : ∀ file ∈ tasks'.map Task.file, ∀ location, next.disk.locate file = .ok location →
        location ∉ gone := fun file hmem location hlocate =>
      hkept file hmem location ((hfolders.locate_iff file location).mpr hlocate)
    rcases hcases with ⟨hcounts, rfl, hlater, rfl⟩ | ⟨hcounts, -, hlater, rfl⟩
    · -- The file counts, so it is the next one on the other disk.
      simp only [countedFiles, List.map_cons, List.zip_cons_cons, hcounts, List.filter_cons_of_pos]
        at hfiles
      obtain ⟨twin, rest', rfl, hsame, hfiles⟩ := List.map_eq_cons_iff.mp hfiles
      obtain ⟨told', htold', hdisk'⟩ := record_ends .info .folder
        s!"Searching strings on: {twin.file}" space'
      rw [← hdisk'] at hready' halike
      obtain ⟨outcome', mid', hfile', hcounts', hcount', hentries', halike'⟩ :=
        extractFile_alike haccessor halike hready.head hready'.head (hkept _ (by simp [hsame])) hcounts
          hfile
      rw [← hsame] at hfile'
      have hspares' := (extractFile_temporary hscheme hready'.head hfile').1
      obtain ⟨later', after', hlater', hcount, hentries, hafter⟩ := ih hrest (hready'.tail hspares')
        halike' hfiles (fun file hmem => hkept' file (List.mem_cons_of_mem _ hmem)) hlater
      rw [← hcount'] at hlater'
      refine ⟨_, after', extractEach_cons_ends htold' hfile' hcounts' hlater', hcount, ?_, hafter⟩
      simp [hcounts, hentries, hentries']
    · -- The file gives up its temporary file, and all else is as it was.
      simp only [countedFiles, List.map_cons, List.zip_cons_cons, hcounts, List.filter_cons,
        Bool.false_eq_true, if_false] at hfiles
      have hdropped := (extractFile_dropped haccessor hready.head hcounts hfile).trans
        (hnext.mono fun location hdot heq => hdot (heq ▸ hready.head.dotless))
      obtain ⟨later', after', hlater', hcount, hentries, hafter⟩ :=
        ih hrest hready' (halike.of_spares hdropped (.refl _ _)) hfiles hkept' hlater
      refine ⟨later', after', hlater', hcount, ?_, hafter⟩
      simpa [hcounts] using hentries

end Job

end Externalize
