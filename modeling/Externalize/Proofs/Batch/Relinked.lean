import Externalize.Proofs.Batch.Discovery
import Externalize.Proofs.Batch.Sources

/-!
# `Externalize.Proofs.Batch.Relinked`: the sources of a batch that is merged

`extractFile` relinks its source and leaves every other source alone (`extractFile_relinks`). The files of
a batch lead to different places, so none is in the way of another, and `extractEach` relinks each source
that is extracted once (`extractEach_relinks`). Making the temporary files and merging them touches
`Dotless` locations and the target only. So at the end every extracted source holds `relink` of the text
that it held at the start, by the entries that its `FileOutcome` reports (`merged_relinks`).

There are two exceptions, and `Job.LeavesSource` excludes them: a source that is the target of the batch,
and one under the name of the accessor class that is written beside it.
-/

set_option autoImplicit false

namespace Externalize

open Disk (SameFolders Spares)

/-- The file held a text, and holds `relink` of it by the entries. -/
def Disk.Relinks (disk after : Disk) (file : Path) (entries : List Entry) : Prop :=
  ∃ kind octets text, file.kind? = some kind ∧ disk.read file = .ok octets ∧
    Utf8.decode octets = .ok text ∧ after.read file = .ok (Utf8.encode (relink kind entries text))

/-- The source at `location`, to which `file` leads, held a text, and holds `relink` of it by the
entries. -/
structure RelinkedAt (accessor : Bool) (disk after : Disk) (file : Path) (entries : List Entry)
    (location : Location) : Prop where
  locate : disk.locate file = .ok location
  source : IsSourceLocation accessor location
  text : ∃ kind octets text, file.kind? = some kind ∧ disk.get? location = some (.file octets) ∧
    Utf8.decode octets = .ok text ∧
    after.get? location = some (.file (Utf8.encode (relink kind entries text)))

namespace RelinkedAt

variable {accessor : Bool} {disk mid after : Disk} {file : Path} {entries : List Entry}
  {location : Location}

theorem relinks (h : RelinkedAt accessor disk after file entries location)
    (hfolders : SameFolders disk after) : disk.Relinks after file entries := by
  obtain ⟨kind, octets, text, hkind, hbefore, hdecode, hafter⟩ := h.text
  refine ⟨kind, octets, text, hkind, ?_, hdecode, ?_⟩
  · exact Disk.read_eq_ok_iff.mpr ⟨location, h.locate, .inl hbefore⟩
  · exact Disk.read_eq_ok_iff.mpr
      ⟨location, (hfolders.locate_iff file location).mp h.locate, .inl hafter⟩

/-- `RelinkedAt` does not depend on what happened before, if the location was spared. -/
theorem of_spares {kept : Location → Prop} (hspares : Spares disk mid kept)
    (h : RelinkedAt accessor mid after file entries location) (hkept : kept location) :
    RelinkedAt accessor disk after file entries location := by
  obtain ⟨kind, octets, text, hkind, hbefore, hdecode, hafter⟩ := h.text
  rw [hspares.get? location hkept] at hbefore
  exact ⟨(hspares.folders.locate_iff file location).mpr h.locate, h.source,
    kind, octets, text, hkind, hbefore, hdecode, hafter⟩

/-- `RelinkedAt` does not depend on what happens afterwards, if the location is spared. -/
theorem trans_spares {kept : Location → Prop} (h : RelinkedAt accessor disk mid file entries location)
    (hspares : Spares mid after kept) (hkept : kept location) :
    RelinkedAt accessor disk after file entries location := by
  obtain ⟨kind, octets, text, hkind, hbefore, hdecode, hmid⟩ := h.text
  rw [← hspares.get? location hkept] at hmid
  exact ⟨h.locate, h.source, kind, octets, text, hkind, hbefore, hdecode, hmid⟩

end RelinkedAt

/-- A location with `IsSourceLocation` that none of the `files` leads to. -/
def Disk.OtherSource (disk : Disk) (accessor : Bool) (files : List Path) (location : Location) : Prop :=
  IsSourceLocation accessor location ∧ ∀ file ∈ files, disk.locate file ≠ .ok location

theorem Disk.OtherSource.of_sameFolders {disk after : Disk} {accessor : Bool} {files : List Path}
    {location : Location} (h : disk.OtherSource accessor files location)
    (hfolders : SameFolders disk after) : after.OtherSource accessor files location :=
  ⟨h.1, fun file hmem hlocate => h.2 file hmem ((hfolders.locate_iff file location).mpr hlocate)⟩

/-- `locate` leads no two of the `files` to one location. -/
def Disk.Apart (disk : Disk) (files : List Path) : Prop :=
  files.Pairwise fun file other =>
    ∀ location, disk.locate file = .ok location → disk.locate other ≠ .ok location

theorem Disk.Apart.of_sameFolders {disk after : Disk} {files : List Path} (h : disk.Apart files)
    (hfolders : SameFolders disk after) : after.Apart files :=
  h.imp fun hapart location hlocate hother =>
    hapart location ((hfolders.locate_iff _ location).mpr hlocate)
      ((hfolders.locate_iff _ location).mpr hother)

theorem Found.pairwise_apart {disk : Disk} {files : List Path} (h : Found disk files) :
    disk.Apart files :=
  h.nodup.imp_of_mem fun hfile hother hne location hlocate hlocate' =>
    hne (h.apart _ hfile _ hother location hlocate hlocate')

namespace Job

/-- Nothing but the extraction from `file` itself writes to it: it is not at the `target`, and does not
bear the name of an accessor class that is to be written. -/
structure LeavesSource (disk : Disk) (options : Options) (target file : Path) : Prop where
  target : disk.locate file ≠ disk.locate target
  accessor : options.accessor = true → file.name ≠ Accessor.fileName

/-- The outcome is that of `file`, and the source is `RelinkedAt` its location by the entries of the
outcome, unless an accessor class is to be written under its name. -/
def OutcomeRelinks (accessor : Bool) (disk after : Disk) (outcome : FileOutcome) (file : Path) : Prop :=
  outcome.result.path? = some file ∧ ((accessor = true → file.name ≠ Accessor.fileName) →
    ∃ location, RelinkedAt accessor disk after file outcome.entries location)

/-- `extractFile` into a temporary file leaves `OutcomeRelinks` of its source, and spares the other
sources. -/
theorem extractFile_relinks {options : Options} {file temporary : Path} {place : Location}
    {count : Int} {scheme : NameScheme} {space after : Workspace} {outcome : FileOutcome}
    (hscheme : NameScheme.build options.stem options.ending options.accessor = .ok scheme)
    (hat : TemporaryAt space.disk temporary place [])
    (h : (extractFile { options with target := some temporary } (some file)
      (.shared count)).ends space = (.ok outcome, after)) :
    Spares space.disk after.disk (space.disk.OtherSource options.accessor [file]) ∧
      (outcome.result.status = "extracted" →
        OutcomeRelinks options.accessor space.disk after.disk outcome file) := by
  have hfolders := (extractFile_temporary hscheme hat h).1.folders
  rcases extractFile_ends h with ⟨-, hdisk, -, hstatus⟩ | ⟨t, hending⟩
  · rw [hdisk]
    exact ⟨.refl _ _, fun hextracted => absurd hextracted hstatus⟩
  obtain ⟨path, kind, scheme', ⟨⟩, hkind, hbuilt, a⟩ := t
  obtain rfl := Except.ok.inj (hbuilt.symm.trans hscheme)
  obtain ⟨rfl, -⟩ := hat.opens.unique a.opens
  have haccessor := NameScheme.accessor_of_build hbuilt
  -- Another source is neither the temporary file, which has no dot in its name, nor the origin.
  have hother : ∀ {result}, a.Ending options.backup result after.disk →
      Spares space.disk after.disk (space.disk.OtherSource options.accessor [file]) := by
    refine fun hending => ⟨hfolders, fun location ⟨hsource, hne⟩ => ?_⟩
    refine hending.get?_of_ne (by rwa [haccessor]) ?_ fun heq => ?_
    · exact fun heq => hsource.not_dotless (heq ▸ hat.dotless)
    · exact hne file (by simp) (heq ▸ a.source.locate)
  rcases hending with ⟨cause, rfl, hending⟩ | ⟨rfl, hending⟩
  · exact ⟨hother hending, by simp [FileResult.status]⟩
  · refine ⟨hother hending, fun _ => ⟨rfl, fun hname => ⟨a.origin, a.source.locate, ?_, ?_⟩⟩⟩
    · exact ⟨a.folder, _, rfl, by rw [← isSome_kind?, hkind]; rfl, hname⟩
    · exact ⟨kind, a.octets, a.text, hkind, a.source.holds, a.decoded,
        hending.get?_origin ⟨a.folder, _, rfl, by rw [← isSome_kind?, hkind]; rfl, by rwa [haccessor]⟩⟩

/-- `extractEach` leaves `OutcomeRelinks` of each source, and spares those that are `OtherSource`. -/
theorem extractEach_relinks {options : Options} {scheme : NameScheme} {tasks : List Task}
    {count : Int} {space after : Workspace} {harvest : Harvest}
    (hscheme : NameScheme.build options.stem options.ending options.accessor = .ok scheme)
    (hready : Ready space.disk tasks) (hapart : space.disk.Apart (tasks.map Task.file))
    (h : (extractEach options count (tasks.map fun task => (task.file, task.temporary))).ends space
      = (.ok harvest, after)) :
    Spares space.disk after.disk
        (space.disk.OtherSource options.accessor (tasks.map Task.file)) ∧
      ∀ outcome ∈ harvest.outcomes, outcome.result.status = "extracted" →
        ∃ file ∈ tasks.map Task.file,
          OutcomeRelinks options.accessor space.disk after.disk outcome file := by
  induction tasks generalizing count space harvest with
  | nil =>
    cases h
    exact ⟨.refl _ _, by simp⟩
  | cons task tasks ih =>
    obtain ⟨told, outcome, mid, next, later, count', hdisk, hfile, hnext, hrest, hlater, houtcomes⟩ :=
      of_extractEach_tail hscheme hready h
    rw [← hdisk] at hready hapart ⊢
    obtain ⟨hspares, hrelinks⟩ := extractFile_relinks hscheme hready.head hfile
    -- Giving up a temporary file is nothing to the sources.
    have hgone : Spares mid.disk next.disk (IsSourceLocation options.accessor) :=
      hnext.mono fun location hsource heq => hsource.not_dotless (heq ▸ hready.head.dotless)
    have hfirst : Spares told.disk next.disk (told.disk.OtherSource options.accessor [task.file]) :=
      hspares.trans (hgone.mono fun _ hother => hother.1)
    obtain ⟨hfree, hapart⟩ := List.pairwise_cons.mp hapart
    obtain ⟨hspares', hrelinks'⟩ :=
      ih hrest (Disk.Apart.of_sameFolders hapart hfirst.folders) hlater
    refine ⟨(hfirst.mono fun _ hother => ?_).trans (hspares'.mono fun _ hother => ?_),
      fun other hmem hstatus => ?_⟩
    · exact ⟨hother.1, fun file hmem => hother.2 file (by simp_all)⟩
    · exact Disk.OtherSource.of_sameFolders
        ⟨hother.1, fun file hmem => hother.2 file (List.mem_cons_of_mem _ hmem)⟩ hfirst.folders
    · rw [houtcomes] at hmem
      rcases List.mem_cons.mp hmem with rfl | hmem
      · -- The first file is extracted, and no later file leads to its source.
        obtain ⟨hpath, hrelinked⟩ := hrelinks hstatus
        refine ⟨task.file, by simp, hpath, fun hname => ?_⟩
        obtain ⟨location, hat⟩ := hrelinked hname
        refine ⟨location, (hat.trans_spares hgone hat.source).trans_spares hspares' ?_⟩
        exact Disk.OtherSource.of_sameFolders
          ⟨hat.source, fun file hmem => hfree file hmem location hat.locate⟩ hfirst.folders
      · -- A later file is extracted, and the first file does not lead to its source.
        obtain ⟨file, hfile, hpath, hrelinked⟩ := hrelinks' other hmem hstatus
        refine ⟨file, List.mem_cons_of_mem _ hfile, hpath, fun hname => ?_⟩
        obtain ⟨location, hat⟩ := hrelinked hname
        refine ⟨location, hat.of_spares hfirst ⟨hat.source, fun first hmem hlocate => ?_⟩⟩
        obtain rfl := List.mem_singleton.mp hmem
        exact hfree file hfile location hlocate
          ((hfirst.folders.locate_iff file location).mpr hat.locate)

/-- A batch that comes through `merge` leaves `Disk.Relinks` of each source that was extracted and that
it `LeavesSource`. -/
theorem merged_relinks {options : Options} {scheme : NameScheme} {files temporaries : List Path}
    {folder target : Path} {space made each last : Workspace} {harvest : Harvest} {written : Nat}
    (hfound : Found space.disk files)
    (hscheme : NameScheme.build options.stem options.ending options.accessor = .ok scheme)
    (hmake : (makeTemporaries folder 1 files []).ends space = (.ok (.ok temporaries), made))
    (hextract : (extractEach options 0 (files.zip temporaries)).ends made = (.ok harvest, each))
    (hmerge : (merge scheme harvest.temporaries target).ends each = (.ok written, last)) :
    ∀ outcome ∈ harvest.outcomes, outcome.result.status = "extracted" →
      ∃ file ∈ files, outcome.result.path? = some file ∧
        (LeavesSource space.disk options target file →
          space.disk.Relinks last.disk file outcome.entries) := by
  obtain ⟨tasks, hfiles, hready, htasks, hcleared⟩ := exists_tasks hmake
  rw [htasks] at hextract
  obtain ⟨-, -, yields, htemporaries, hholds, hsubset, -⟩ := extractEach_holds hscheme hready hextract
  rw [htemporaries] at hmerge
  obtain ⟨gathered, hgathered, ⟨_, hfault, -⟩ | ⟨lines, -, -, hwrite⟩⟩ := merge_ends hholds hmerge
  · cases hfault
  -- The temporary files come and go at locations without a dot.
  have hplaces : ∀ location, IsSourceLocation options.accessor location →
      location ∉ tasks.map Task.place := by
    intro location hsource hmem
    obtain ⟨task, htask, rfl⟩ := List.mem_map.mp hmem
    exact hsource.not_dotless
      (hready.each (task.temporary, task.place) (List.mem_map_of_mem htask)).dotless
  have hmade : Spares space.disk made.disk (IsSourceLocation options.accessor) :=
    hcleared.spares.symm.mono hplaces
  have hgone : Spares each.disk gathered (IsSourceLocation options.accessor) :=
    hgathered.mono fun location hsource hmem => hplaces location hsource (hsubset hmem)
  have hapart : made.disk.Apart (tasks.map Task.file) :=
    Disk.Apart.of_sameFolders (hfiles ▸ hfound.pairwise_apart) hmade.folders
  obtain ⟨heach, hrelinks⟩ := extractEach_relinks hscheme hready hapart hextract
  intro outcome hmem hstatus
  obtain ⟨file, hfile, hpath, hrelinked⟩ := hrelinks outcome hmem hstatus
  refine ⟨file, hfiles ▸ hfile, hpath, fun hleaves => ?_⟩
  obtain ⟨location, hat⟩ := hrelinked hleaves.accessor
  have hfolders : SameFolders space.disk gathered :=
    (hmade.folders.trans heach.folders).trans hgone.folders
  have hstart := hat.of_spares hmade hat.source
  have htarget : Spares gathered last.disk (· = location) := by
    refine ⟨Disk.update_sameFolders hwrite, fun other heq => ?_⟩
    obtain ⟨place, hplace, -⟩ := Disk.update_eq_ok_iff.mp hwrite
    refine Disk.get?_update hwrite hplace fun hsame => hleaves.target ?_
    rw [hstart.locate, (hfolders.locate_iff target place).mpr hplace, ← hsame, heq]
  exact ((hstart.trans_spares hgone hat.source).trans_spares htarget rfl).relinks
    (hfolders.trans htarget.folders)

end Job

end Externalize
