import Externalize.Proofs.Batch.Merge
import Externalize.Proofs.Batch.Run

/-!
# `Externalize.Proofs.Batch.Sources`: what a failed batch does to its sources

A batch relinks its sources one by one, and only then writes its target. `runBatch_failed_sources`
says when a batch that fails leaves its sources as they were: a batch of several files unless a file
was extracted before it failed, and a batch of one file unless the file is stranded
(`SourceStranded`). Where a file was extracted its source is another one than before.

That nothing later on gives a source back is seen by weight. Every step leaves a source location as it
is or makes its text lighter (`Attempt.Ending.notHeavier`), and so does a run over all files
(`extractEach_lighter`). The one exception is a source under the name of the accessor class.
-/

set_option autoImplicit false

namespace Externalize

open Disk (SameFolders Spares Wrote)

/-! ### The bytes of a file -/

/-- `read` of the file gives the same octets on both disks, or none on either. -/
def Disk.SameBytes (disk after : Disk) (file : Path) : Prop :=
  ∀ octets, after.read file = .ok octets ↔ disk.read file = .ok octets

/-- `SameBytes` holds of a file that is spared. -/
theorem Disk.Spares.sameBytes {disk after : Disk} {kept : Location → Prop}
    (h : Spares disk after kept) {file : Path}
    (hkept : ∀ location, disk.locate file = .ok location → kept location) :
    disk.SameBytes after file := by
  intro octets
  rw [read_eq_ok_iff, read_eq_ok_iff]
  refine exists_congr fun location => ?_
  rw [← h.folders.locate_iff]
  refine and_congr_right fun hlocate => ?_
  rw [h.get? location (hkept location hlocate)]

/-- `SameBytes` does not hold of a file that has other octets. -/
theorem Disk.not_sameBytes {disk after : Disk} (hfolders : SameFolders disk after) {file : Path}
    {location : Location} {octets octets' : Octets} (hlocate : disk.locate file = .ok location)
    (hbefore : disk.get? location = some (.file octets))
    (hafter : after.get? location = some (.file octets')) (hne : octets' ≠ octets) :
    ¬disk.SameBytes after file := by
  intro h
  obtain ⟨other, hother, hget⟩ := read_eq_ok_iff.mp
    ((h octets).mpr (read_eq_ok_iff.mpr ⟨location, hlocate, .inl hbefore⟩))
  obtain rfl := Except.ok.inj (((hfolders.locate_iff file _).mp hlocate).symm.trans hother)
  rw [hafter] at hget
  rcases hget with hget | ⟨hget, -⟩
  · exact hne (Node.file.inj (Option.some.inj hget))
  · cases hget

/-! ### Nodes that get lighter -/

/-- The `node` is a file of a text that is `Lighter` than the text of the file `before`. -/
def LighterNode (node before : Option Node) : Prop :=
  ∃ octets text other, before = some (.file octets) ∧ Utf8.decode octets = .ok other ∧
    node = some (.file (Utf8.encode text)) ∧ Lighter text other

/-- The `node` is as `before`, or a `LighterNode`. -/
def NodeNotHeavier (node before : Option Node) : Prop :=
  node = before ∨ LighterNode node before

theorem LighterNode.trans {node mid before : Option Node} (h : LighterNode node mid)
    (h' : LighterNode mid before) : LighterNode node before := by
  obtain ⟨octets, text, other, hmid, hdecode, hnode, hlighter⟩ := h
  obtain ⟨octets', text', other', hbefore, hdecode', hmid', hlighter'⟩ := h'
  obtain rfl := Node.file.inj (Option.some.inj (hmid.symm.trans hmid'))
  obtain rfl := Except.ok.inj ((Utf8.decode_encode text').symm.trans hdecode)
  exact ⟨octets', text, other', hbefore, hdecode', hnode, hlighter.trans hlighter'⟩

theorem NodeNotHeavier.trans {node mid before : Option Node} (h : NodeNotHeavier node mid)
    (h' : NodeNotHeavier mid before) : NodeNotHeavier node before := by
  rcases h with rfl | h
  · exact h'
  · rcases h' with rfl | h'
    · exact .inr h
    · exact .inr (h.trans h')

/-- A node that gets lighter and then not heavier is a `LighterNode`. -/
theorem NodeNotHeavier.trans_lighter {node mid before : Option Node} (h : NodeNotHeavier node mid)
    (h' : LighterNode mid before) : LighterNode node before := by
  rcases h with rfl | h
  · exact h'
  · exact h.trans h'

theorem LighterNode.trans_notHeavier {node mid before : Option Node} (h : LighterNode node mid)
    (h' : NodeNotHeavier mid before) : LighterNode node before := by
  rcases h' with rfl | h'
  · exact h
  · exact h.trans h'

/-- `SameBytes` does not hold of a file with a `LighterNode`. -/
theorem LighterNode.not_sameBytes {disk after : Disk} (hfolders : SameFolders disk after)
    {file : Path} {location : Location} (hlocate : disk.locate file = .ok location)
    (h : LighterNode (after.get? location) (disk.get? location)) : ¬disk.SameBytes after file := by
  obtain ⟨octets, text, other, hbefore, hdecode, hafter, hlighter⟩ := h
  refine Disk.not_sameBytes hfolders hlocate hbefore hafter fun heq => ?_
  rw [← heq, Utf8.decode_encode] at hdecode
  exact hlighter.ne (Except.ok.inj hdecode)

/-! ### Source locations -/

/-- The last name of the location `isSourceName`, and is not `Accessor.fileName` if an accessor class is
to be written. -/
def IsSourceLocation (accessor : Bool) (location : Location) : Prop :=
  ∃ folder name, location = folder ++ [name] ∧ isSourceName name = true ∧
    (accessor = true → name ≠ Accessor.fileName)

/-- A location with `IsSourceLocation` is not `Dotless`. -/
theorem IsSourceLocation.not_dotless {accessor : Bool} {location : Location}
    (h : IsSourceLocation accessor location) : ¬Dotless location := by
  obtain ⟨folder, name, rfl, hsource, -⟩ := h
  obtain ⟨kind, hkind⟩ := Option.isSome_iff_exists.mp hsource
  rw [dotless_append]
  exact not_not_intro (Path.dot_mem_name (Path.extension_ne_nil hkind))

/-- `isSourceName` does not hold of a name with `Job.backupEnding`. -/
theorem isSourceName_backup (name : Text) : isSourceName (name ++ Job.backupEnding) = false := by
  have hname : Path.name { names := [name ++ Job.backupEnding] }
      = name ++ ['.', 'b', 'a', 'c', 'k', 'u', 'p'] := rfl
  have hafter : (name ++ ['.', 'b', 'a', 'c', 'k', 'u', 'p']).reverse.takeWhile (· != '.')
      = ['p', 'u', 'k', 'c', 'a', 'b'] := by
    rw [List.reverse_append]
    rfl
  rw [isSourceName, Path.kind?, Path.extension, hname]
  simp only [hafter]
  split
  · decide
  · decide

namespace Attempt

variable {disk after : Disk} {scheme : NameScheme} {path : Path} {kind : Kind} {target : Path}
  {count : Int}

theorem aside_not_source (a : Attempt disk scheme path kind target count) (accessor : Bool) :
    ¬IsSourceLocation accessor a.aside := by
  rintro ⟨folder, name, heq, hsource, -⟩
  obtain rfl := List.singleton_inj.mp (List.append_inj' heq rfl).2
  rw [isSourceName_backup] at hsource
  cases hsource

theorem accessor_not_source (a : Attempt disk scheme path kind target count) (h : a.NeedsAccessor) :
    ¬IsSourceLocation scheme.accessor a.accessor := by
  rintro ⟨folder, name, heq, -, hname⟩
  exact hname h.2 (List.singleton_inj.mp (List.append_inj' heq rfl).2).symm

/-! ### Sources get lighter -/

variable {a : Attempt disk scheme path kind target count} {backup : Bool}

/-- `a.relinked` at `a.origin` is a `LighterNode`. -/
theorem lighter_of_relinked (h : after.get? a.origin = some (.file (Utf8.encode a.relinked))) :
    LighterNode (after.get? a.origin) (disk.get? a.origin) :=
  ⟨a.octets, a.relinked, a.text, a.source.holds, a.decoded, h, relink_lighter a.scanned a.found⟩

/-- An `Ending` with `.ok` leaves `a.relinked` at `a.origin`. -/
theorem Ending.get?_origin {scan : Scan} (h : a.Ending backup (.ok scan) after)
    (horigin : IsSourceLocation scheme.accessor a.origin) :
    after.get? a.origin = some (.file (Utf8.encode a.relinked)) := by
  cases h with
  | done _ _ hrelinked _ hsame =>
    rw [hsame a.origin fun hneeds heq => a.accessor_not_source hneeds (heq ▸ horigin)]
    exact hrelinked.get?_origin

/-- An `Ending` leaves the locations with `IsSourceLocation` as they are, but `a.origin` and `a.place`. -/
theorem Ending.get?_of_ne {result : Except Fault Scan} (h : a.Ending backup result after)
    {location : Location} (hsource : IsSourceLocation scheme.accessor location)
    (hplace : location ≠ a.place) (horigin : location ≠ a.origin) :
    after.get? location = disk.get? location := by
  refine h.spares.get? location ⟨⟨hplace, fun _ heq => ?_, horigin⟩, fun hneeds heq => ?_⟩
  · exact a.aside_not_source _ (heq ▸ hsource)
  · exact a.accessor_not_source hneeds (heq ▸ hsource)

/-- An `Ending` leaves a `NodeNotHeavier` at each location with `IsSourceLocation`, but `a.place`. -/
theorem Ending.notHeavier {result : Except Fault Scan} (h : a.Ending backup result after)
    {location : Location} (hsource : IsSourceLocation scheme.accessor location)
    (hplace : location ≠ a.place) : NodeNotHeavier (after.get? location) (disk.get? location) := by
  by_cases horigin : location = a.origin
  · subst horigin
    cases h with
    | broken _ hwrote => exact .inl (hwrote.get?_of_ne hplace)
    | putBack _ _ _ _ hsame => exact .inl (hsame _)
    | halfDone _ _ _ _ hrelinked => exact .inr (lighter_of_relinked hrelinked.get?_origin)
    | done hstores hbackup hrelinked hfolders hsame haccessor =>
      exact .inr (lighter_of_relinked (Ending.get?_origin
        (.done hstores hbackup hrelinked hfolders hsame haccessor) hsource))
  · exact .inl (h.get?_of_ne hsource hplace horigin)

end Attempt

/-- The `file` leads to a location with `IsSourceLocation`, at which `after` has a `LighterNode`. -/
def SourceLighter (accessor : Bool) (disk after : Disk) (file : Path) : Prop :=
  ∃ location, disk.locate file = .ok location ∧ IsSourceLocation accessor location ∧
    LighterNode (after.get? location) (disk.get? location)

/-- `after` has a `NodeNotHeavier` at each location with `IsSourceLocation`. -/
def SourcesNotHeavier (accessor : Bool) (disk after : Disk) : Prop :=
  ∀ location, IsSourceLocation accessor location →
    NodeNotHeavier (after.get? location) (disk.get? location)

section

variable {accessor : Bool} {disk mid after : Disk} {file : Path}

theorem SourcesNotHeavier.trans (h : SourcesNotHeavier accessor disk mid)
    (h' : SourcesNotHeavier accessor mid after) : SourcesNotHeavier accessor disk after :=
  fun location hsource => (h' location hsource).trans (h location hsource)

/-- `SourcesNotHeavier` holds of what spares the locations that are not `Dotless`. -/
theorem SourcesNotHeavier.of_spares (h : Spares disk after (¬Dotless ·)) :
    SourcesNotHeavier accessor disk after :=
  fun location hsource => .inl (h.get? location hsource.not_dotless)

/-- `SourceLighter` is kept by `SourcesNotHeavier`. -/
theorem SourceLighter.trans_notHeavier (h : SourceLighter accessor disk mid file)
    (h' : SourcesNotHeavier accessor mid after) : SourceLighter accessor disk after file := by
  obtain ⟨location, hlocate, hsource, hlighter⟩ := h
  exact ⟨location, hlocate, hsource, (h' location hsource).trans_lighter hlighter⟩

theorem SourcesNotHeavier.trans_lighter (hfolders : SameFolders disk mid)
    (h : SourcesNotHeavier accessor disk mid) (h' : SourceLighter accessor mid after file) :
    SourceLighter accessor disk after file := by
  obtain ⟨location, hlocate, hsource, hlighter⟩ := h'
  exact ⟨location, (hfolders.locate_iff file location).mpr hlocate, hsource,
    hlighter.trans_notHeavier (h location hsource)⟩

end

namespace Job

/-- `extractFile` into a temporary file leaves `SourcesNotHeavier`, and `SourceLighter` of its own
source if it is extracted. -/
theorem extractFile_lighter {options : Options} {file temporary : Path} {place : Location}
    {count : Int} {space after : Workspace} {outcome : FileOutcome}
    (hat : TemporaryAt space.disk temporary place [])
    (h : (extractFile { options with target := some temporary } (some file)
      (.shared count)).ends space = (.ok outcome, after)) :
    SourcesNotHeavier options.accessor space.disk after.disk ∧
      ((options.accessor = true → file.name ≠ Accessor.fileName) →
        outcome.result.status = "extracted" →
          SourceLighter options.accessor space.disk after.disk file) := by
  rcases extractFile_ends h with ⟨-, hdisk, -, hstatus⟩ | ⟨t, hending⟩
  · rw [hdisk]
    exact ⟨fun location _ => .inl rfl, fun _ hextracted => absurd hextracted hstatus⟩
  obtain ⟨path, kind, scheme, ⟨⟩, hkind, hbuilt, a⟩ := t
  obtain ⟨rfl, -⟩ := hat.opens.unique a.opens
  have haccessor := NameScheme.accessor_of_build hbuilt
  -- No source location is that of the temporary file, which has no dot in its name.
  have hplace : ∀ location, IsSourceLocation options.accessor location → location ≠ a.place :=
    fun location hsource heq => hsource.not_dotless (heq ▸ hat.dotless)
  rcases hending with ⟨cause, rfl, hending⟩ | ⟨rfl, hending⟩
  · refine ⟨fun location hsource => hending.notHeavier ?_ (hplace location hsource), fun _ => ?_⟩
    · rwa [haccessor]
    · simp [FileResult.status]
  · refine ⟨fun location hsource => hending.notHeavier ?_ (hplace location hsource),
      fun hname _ => ⟨a.origin, a.source.locate, ?_⟩⟩
    · rwa [haccessor]
    · have horigin : IsSourceLocation options.accessor a.origin :=
        ⟨a.folder, _, rfl, by rw [← isSome_kind?, hkind]; rfl, hname⟩
      exact ⟨horigin, Attempt.lighter_of_relinked (hending.get?_origin (by rwa [haccessor]))⟩

/-- `extractEach` leaves `SourcesNotHeavier`, and `SourceLighter` of some source if one is extracted. -/
theorem extractEach_lighter {options : Options} {scheme : NameScheme} {tasks : List Task}
    {count : Int} {space after : Workspace} {harvest : Harvest}
    (hscheme : NameScheme.build options.stem options.ending options.accessor = .ok scheme)
    (hready : Ready space.disk tasks)
    (h : (extractEach options count (tasks.map fun task => (task.file, task.temporary))).ends space
      = (.ok harvest, after)) :
    SameFolders space.disk after.disk ∧ SourcesNotHeavier options.accessor space.disk after.disk ∧
      ((options.accessor = true → ∀ file ∈ tasks.map Task.file, file.name ≠ Accessor.fileName) →
        (∃ outcome ∈ harvest.outcomes, outcome.result.status = "extracted") →
          ∃ file ∈ tasks.map Task.file,
            SourceLighter options.accessor space.disk after.disk file) := by
  induction tasks generalizing count space harvest with
  | nil =>
    cases h
    exact ⟨.refl _, fun _ _ => .inl rfl, fun _ ⟨_, hmem, _⟩ => by simp at hmem⟩
  | cons task tasks ih =>
    obtain ⟨told, outcome, mid, next, later, count', hdisk, hfile, hnext, hrest, hlater, houtcomes⟩ :=
      of_extractEach_tail hscheme hready h
    rw [← hdisk] at hready ⊢
    obtain ⟨hnotHeavier, hlighter⟩ := extractFile_lighter hready.head hfile
    have hfolders : SameFolders told.disk mid.disk :=
      (extractFile_temporary hscheme hready.head hfile).1.folders
    -- Giving up a temporary file is nothing to the sources.
    have hgone : SourcesNotHeavier options.accessor mid.disk next.disk :=
      .of_spares (hnext.mono fun location hdot heq => hdot (heq ▸ hready.head.dotless))
    obtain ⟨hfolders', hnotHeavier', hlighter'⟩ := ih hrest hlater
    refine ⟨(hfolders.trans hnext.folders).trans hfolders',
      (hnotHeavier.trans hgone).trans hnotHeavier', fun hnames ⟨other, hmem, hstatus⟩ => ?_⟩
    rw [houtcomes] at hmem
    rcases List.mem_cons.mp hmem with rfl | hmem
    · refine ⟨task.file, by simp, ?_⟩
      exact (hlighter (fun haccessor => hnames haccessor _ (by simp)) hstatus).trans_notHeavier
        (hgone.trans hnotHeavier')
    · obtain ⟨file, hfile, hlight⟩ := hlighter'
        (fun haccessor file hmem => hnames haccessor file (List.mem_cons_of_mem _ hmem))
        ⟨other, hmem, hstatus⟩
      exact ⟨file, List.mem_cons_of_mem _ hfile,
        (hnotHeavier.trans hgone).trans_lighter (hfolders.trans hnext.folders) hlight⟩

end Job

/-! ### A batch of one file -/

namespace Attempt

variable {disk after : Disk} {scheme : NameScheme} {path : Path} {kind : Kind} {target : Path}
  {count : Int} {a : Attempt disk scheme path kind target count} {backup : Bool}

/-- The attempt breaks off with its source written: it is its own target and does not `Stores`, or the
accessor class is refused when all else is written. -/
def StrandsSource (a : Attempt disk scheme path kind target count) (backup : Bool) : Prop :=
  (¬a.Stores ∧ a.place = a.origin) ∨
    a.Stores ∧ (backup = true → disk.Admits (Job.backupPath path)) ∧ a.NeedsAccessor ∧
      ¬disk.Admits (Job.accessorPath path)

/-- An `Ending` with a fault leaves `a.origin` as it is, if the attempt does not `StrandsSource`. -/
theorem Ending.origin_same {fault : Fault} (h : a.Ending backup (.error fault) after)
    (hstrands : ¬a.StrandsSource backup) : after.get? a.origin = disk.get? a.origin := by
  cases h with
  | broken hstores hwrote =>
    exact hwrote.get?_of_ne fun heq => hstrands (.inl ⟨hstores, heq.symm⟩)
  | putBack _ _ _ _ hsame => exact hsame _
  | halfDone hstores hadmits hneeded hrefused _ =>
    exact absurd (.inr ⟨hstores, hadmits, hneeded, hrefused⟩) hstrands

/-- An `Ending` with a fault leaves something else at `a.origin`, if the attempt `StrandsSource`. -/
theorem Ending.origin_changed {fault : Fault} (h : a.Ending backup (.error fault) after)
    (hstrands : a.StrandsSource backup) :
    ∃ octets, after.get? a.origin = some (.file octets) ∧ octets ≠ a.octets := by
  cases h with
  | broken hstores hwrote =>
    -- The source is the target, so it is the file that something was added to.
    obtain ⟨-, hplace⟩ := hstrands.resolve_right fun hright => hstores hright.1
    refine ⟨_, hplace ▸ hwrote.get?_place, fun heq => ?_⟩
    have hholds := a.opens.holds.symm
    rw [hplace, origin, a.source.holds] at hholds
    obtain ⟨old, hold, hfile⟩ := Option.map_eq_some_iff.mp hholds
    obtain rfl := Node.file.inj hfile
    rw [hold, Option.getD_some] at heq
    exact Job.encode_lineBreak_ne _ (List.append_right_eq_self.mp heq)
  | putBack hstores hasked hrefused _ _ =>
    rcases hstrands with ⟨hnot, -⟩ | ⟨-, hadmits, -⟩
    · exact absurd hstores hnot
    · exact absurd (hadmits hasked) hrefused
  | halfDone _ _ _ _ hrelinked => exact ⟨_, hrelinked.get?_origin, a.relinked_ne⟩

end Attempt

/-- `extractFile` breaks off with its source written: it comes to an attempt, and that `StrandsSource`. -/
def SourceStranded (disk : Disk) (options : Options) (file : Path) (count : Int) : Prop :=
  ∃ t : Trial disk options (some file) count, t.attempt.StrandsSource options.backup

/-- `extractFile` whose status is not `extracted` keeps the `SameBytes` of its source exactly if it is
not `SourceStranded`. -/
theorem Job.extractFile_sameBytes_iff {options : Options} {file : Path} {counter : Counter}
    {space after : Workspace} {outcome : FileOutcome}
    (h : (extractFile options (some file) counter).ends space = (.ok outcome, after))
    (hstatus : outcome.result.status ≠ "extracted") :
    space.disk.SameBytes after.disk file ↔ ¬SourceStranded space.disk options file counter.start := by
  rcases extractFile_ends h with ⟨hnone, hdisk, -⟩ | ⟨t, ⟨cause, -, hending⟩ | ⟨rfl, -⟩⟩
  · rw [hdisk]
    exact iff_of_true (fun octets => Iff.rfl) fun ⟨t, _⟩ => hnone ⟨t⟩
  · rw [SourceStranded, t.exists_iff]
    obtain ⟨path, kind, scheme, ⟨⟩, hkind, hbuilt, a⟩ := t
    constructor
    · intro hsame hstrands
      obtain ⟨octets, hget, hne⟩ := hending.origin_changed hstrands
      exact Disk.not_sameBytes hending.spares.folders a.source.locate a.source.holds hget hne hsame
    · intro hstrands
      have hspares : Spares space.disk after.disk (· = a.origin) :=
        ⟨hending.spares.folders, fun _ heq => heq ▸ hending.origin_same hstrands⟩
      exact hspares.sameBytes fun location hlocate =>
        Except.ok.inj (hlocate.symm.trans a.source.locate)
  · exact absurd rfl hstatus

/-! ### A batch of several files -/

/-- A harvest with a `count` above zero has a file that was extracted. -/
theorem Harvest.NamedFrom.exists_extracted {harvest : Harvest} {scheme : NameScheme}
    (h : harvest.NamedFrom scheme 0) (hcount : 0 < harvest.count) :
    ∃ outcome ∈ harvest.outcomes, outcome.result.status = "extracted" := by
  refine Classical.byContradiction fun hnone => ?_
  have hentries : harvest.entries = [] := List.flatMap_eq_nil_iff.mpr fun outcome hmem =>
    FileOutcome.entries_of_status fun hstatus => hnone ⟨outcome, hmem, hstatus⟩
  rw [h.count_eq, hentries] at hcount
  simp at hcount

/-- `SeveralEnds` with `failed` has not come to any file yet, or has extracted one and leaves some
`SourceLighter`. -/
theorem Job.SeveralEnds.failed {options : Options} {first : Path} {files : List Path}
    {space : Workspace} {outcomes : List FileOutcome} {target : Option Path}
    {problem : Option Problem} {after : Disk}
    (h : SeveralEnds options first files space outcomes (.failed target problem) after) :
    (outcomes = [] ∧ Spares space.disk after (¬Dotless ·)) ∨
      (∃ outcome ∈ outcomes, outcome.result.status = "extracted") ∧
        SameFolders space.disk after ∧
        ((options.accessor = true → ∀ file ∈ files, file.name ≠ Accessor.fileName) →
          ∃ file ∈ files, SourceLighter options.accessor space.disk after file) := by
  cases h with
  | badTemplates => exact .inl ⟨rfl, .refl _ _⟩
  | noTemporaries hmake => exact .inl ⟨rfl, (makeTemporaries_ends (.nil _) hmake).1⟩
  | unmerged hscheme hmake hextract hcount hmerge =>
    have hmade := (makeTemporaries_ends (.nil _) hmake).1
    obtain ⟨tasks, rfl, hready, htasks⟩ := exists_ready hmake
    rw [htasks] at hextract
    obtain ⟨hfolders, -, hlighter⟩ := extractEach_lighter hscheme hready hextract
    obtain ⟨-, hnamed, yields, htemporaries, hholds, -, -⟩ := extractEach_holds hscheme hready hextract
    have hextracted := hnamed.exists_extracted hcount
    rw [htemporaries] at hmerge
    obtain ⟨gathered, hspares, ⟨_, -, rfl⟩ | ⟨lines, hlines, -⟩⟩ := merge_ends hholds hmerge
    -- Merging broke off, so it took the temporary files away and wrote nothing.
    · have hgone := hspares.mono fun location (hdot : ¬Dotless location) hmem => by
        obtain ⟨kept, hkept, rfl⟩ := List.mem_map.mp hmem
        exact hdot (hholds.each kept hkept).dotless
      refine .inr ⟨hextracted, (hmade.folders.trans hfolders).trans hgone.folders, fun hnames => ?_⟩
      obtain ⟨file, hfile, hlight⟩ := hlighter hnames hextracted
      exact ⟨file, hfile, (SourcesNotHeavier.of_spares hmade).trans_lighter hmade.folders
        (hlight.trans_notHeavier (.of_spares hgone))⟩
    · cases hlines

/-! ### Failed batches -/

/-- Some file of the batch was `extracted`, or its only file is `SourceStranded`. -/
def BatchOutcome.Torn (outcome : BatchOutcome) (options : Options) (disk : Disk) : Prop :=
  (∃ file ∈ outcome.outcomes, file.result.status = "extracted") ∨
    ∃ file, outcome.files = [file] ∧ SourceStranded disk options file 0

theorem BatchOutcome.exists_of_failed {outcome : BatchOutcome} (h : outcome.status = "failed") :
    ∃ target problem, outcome.result = .failed target problem := by
  unfold status at h
  split at h
  · exact absurd h (by decide)
  · exact absurd h (by decide)
  · exact absurd h (by decide)
  · exact ⟨_, _, by assumption⟩

/-- A file whose result is `failed` as the result of a batch is not `extracted`. -/
theorem FileResult.status_ne_of_failed {result : FileResult} {target : Option Path}
    {problem : Option Problem} (h : BatchResult.ofFile result = .failed target problem) :
    result.status ≠ "extracted" := by
  rw [ne_eq, status_eq_extracted_iff]
  rintro ⟨path, target, scan, rfl⟩
  cases h

/-- **A batch that fails keeps the bytes of all its sources unless it is `Torn`.** Take a `runBatch` with
the status `failed`. If it is not `Torn`, each of its `files` has the `SameBytes` as before. If it is, and
no file bears the name `Accessor.fileName` where `options.accessor` is set, then some file has not. -/
theorem runBatch_failed_sources {options : Options} {folder : Path} {space after : Workspace}
    {outcome : BatchOutcome} (h : (Job.runBatch options folder).ends space = (.ok outcome, after))
    (hstatus : outcome.status = "failed") :
    (¬outcome.Torn options space.disk →
      ∀ file ∈ outcome.files, space.disk.SameBytes after.disk file) ∧
    ((options.accessor = true → ∀ file ∈ outcome.files, file.name ≠ Accessor.fileName) →
      outcome.Torn options space.disk →
      ∃ file ∈ outcome.files, ¬space.disk.SameBytes after.disk file) := by
  obtain ⟨target, problem, hresult⟩ := BatchOutcome.exists_of_failed hstatus
  obtain ⟨found, hfiles, hdisk, hends⟩ := Job.runBatch_ends h
  have hkinds := (Job.discover_ends hfiles).2
  rw [← hdisk]
  cases hends with
  | noFiles _ result => cases hresult.symm.trans result
  | @single file single last files extract outcomes result disk =>
    have hsingle := FileResult.status_ne_of_failed (result.symm.trans hresult)
    have hiff := Job.extractFile_sameBytes_iff extract hsingle
    -- The only file was not extracted, so the batch is torn exactly if that file is stranded.
    have htorn : outcome.Torn options found.disk ↔ SourceStranded found.disk options file 0 := by
      simp [BatchOutcome.Torn, outcomes, files, hsingle]
    rw [htorn, disk]
    simp only [files, List.mem_singleton, forall_eq, exists_eq_left]
    exact ⟨hiff.mpr, fun _ hstranded hsame => hiff.mp hsame hstranded⟩
  | several files ends =>
    rw [hresult, ← files] at ends
    have hseveral : ¬∃ file, outcome.files = [file] ∧ SourceStranded found.disk options file 0 := by
      simp [files]
    -- Either the batch failed before its first file, or it failed to merge what it had extracted.
    rcases ends.failed with ⟨houtcomes, hspares⟩ | ⟨hextracted, hfolders, hlighter⟩
    · refine ⟨fun _ file hfile => hspares.sameBytes fun location hlocate =>
        not_dotless_of_locate (hkinds file hfile) hlocate, fun _ htorn => ?_⟩
      rcases htorn with ⟨other, hmem, -⟩ | hsingle
      · simp [houtcomes] at hmem
      · exact absurd hsingle hseveral
    · refine ⟨fun htorn => absurd (.inl hextracted) htorn, fun hnames _ => ?_⟩
      obtain ⟨file, hfile, location, hlocate, -, hnode⟩ := hlighter hnames
      exact ⟨file, hfile, hnode.not_sameBytes hfolders hlocate⟩

/-- A workspace with two code files in a folder, of which the first has a literal. -/
def twoSources (rest : List (Location × Node)) : Workspace :=
  { disk :=
      { home := []
        nodes :=
          [(["p".toList], .folder),
            (["p".toList, "A.java".toList], .file (Utf8.encode "x = \"Hello\";".toList)),
            (["p".toList, "B.java".toList], .file (Utf8.encode "y = 1;".toList))] ++ rest } }

/-- `find` finds the folder of `twoSources`. -/
theorem find_twoSources (rest : List (Location × Node)) :
    ((twoSources rest).disk.find { names := ["p".toList] }).toOption = some (["p".toList], .folder) :=
  rfl

/-- `runBatch_failed_sources` at a target in a folder that is not there, so that `makeTemporaries` fails
and the sources are kept; and at a target that is a folder itself, which comes out when a source is
relinked already. -/
theorem runBatch_failed_sources_kept_and_changed :
    (∃ outcome after,
      (Job.runBatch { target := some { names := ["gone".toList, "t.xml".toList] } }
        { names := ["p".toList] }).ends (twoSources []) = (.ok outcome, after) ∧
      outcome.status = "failed" ∧
      ∀ file ∈ outcome.files, (twoSources []).disk.SameBytes after.disk file) ∧
    ∃ outcome after,
      (Job.runBatch { target := some { names := ["out".toList] } } { names := ["p".toList] }).ends
        (twoSources [(["out".toList], .folder)]) = (.ok outcome, after) ∧
      outcome.status = "failed" ∧
      ∃ file ∈ outcome.files,
        ¬(twoSources [(["out".toList], .folder)]).disk.SameBytes after.disk file := by
  constructor
  · let job := Job.runBatch { target := some { names := ["gone".toList, "t.xml".toList] } }
      { names := ["p".toList] }
    obtain ⟨outcome, hends, hview⟩ :
        ∃ outcome, job.ends (twoSources []) = (.ok outcome, (job.ends (twoSources [])).2) ∧
        (outcome.status, outcome.outcomes, outcome.files.length) = ("failed", [], 2) :=
      Job.exists_ends_of_map (by
        rw [Job.runBatch_of_sorted (by decide) (find_twoSources []) (by decide +kernel)]
        decide +kernel)
    simp only [Prod.mk.injEq] at hview
    obtain ⟨hstatus, houtcomes, hfiles⟩ := hview
    refine ⟨outcome, _, hends, hstatus, (runBatch_failed_sources hends hstatus).1 ?_⟩
    rintro (⟨file, hmem, -⟩ | ⟨file, hsingle, -⟩)
    · simp [houtcomes] at hmem
    · simp [hsingle] at hfiles
  · let job := Job.runBatch { target := some { names := ["out".toList] } } { names := ["p".toList] }
    let space := twoSources [(["out".toList], .folder)]
    obtain ⟨outcome, hends, hview⟩ :
        ∃ outcome, job.ends space = (.ok outcome, (job.ends space).2) ∧
        (outcome.status, outcome.outcomes.any (·.result.status = "extracted")) = ("failed", true) :=
      Job.exists_ends_of_map (by
        rw [Job.runBatch_of_sorted (by decide) (find_twoSources _) (by decide +kernel)]
        decide +kernel)
    simp only [Prod.mk.injEq, List.any_eq_true, decide_eq_true_eq] at hview
    obtain ⟨hstatus, hextracted⟩ := hview
    exact ⟨outcome, _, hends, hstatus, (runBatch_failed_sources hends hstatus).2 (by simp)
      (.inl hextracted)⟩

/-- `runBatch` at a target that is a folder fails, and the source refers to an entry that is nowhere. -/
theorem runBatch_failed_leaves_reference :
    let job := Job.runBatch { target := some { names := ["out".toList] } } { names := ["p".toList] }
    ∃ outcome after, job.ends (twoSources [(["out".toList], .folder)]) = (.ok outcome, after) ∧
      outcome.status = "failed" ∧
      outcome.files = [{ names := ["p".toList, "A.java".toList] },
        { names := ["p".toList, "B.java".toList] }] ∧
      after.disk.get? ["p".toList, "A.java".toList] = some (.file (Utf8.encode
        "x = getResources().getString(R.string.extracted_string1);".toList)) := by
  intro job
  obtain ⟨outcome, hends, hview⟩ :
      ∃ outcome, job.ends (twoSources [(["out".toList], .folder)])
        = (.ok outcome, (job.ends (twoSources [(["out".toList], .folder)])).2) ∧
      (outcome.status, outcome.files) = ("failed", [{ names := ["p".toList, "A.java".toList] },
        { names := ["p".toList, "B.java".toList] }]) :=
    Job.exists_ends_of_map (by
      rw [Job.runBatch_of_sorted (by decide) (find_twoSources _) (by decide +kernel)]
      decide +kernel)
  simp only [Prod.mk.injEq] at hview
  refine ⟨outcome, _, hends, hview.1, hview.2, ?_⟩
  rw [Job.runBatch_of_sorted (by decide) (find_twoSources _) (by decide +kernel)]
  decide +kernel

end Externalize
