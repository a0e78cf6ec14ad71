import Externalize.Proofs.Batch.Temporary
import Externalize.Proofs.Extraction.File

/-!
# `Externalize.Proofs.Batch.Each`: the files of a batch, one after the other

A file that is extracted into its temporary file leaves every other temporary file alone, because what
else it writes has a dot in its name (`Attempt.not_dotless`). `extractFile_temporary` says what one
file leaves behind, and `extractEach_holds` what they all do: each temporary file that is kept holds
the entries of its file, and the names go on from file to file, over those that failed. No other
temporary file is left (`extractEach_dotless`).
-/

set_option autoImplicit false

namespace Externalize

open Disk (Cleared SameFolders Spares Wrote)

theorem dotless_append {folder : Location} {name : Text} :
    Dotless (folder ++ [name]) ↔ '.' ∉ name := by
  constructor
  · rintro ⟨folder', name', heq, hdot⟩
    obtain ⟨-, hname⟩ := List.append_inj' heq rfl
    rwa [List.singleton_inj.mp hname]
  · exact fun hdot => ⟨folder, name, rfl, hdot⟩

/-- `locate` of the path of a source leads to a location that is not `Dotless`. -/
theorem not_dotless_of_locate {disk : Disk} {file : Path} {location : Location}
    (hkind : file.kind?.isSome = true) (hlocate : disk.locate file = .ok location) :
    ¬Dotless location := by
  obtain ⟨kind, hkind⟩ := Option.isSome_iff_exists.mp hkind
  have hext := Path.extension_ne_nil hkind
  obtain ⟨folder, -, -, rfl⟩ := Disk.locate_eq_ok_append (Path.names_eq (Path.name_ne_nil hext))
    (Path.name_ne_parentName hext) hlocate
  rw [dotless_append]
  exact not_not_intro (Path.dot_mem_name hext)

/-- `a.origin`, `a.aside` and `a.accessor` are not `Dotless`. -/
theorem Attempt.not_dotless {disk : Disk} {scheme : NameScheme} {path : Path} {kind : Kind}
    {target : Path} {count : Int} (a : Attempt disk scheme path kind target count) :
    ¬Dotless a.origin ∧ ¬Dotless a.aside ∧ ¬Dotless a.accessor := by
  have hdot := Path.dot_mem_name a.source.extension
  refine ⟨?_, ?_, ?_⟩
  · rw [origin, dotless_append]
    exact not_not_intro hdot
  · rw [aside, dotless_append]
    exact not_not_intro (List.mem_append_left _ hdot)
  · rw [accessor, dotless_append]
    decide

/-! ### The entries of an outcome -/

/-- The entries of the scan, if the result is `extracted`. -/
def FileOutcome.entries (outcome : FileOutcome) : List Entry :=
  match outcome.result with
  | .extracted _ _ scan => scan.entries
  | _ => []

theorem FileOutcome.entries_of_status {outcome : FileOutcome}
    (h : outcome.result.status ≠ "extracted") : outcome.entries = [] := by
  unfold entries
  split
  · rename_i heq
    rw [heq] at h
    exact absurd rfl h
  · rfl

/-- The text of a file that held nothing before `store` added the entries. -/
def storedText (entries : List Entry) : Text :=
  if entries.isEmpty then []
  else Document.format (Text.unifyBreaks (entries.flatMap Job.entryText))

/-- The entries of an outcome have `NamesFrom` the count, no name has halves, and each `reference` is
what the scheme gives to its name for the kind of the file. -/
structure FileOutcome.NamedFrom (outcome : FileOutcome) (scheme : NameScheme) (count : Int) :
    Prop where
  count_eq : outcome.count = count + outcome.entries.length
  names : scheme.NamesFrom count outcome.entries
  texts : ∀ entry ∈ outcome.entries, entry.name.text? ≠ none
  values : ∀ entry ∈ outcome.entries, '"' ∉ entry.value
  references : ∀ entry ∈ outcome.entries, ∃ kind, outcome.result.path?.bind Path.kind? = some kind ∧
    entry.reference = scheme.reference kind entry.name

/-! ### One file -/

/-- A temporary file that is empty `Opens`. -/
theorem TemporaryAt.opens {disk : Disk} {path : Path} {place : Location}
    (h : TemporaryAt disk path place []) : disk.Opens path place (some []) :=
  ⟨h.noZero, h.locate, h.holds, fun _ hmem hne => absurd (Option.some.inj hmem).symm hne⟩

/-- An `Ending` of an attempt into a temporary file spares the `Dotless` locations but `a.place`. -/
theorem Attempt.Ending.spares_temporary {disk after : Disk} {scheme : NameScheme} {path : Path} {kind : Kind}
    {target : Path} {count : Int} {a : Attempt disk scheme path kind target count} {backup : Bool}
    {result : Except Fault Scan} (h : a.Ending backup result after) :
    Spares disk after fun location => Dotless location ∧ location ≠ a.place := by
  obtain ⟨horigin, haside, haccessor⟩ := a.not_dotless
  refine h.spares.mono fun location ⟨hdot, hplace⟩ => ⟨⟨hplace, ?_, ?_⟩, fun _ => ?_⟩
  · exact fun _ heq => haside (heq ▸ hdot)
  · exact fun heq => horigin (heq ▸ hdot)
  · exact fun heq => haccessor (heq ▸ hdot)

/-- An `Ending` with `.ok` of an attempt into an empty temporary file leaves the `storedText` there. -/
theorem Attempt.Ending.temporaryAt {disk after : Disk} {scheme : NameScheme} {path : Path} {kind : Kind}
    {target : Path} {count : Int} {a : Attempt disk scheme path kind target count} {backup : Bool}
    {scan : Scan} (hat : TemporaryAt disk target a.place []) (h : a.Ending backup (.ok scan) after) :
    TemporaryAt after target a.place (Utf8.encode (storedText a.scan.entries)) := by
  obtain ⟨horigin, haside, haccessor⟩ := a.not_dotless
  -- Nothing else that is written has the place of the temporary file, so what was stored there is
  -- still there.
  obtain ⟨old, hold, hstored⟩ := h.exists_stored (fun _ heq => haside (heq ▸ hat.dotless))
    (fun heq => horigin (heq ▸ hat.dotless)) fun _ heq => haccessor (heq ▸ hat.dotless)
  rw [(hat.opens.unique a.opens).2] at hold
  obtain rfl : [] = old := Except.ok.inj hold
  refine ⟨hat.isTemporary, hat.noZero, (h.spares.folders.locate_iff target _).mp hat.locate, ?_⟩
  rw [hstored, storedText, if_neg (by simpa using a.found)]
  rfl

namespace Job

/-- `extractFile` into a temporary file: it holds the `storedText` of what was extracted, and the other
temporary files are spared. -/
theorem extractFile_temporary {options : Options} {file temporary : Path} {place : Location}
    {count : Int} {scheme : NameScheme} {space after : Workspace} {outcome : FileOutcome}
    (hscheme : NameScheme.build options.stem options.ending options.accessor = .ok scheme)
    (hat : TemporaryAt space.disk temporary place [])
    (h : (extractFile { options with target := some temporary } (some file)
      (.shared count)).ends space = (.ok outcome, after)) :
    Spares space.disk after.disk (fun location => Dotless location ∧ location ≠ place) ∧
      (outcome.result.counts = true →
        TemporaryAt after.disk temporary place (Utf8.encode (storedText outcome.entries)) ∧
          outcome.NamedFrom scheme count) ∧
      (outcome.result.counts = false → outcome.entries = []) := by
  rcases extractFile_ends h with ⟨-, hdisk, hcount, hstatus⟩ | ⟨t, hending⟩
  · have hentries := FileOutcome.entries_of_status hstatus
    rw [hdisk, hentries]
    refine ⟨.refl _ _, fun _ => ⟨hat, ?_, ?_, ?_, ?_, ?_⟩, fun _ => rfl⟩
    · rw [hcount, hentries]
      simp [Counter.start]
    · rw [hentries]
      trivial
    · simp [hentries]
    · simp [hentries]
    · simp [hentries]
  · obtain ⟨path, kind, scheme', ⟨⟩, hkind, hbuilt, a⟩ := t
    obtain rfl := Except.ok.inj (hbuilt.symm.trans hscheme)
    -- The attempt opens the temporary file, so its place is the one that is known.
    obtain ⟨rfl, -⟩ := hat.opens.unique a.opens
    rcases hending with ⟨cause, rfl, hending⟩ | ⟨rfl, hending⟩
    · exact ⟨hending.spares_temporary, by simp [FileResult.counts], fun _ => rfl⟩
    · refine ⟨hending.spares_temporary, fun _ => ⟨hending.temporaryAt hat, ?_⟩,
        by simp [FileResult.counts]⟩
      exact ⟨scan_count a.scanned, scan_namesFrom a.scanned, hending.stores.1,
        fun entry hmem => a.quote_notMem_value hmem,
        fun entry hmem => ⟨kind, hkind, scan_reference a.scanned hmem⟩⟩

end Job

/-! ### All files -/

/-- A file of a batch with its temporary file and the place of that. -/
structure Task where
  file : Path
  temporary : Path
  place : Location

/-- A temporary file that is kept, with its place and the entries that it is to hold. -/
structure Yield where
  temporary : Path
  place : Location
  entries : List Entry

/-- The temporary files of the `yields` hold their `storedText`, at different places. -/
structure Holds (disk : Disk) (yields : List Yield) : Prop where
  each : ∀ kept ∈ yields, TemporaryAt disk kept.temporary kept.place (Utf8.encode (storedText kept.entries))
  nodup : (yields.map Yield.place).Nodup

/-- The entries of the `outcomes`, in the order of the files. -/
def Harvest.entries (harvest : Harvest) : List Entry :=
  harvest.outcomes.flatMap FileOutcome.entries

/-- The entries of a harvest have `NamesFrom` the count, over all its files, and go up to the `count` of
the harvest. -/
structure Harvest.NamedFrom (harvest : Harvest) (scheme : NameScheme) (count : Int) : Prop where
  count_eq : harvest.count = count + harvest.entries.length
  names : scheme.NamesFrom count harvest.entries
  texts : ∀ entry ∈ harvest.entries, entry.name.text? ≠ none
  values : ∀ entry ∈ harvest.entries, '"' ∉ entry.value
  references : ∀ outcome ∈ harvest.outcomes, ∀ entry ∈ outcome.entries,
    ∃ kind, outcome.result.path?.bind Path.kind? = some kind ∧
      entry.reference = scheme.reference kind entry.name

/-- `NamedFrom` for an outcome in front of a harvest that goes on from its `count`. -/
theorem Harvest.NamedFrom.cons {later : Harvest} {scheme : NameScheme} {count : Int}
    {outcome : FileOutcome} (h : outcome.NamedFrom scheme count)
    (hlater : later.NamedFrom scheme outcome.count) (temporaries : List Path) :
    Harvest.NamedFrom { later with outcomes := outcome :: later.outcomes, temporaries } scheme count := by
  have hentries : Harvest.entries { later with outcomes := outcome :: later.outcomes, temporaries }
      = outcome.entries ++ later.entries := rfl
  refine ⟨?_, ?_, ?_, ?_, ?_⟩
  · rw [hentries, List.length_append]
    show later.count = _
    rw [hlater.count_eq, h.count_eq]
    omega
  · rw [hentries, NameScheme.namesFrom_append, ← h.count_eq]
    exact ⟨h.names, hlater.names⟩
  · intro entry hmem
    rw [hentries, List.mem_append] at hmem
    exact hmem.elim (h.texts entry) (hlater.texts entry)
  · intro entry hmem
    rw [hentries, List.mem_append] at hmem
    exact hmem.elim (h.values entry) (hlater.values entry)
  · intro other hmem
    rcases List.mem_cons.mp hmem with rfl | hmem
    · exact h.references
    · exact hlater.references other hmem

/-- `NamedFrom` for an outcome without entries in front of a harvest. -/
theorem Harvest.NamedFrom.cons_of_nil {later : Harvest} {scheme : NameScheme} {count : Int}
    {outcome : FileOutcome} (h : outcome.entries = []) (hlater : later.NamedFrom scheme count) :
    Harvest.NamedFrom { later with outcomes := outcome :: later.outcomes } scheme count := by
  have hentries : Harvest.entries { later with outcomes := outcome :: later.outcomes }
      = later.entries := by
    simp [Harvest.entries, h]
  refine ⟨?_, ?_, ?_, ?_, ?_⟩
  · rw [hentries]
    exact hlater.count_eq
  · rw [hentries]
    exact hlater.names
  · rw [hentries]
    exact hlater.texts
  · rw [hentries]
    exact hlater.values
  · intro other hmem
    rcases List.mem_cons.mp hmem with rfl | hmem
    · simp [h]
    · exact hlater.references other hmem

/-- The temporary files of the `tasks` are empty and `Standing`. -/
def Ready (disk : Disk) (tasks : List Task) : Prop :=
  Job.Standing disk (tasks.map fun task => (task.temporary, task.place))

namespace Ready

variable {disk after : Disk} {task : Task} {tasks : List Task}

theorem head (h : Ready disk (task :: tasks)) :
    TemporaryAt disk task.temporary task.place [] :=
  h.each (task.temporary, task.place) (by simp)

theorem place_notMem (h : Ready disk (task :: tasks)) : task.place ∉ tasks.map Task.place := by
  have hnodup := h.nodup
  simp only [List.map_cons, List.map_map, List.nodup_cons] at hnodup
  exact hnodup.1

/-- `Ready` for the other tasks, if their temporary files are spared. -/
theorem tail (h : Ready disk (task :: tasks))
    (hspares : Spares disk after fun location => Dotless location ∧ location ≠ task.place) :
    Ready after tasks := by
  refine ⟨fun temporary hmem => ?_, ?_⟩
  · have hat := h.each temporary (List.mem_cons_of_mem _ hmem)
    refine hat.of_spares hspares ⟨hat.dotless, fun heq => h.place_notMem ?_⟩
    obtain ⟨other, hother, rfl⟩ := List.mem_map.mp hmem
    exact List.mem_map.mpr ⟨other, hother, heq⟩
  · have hnodup := h.nodup
    simp only [List.map_cons, List.nodup_cons] at hnodup
    exact hnodup.2

end Ready

/-- `Holds` for one more temporary file, if it is spared by what comes after it. -/
theorem Holds.cons {disk after : Disk} {kept : Yield} {yields : List Yield} {places : List Location}
    (hat : TemporaryAt disk kept.temporary kept.place (Utf8.encode (storedText kept.entries)))
    (hspares : Spares disk after fun location => Dotless location ∧ location ∉ places)
    (hplace : kept.place ∉ places) (hsubset : yields.map Yield.place ⊆ places)
    (h : Holds after yields) : Holds after (kept :: yields) := by
  refine ⟨fun other hmem => ?_, List.nodup_cons.mpr ⟨fun hmem => hplace (hsubset hmem), h.nodup⟩⟩
  rcases List.mem_cons.mp hmem with rfl | hmem
  · exact hat.of_spares hspares ⟨hat.dotless, hplace⟩
  · exact h.each other hmem

namespace Job

/-- `makeTemporaries` makes tasks that are `Ready`, with their places free before. -/
theorem exists_tasks {folder : Path} {files temporaries : List Path} {space made : Workspace}
    (h : (makeTemporaries folder 1 files []).ends space = (.ok (.ok temporaries), made)) :
    ∃ tasks : List Task, tasks.map Task.file = files ∧ Ready made.disk tasks ∧
      files.zip temporaries = tasks.map (fun task => (task.file, task.temporary)) ∧
      Cleared made.disk space.disk (tasks.map Task.place) := by
  obtain ⟨standing, rfl, hstanding, hlength, hcleared⟩ :=
    (makeTemporaries_ends (.nil _) h).2 temporaries rfl
  rw [List.length_nil, Nat.zero_add] at hlength
  -- There are as many temporary files as files, so the pairs lose neither.
  refine ⟨(files.zip standing).map fun pair => ⟨pair.1, pair.2.1, pair.2.2⟩, ?_, ?_, ?_, ?_⟩
  · rw [List.map_map]
    exact List.map_fst_zip (by omega)
  · rw [Ready, List.map_map]
    exact (List.map_snd_zip (by omega : standing.length ≤ files.length)).symm ▸ hstanding
  · rw [List.map_map, List.zip_map_right]
    rfl
  · have hplaces := congrArg (List.map (·.2))
      (List.map_snd_zip (by omega : standing.length ≤ files.length))
    rw [List.map_map] at hplaces ⊢
    exact hplaces.symm ▸ hcleared _ (.nil _)

/-- `makeTemporaries` makes tasks that are `Ready`. -/
theorem exists_ready {folder : Path} {files temporaries : List Path} {space made : Workspace}
    (h : (makeTemporaries folder 1 files []).ends space = (.ok (.ok temporaries), made)) :
    ∃ tasks : List Task, tasks.map Task.file = files ∧ Ready made.disk tasks ∧
      files.zip temporaries = tasks.map fun task => (task.file, task.temporary) := by
  obtain ⟨tasks, hfiles, hready, hpairs, -⟩ := exists_tasks h
  exact ⟨tasks, hfiles, hready, hpairs⟩

/-- `extractEach` of a first task and the others: if its outcome `counts`, the temporary file and the
names are kept, and else they are given up. Either way the other tasks stay `Ready`. -/
theorem of_extractEach_cons {options : Options} {scheme : NameScheme} {count : Int} {task : Task}
    {tasks : List Task} {space after : Workspace} {harvest : Harvest}
    (hscheme : NameScheme.build options.stem options.ending options.accessor = .ok scheme)
    (hready : Ready space.disk (task :: tasks))
    (h : (extractEach options count ((task :: tasks).map fun task => (task.file, task.temporary))).ends
      space = (.ok harvest, after)) :
    ∃ told outcome mid next later, told.disk = space.disk ∧
      (extractFile { options with target := some task.temporary } (some task.file)
        (.shared count)).ends told = (.ok outcome, mid) ∧
      Spares mid.disk next.disk (· ≠ task.place) ∧ Ready next.disk tasks ∧
      ((outcome.result.counts = true ∧ next = mid ∧
          (extractEach options outcome.count
            (tasks.map fun task => (task.file, task.temporary))).ends next = (.ok later, after) ∧
          harvest = { later with
            outcomes := outcome :: later.outcomes
            temporaries := task.temporary :: later.temporaries }) ∨
        (outcome.result.counts = false ∧ Cleared mid.disk next.disk [task.place] ∧
          (extractEach options count
            (tasks.map fun task => (task.file, task.temporary))).ends next = (.ok later, after) ∧
          harvest = { later with outcomes := outcome :: later.outcomes })) := by
  obtain ⟨_, told, htold, h⟩ := of_ends_bind_ok h
  obtain ⟨outcome, mid, hfile, h⟩ := of_ends_bind_ok h
  have hdisk : told.disk = space.disk := by
    cases htold
    rfl
  rw [← hdisk] at hready
  obtain ⟨hspares, -, -⟩ := extractFile_temporary hscheme hready.head hfile
  cases hcounts : outcome.result.counts with
  | true =>
    rw [if_pos hcounts] at h
    obtain ⟨later, _, hlater, hlast⟩ := of_ends_bind_ok h
    cases hlast
    exact ⟨told, outcome, mid, mid, later, hdisk, hfile, .refl _ _, hready.tail hspares,
      .inl ⟨hcounts, rfl, hlater, rfl⟩⟩
  | false =>
    rw [if_neg (by simp [hcounts])] at h
    obtain ⟨_, discarded, hdiscard, h⟩ := of_ends_bind_ok h
    obtain ⟨later, _, hlater, hlast⟩ := of_ends_bind_ok h
    cases hlast
    -- The path of the temporary file still leads to its place, so nothing else is deleted.
    have hplace := (hspares.folders.locate_iff task.temporary task.place).mp hready.head.locate
    have hfree : mid.disk.get? task.place ≠ some .folder := by
      rw [ne_eq, ← hspares.folders.folder, hready.head.holds]
      simp
    obtain ⟨_, hends, hcleared⟩ := discardTemporary_ends hready.head.noZero hplace hfree
    cases hends.symm.trans hdiscard
    have hgone : Spares mid.disk discarded.disk (· ≠ task.place) :=
      hcleared.spares.mono fun _ hne hmem => hne (List.mem_singleton.mp hmem)
    exact ⟨told, outcome, mid, discarded, later, hdisk, hfile, hgone,
      hready.tail (hspares.trans (hgone.mono fun _ h => h.2)), .inr ⟨hcounts, hcleared, hlater, rfl⟩⟩

/-- `extractEach` of the tasks behind the first: whether that `counts` makes a difference to their count
only. -/
theorem of_extractEach_tail {options : Options} {scheme : NameScheme} {count : Int} {task : Task}
    {tasks : List Task} {space after : Workspace} {harvest : Harvest}
    (hscheme : NameScheme.build options.stem options.ending options.accessor = .ok scheme)
    (hready : Ready space.disk (task :: tasks))
    (h : (extractEach options count ((task :: tasks).map fun task => (task.file, task.temporary))).ends
      space = (.ok harvest, after)) :
    ∃ told outcome mid next later count', told.disk = space.disk ∧
      (extractFile { options with target := some task.temporary } (some task.file)
        (.shared count)).ends told = (.ok outcome, mid) ∧
      Spares mid.disk next.disk (· ≠ task.place) ∧ Ready next.disk tasks ∧
      (extractEach options count'
        (tasks.map fun task => (task.file, task.temporary))).ends next = (.ok later, after) ∧
      harvest.outcomes = outcome :: later.outcomes := by
  obtain ⟨told, outcome, mid, next, later, hdisk, hfile, hnext, hrest, hcases⟩ :=
    of_extractEach_cons hscheme hready h
  rcases hcases with ⟨-, -, hlater, rfl⟩ | ⟨-, -, hlater, rfl⟩
  · exact ⟨told, outcome, mid, next, later, outcome.count, hdisk, hfile, hnext, hrest, hlater, rfl⟩
  · exact ⟨told, outcome, mid, next, later, count, hdisk, hfile, hnext, hrest, hlater, rfl⟩

/-- `extractEach` leaves in each temporary file that is kept the `storedText` of its file, spares all
other `Dotless` locations, and gives a harvest with `NamedFrom`. A file whose temporary file is not kept
has no entries. -/
theorem extractEach_holds {options : Options} {scheme : NameScheme} {tasks : List Task} {count : Int}
    {space after : Workspace} {harvest : Harvest}
    (hscheme : NameScheme.build options.stem options.ending options.accessor = .ok scheme)
    (hready : Ready space.disk tasks)
    (h : (extractEach options count (tasks.map fun task => (task.file, task.temporary))).ends space
      = (.ok harvest, after)) :
    Spares space.disk after.disk
        (fun location => Dotless location ∧ location ∉ tasks.map Task.place) ∧
      harvest.NamedFrom scheme count ∧
      ∃ yields, harvest.temporaries = yields.map Yield.temporary ∧ Holds after.disk yields ∧
        yields.map Yield.place ⊆ tasks.map Task.place ∧
        ∀ {β : Type} (f : List Entry → List β), f [] = [] →
          (yields.flatMap fun kept => f kept.entries)
            = harvest.outcomes.flatMap fun outcome => f outcome.entries := by
  -- The count and the disk change from file to file, so both are general in the induction.
  induction tasks generalizing count space harvest with
  | nil =>
    cases h
    refine ⟨.refl _ _,
      ⟨by simp [Harvest.entries], trivial, by simp [Harvest.entries], by simp [Harvest.entries], by simp⟩,
      [], rfl, ⟨by simp, by simp⟩, by simp, fun _ _ => rfl⟩
  | cons task tasks ih =>
    obtain ⟨told, outcome, mid, next, later, hdisk, hfile, hnext, hrest, hcases⟩ :=
      of_extractEach_cons hscheme hready h
    rw [← hdisk] at hready ⊢
    obtain ⟨hspares, hkept, hdropped⟩ := extractFile_temporary hscheme hready.head hfile
    have hfirst := hspares.trans (hnext.mono fun _ h => h.2)
    replace hfirst := hfirst.mono fun location
      (h : Dotless location ∧ location ∉ (task :: tasks).map Task.place) =>
        ⟨h.1, fun heq => h.2 (by simp [heq])⟩
    have hothers : ∀ location, Dotless location ∧ location ∉ (task :: tasks).map Task.place →
        Dotless location ∧ location ∉ tasks.map Task.place :=
      fun location ⟨hdot, hmem⟩ => ⟨hdot, fun hmem' => hmem (List.mem_cons_of_mem _ hmem')⟩
    rcases hcases with ⟨hcounts, rfl, hlater, rfl⟩ | ⟨hcounts, -, hlater, rfl⟩
    · obtain ⟨hat, hnamed⟩ := hkept hcounts
      obtain ⟨hspares', hnamed', yields, htemporaries, hholds, hsubset, hentries⟩ := ih hrest hlater
      refine ⟨hfirst.trans (hspares'.mono hothers), .cons hnamed hnamed' _,
        ⟨task.temporary, task.place, outcome.entries⟩ :: yields, by simp [htemporaries],
        .cons hat hspares' hready.place_notMem hsubset hholds, ?_, ?_⟩
      · exact List.cons_subset_cons _ hsubset
      · intro β f hf
        rw [List.flatMap_cons, List.flatMap_cons, hentries f hf]
    · obtain ⟨hspares', hnamed, yields, htemporaries, hholds, hsubset, hentries⟩ := ih hrest hlater
      refine ⟨hfirst.trans (hspares'.mono hothers), .cons_of_nil (hdropped hcounts) hnamed, yields,
        htemporaries, hholds, fun place hmem => List.mem_cons_of_mem _ (hsubset hmem), ?_⟩
      intro β f hf
      rw [List.flatMap_cons, hdropped hcounts, hf, hentries f hf]
      rfl

/-- `extractEach` leaves nothing where a temporary file that is not kept was. -/
theorem extractEach_gone {options : Options} {scheme : NameScheme} {tasks : List Task} {count : Int}
    {space after : Workspace} {harvest : Harvest}
    (hscheme : NameScheme.build options.stem options.ending options.accessor = .ok scheme)
    (hready : Ready space.disk tasks)
    (h : (extractEach options count (tasks.map fun task => (task.file, task.temporary))).ends space
      = (.ok harvest, after)) :
    ∀ task ∈ tasks, task.temporary ∈ harvest.temporaries ∨ after.disk.get? task.place = none := by
  induction tasks generalizing count space harvest with
  | nil => simp
  | cons task tasks ih =>
    obtain ⟨told, outcome, mid, next, later, hdisk, hfile, hnext, hrest, hcases⟩ :=
      of_extractEach_cons hscheme hready h
    intro other hmem
    rcases hcases with ⟨-, rfl, hlater, rfl⟩ | ⟨-, hcleared, hlater, rfl⟩
    · rcases List.mem_cons.mp hmem with rfl | hmem
      · exact .inl (by simp)
      · exact (ih hrest hlater other hmem).imp_left (List.mem_cons_of_mem _)
    · rcases List.mem_cons.mp hmem with rfl | hmem
      · -- The later files have their temporary files at other places.
        obtain ⟨hspares, -⟩ := extractEach_holds hscheme hrest hlater
        refine .inr ((hspares.get? _ ⟨hready.head.dotless, hready.place_notMem⟩).trans ?_)
        exact hcleared.get?_of_mem (by simp)
      · exact ih hrest hlater other hmem

/-- `extractEach` leaves the `Dotless` locations as they were before `makeTemporaries`, once the
temporary files that are kept are taken away. -/
theorem extractEach_dotless {options : Options} {scheme : NameScheme} {tasks : List Task} {count : Int}
    {space after : Workspace} {harvest : Harvest} {start last : Disk} {yields : List Yield}
    (hscheme : NameScheme.build options.stem options.ending options.accessor = .ok scheme)
    (hready : Ready space.disk tasks) (hstart : Cleared space.disk start (tasks.map Task.place))
    (h : (extractEach options count (tasks.map fun task => (task.file, task.temporary))).ends space
      = (.ok harvest, after))
    (htemporaries : harvest.temporaries = yields.map Yield.temporary) (hholds : Holds after.disk yields)
    (hsubset : yields.map Yield.place ⊆ tasks.map Task.place)
    (hlast : Cleared after.disk last (yields.map Yield.place)) : Spares start last Dotless := by
  obtain ⟨hspares, -⟩ := extractEach_holds hscheme hready h
  refine ⟨hstart.folders.symm.trans (hspares.folders.trans hlast.folders), fun location hdot => ?_⟩
  rw [hstart.get?, hlast.get?]
  by_cases hmem : location ∈ tasks.map Task.place
  · rw [if_pos hmem, ite_eq_left_iff]
    intro hkept
    obtain ⟨task, htask, rfl⟩ := List.mem_map.mp hmem
    refine (extractEach_gone hscheme hready h task htask).resolve_left fun htemporary => hkept ?_
    rw [htemporaries] at htemporary
    obtain ⟨kept, hyield, hpath⟩ := List.mem_map.mp htemporary
    -- The path of the temporary file leads to one place only.
    have hplace := (hready.each _ (List.mem_map_of_mem htask)).locate
    have hplace' := (hholds.each kept hyield).locate
    rw [hpath, ← hspares.folders.locate_iff] at hplace'
    exact List.mem_map.mpr ⟨kept, hyield, Except.ok.inj (hplace'.symm.trans hplace)⟩
  · rw [if_neg hmem, if_neg fun hkept => hmem (hsubset hkept)]
    exact hspares.get? location ⟨hdot, hmem⟩

end Job

end Externalize
