import Externalize.Proofs.Extraction.File

/-!
# `Externalize.Proofs.Extraction.Artifacts`: what an extraction that ends well leaves behind

An extraction that ends well is to leave up to four files: the target with the entries stored in it, the
backup of the source, the source with its literals relinked, and the accessor class (`artifacts`). They
are written in this order and each is written without a look at the others, though nothing keeps their
paths apart.

`extractFile_artifacts_iff` is the main theorem: all of them are there and nothing else has changed
exactly if they are `Apart`. `extractFile_backs_up_merged` is an extraction into the source itself, where
the backup holds what the target held in between.
-/

set_option autoImplicit false

namespace Externalize

open Disk (Wrote WroteAll SameFolders)

/-! ### The files of an extraction -/

/-- `extractFile` writes the accessor class for the scan: it is of code, and `options.accessor` asks for
it. -/
def WritesAccessor (options : Options) (scan : Scan) : Prop :=
  scan.kind = .code ∧ options.accessor = true

instance (options : Options) (scan : Scan) : Decidable (WritesAccessor options scan) :=
  inferInstanceAs (Decidable (_ ∧ _))

/-- The files that `extractFile` is to leave behind, each with its content: the target with what
`Job.store` leaves in it, the backup with the former octets of the source, the source with `relink` of its
former text, and the accessor class with the `Accessor.source` of that. -/
def artifacts (options : Options) (path target : Path) (scan : Scan) (stored octets : Octets)
    (text : Text) : List (Path × Octets) :=
  [(target, stored)] ++
    (if options.backup then [(Job.backupPath path, octets)] else []) ++
    [(path, Utf8.encode (relink scan.kind scan.entries text))] ++
    if WritesAccessor options scan then
      [(Job.accessorPath path,
        Utf8.encode (Accessor.source (relink scan.kind scan.entries text)))]
    else []

/-- Each of the `files` stands where its path leads, with its octets, and `get?` finds what it found
before everywhere else. -/
structure Produced (disk after : Disk) (files : List (Path × Octets)) : Prop where
  each : ∀ file ∈ files, ∃ place, after.find file.1 = .ok (place, .file file.2)
  others : ∀ location, (∀ file ∈ files, disk.locate file.1 ≠ .ok location) →
    after.get? location = disk.get? location

/-- The `files` of an extraction do not get in each other's way. -/
structure Apart (disk : Disk) (options : Options) (path target : Path) (scan : Scan)
    (files : List (Path × Octets)) : Prop where
  /-- Files at one place have one content. -/
  one : ∀ file ∈ files, ∀ other ∈ files, ∀ place, disk.locate file.1 = .ok place →
    disk.locate other.1 = .ok place → file.2 = other.2
  /-- A source that is backed up is not the target, which is written before. -/
  source : options.backup = true → disk.locate target ≠ disk.locate path
  /-- The accessor class does not go to a device. -/
  device : WritesAccessor options scan →
    ∀ place, disk.find (Job.accessorPath path) ≠ .ok (place, .device)

/-- The `writes` are the octets of the `files`, at the locations that `locate` gives for their paths. -/
def Placed (disk : Disk) (files : List (Path × Octets)) (writes : List (Location × Octets)) : Prop :=
  files.map (fun file => (disk.locate file.1, file.2)) = writes.map fun write => (.ok write.1, write.2)

section
variable {disk after : Disk} {files : List (Path × Octets)} {writes : List (Location × Octets)}

theorem Placed.single {path : Path} {place : Location} (h : disk.locate path = .ok place)
    (octets : Octets) : Placed disk [(path, octets)] [(place, octets)] := by
  simp [Placed, h]

theorem Placed.append {more : List (Path × Octets)} {later : List (Location × Octets)}
    (h : Placed disk files writes) (h' : Placed disk more later) :
    Placed disk (files ++ more) (writes ++ later) := by
  unfold Placed at h h' ⊢
  rw [List.map_append, List.map_append, h, h']

theorem Placed.exists_write (h : Placed disk files writes) {file : Path × Octets} (hmem : file ∈ files) :
    ∃ write ∈ writes, disk.locate file.1 = .ok write.1 ∧ write.2 = file.2 := by
  have hpair := List.mem_map_of_mem (f := fun file : Path × Octets => (disk.locate file.1, file.2)) hmem
  rw [h] at hpair
  obtain ⟨write, hwrite, heq⟩ := List.mem_map.mp hpair
  exact ⟨write, hwrite, (congrArg Prod.fst heq).symm, congrArg Prod.snd heq⟩

theorem Placed.exists_file (h : Placed disk files writes) {write : Location × Octets}
    (hmem : write ∈ writes) : ∃ file ∈ files, disk.locate file.1 = .ok write.1 ∧ write.2 = file.2 := by
  have hpair := List.mem_map_of_mem
    (f := fun write : Location × Octets => ((.ok write.1 : Except Refusal Location), write.2)) hmem
  rw [← h] at hpair
  obtain ⟨file, hfile, heq⟩ := List.mem_map.mp hpair
  exact ⟨file, hfile, congrArg Prod.fst heq, (congrArg Prod.snd heq).symm⟩

/-- `WroteAll` of files at the locations of their paths is `Produced`, if those at one location have the
same octets. -/
theorem Disk.WroteAll.produced (h : WroteAll disk writes after) (hplaced : Placed disk files writes)
    (hone : ∀ file ∈ files, ∀ other ∈ files, ∀ place, disk.locate file.1 = .ok place →
      disk.locate other.1 = .ok place → file.2 = other.2) : Produced disk after files := by
  constructor
  · intro file hmem
    obtain ⟨write, hwrite, hlocate, hcontent⟩ := hplaced.exists_write hmem
    refine ⟨write.1, Disk.find_eq_ok_iff.mpr ⟨(h.folders.locate_iff _ _).mp hlocate, ?_⟩⟩
    rw [← hcontent]
    refine h.get?_of_mem hwrite fun other hother hplace => ?_
    obtain ⟨file', hmem', hlocate', hcontent'⟩ := hplaced.exists_file hother
    rw [hcontent, hcontent']
    exact hone file' hmem' file hmem _ (hplace ▸ hlocate') hlocate
  · intro location hnone
    refine h.get?_of_ne fun write hwrite heq => ?_
    obtain ⟨file, hmem, hlocate, -⟩ := hplaced.exists_file hwrite
    exact hnone file hmem (heq ▸ hlocate)

/-- A file that is `Produced` stands where its path led before. -/
theorem Produced.get? (h : Produced disk after files) (hfolders : SameFolders disk after)
    {file : Path × Octets} (hmem : file ∈ files) {place : Location}
    (hlocate : disk.locate file.1 = .ok place) : after.get? place = some (.file file.2) := by
  obtain ⟨place', hfind⟩ := h.each file hmem
  obtain ⟨hlocate', hget⟩ := Disk.find_eq_ok_iff.mp hfind
  obtain rfl := Except.ok.inj (((hfolders.locate_iff _ _).mp hlocate).symm.trans hlocate')
  exact hget

/-- Files that are `Produced` have the same octets where `locate` leads to the same location. -/
theorem Produced.one (h : Produced disk after files) (hfolders : SameFolders disk after) :
    ∀ file ∈ files, ∀ other ∈ files, ∀ place, disk.locate file.1 = .ok place →
      disk.locate other.1 = .ok place → file.2 = other.2 := by
  intro file hmem other hmem' place hlocate hlocate'
  have hget := h.get? hfolders hmem hlocate
  rw [h.get? hfolders hmem' hlocate', Option.some.injEq, Node.file.injEq] at hget
  exact hget.symm

end

/-! ### The order of writing -/

namespace Attempt

variable {disk after : Disk} {scheme : NameScheme} {path : Path} {kind : Kind} {target : Path}
  {count : Int} {a : Attempt disk scheme path kind target count} {backup : Bool}

instance (a : Attempt disk scheme path kind target count) : Decidable a.NeedsAccessor :=
  inferInstanceAs (Decidable (_ ∧ _))

/-- `a.aside` and `a.accessor` are different names in one folder. -/
theorem aside_ne_accessor (a : Attempt disk scheme path kind target count) : a.aside ≠ a.accessor := by
  intro heq
  have hname := List.singleton_inj.mp (List.append_inj' heq rfl).2
  have hlast := congrArg List.getLast? hname
  rw [Job.backupEnding_eq, List.getLast?_append] at hlast
  cases hlast

/-- `a.aside` and `a.origin` are different names in one folder. -/
theorem aside_ne_origin (a : Attempt disk scheme path kind target count) : a.aside ≠ a.origin := by
  intro heq
  have hname := List.singleton_inj.mp (List.append_inj' heq rfl).2
  simp [Job.backupEnding_eq] at hname

theorem holds (a : Attempt disk scheme path kind target count) :
    disk.get? a.origin = some (.file a.octets) :=
  a.source.holds

/-- What `store` leaves at `a.place`, where the target held the text `old`. -/
def stored (a : Attempt disk scheme path kind target count) (old : Text) : Octets :=
  Utf8.encode (Document.format (Text.unifyBreaks (old ++ a.scan.entries.flatMap Job.entryText)))

/-- What an attempt writes before the accessor class: the target, then the backup with what the source
holds by then, then the source. -/
def writes (a : Attempt disk scheme path kind target count) (backup : Bool) (old : Text) :
    List (Location × Octets) :=
  [(a.place, a.stored old)] ++
    (if backup then [(a.aside, if a.place = a.origin then a.stored old else a.octets)] else []) ++
    [(a.origin, Utf8.encode a.relinked)]

theorem Relinked.wroteAll (h : a.Relinked backup after) :
    ∃ old, Utf8.decode (a.previous.getD []) = .ok old ∧
      WroteAll disk (a.writes backup old) after := by
  obtain ⟨old, stored, mid, hold, hstored, hmid, hafter⟩ := h
  refine ⟨old, hold, (hstored.wroteAll.trans ?_).trans hafter.wroteAll⟩
  cases backup with
  | false =>
    obtain rfl : mid = stored := hmid
    exact .of_same (.refl _) fun _ => rfl
  | true =>
    obtain ⟨current, hcurrent, hwrote⟩ := hmid
    -- The source is moved aside as it is by then, which is as stored if it is the target.
    have hbytes : current = if a.place = a.origin then a.stored old else a.octets := by
      by_cases heq : a.place = a.origin
      · rw [← heq, hstored.get?_place, Option.some.injEq, Node.file.injEq] at hcurrent
        rw [if_pos heq, ← hcurrent, Attempt.stored]
      · rw [hstored.get?_of_ne (Ne.symm heq), a.holds, Option.some.injEq, Node.file.injEq] at hcurrent
        rw [if_neg heq, hcurrent]
    rw [if_pos rfl, ← hbytes]
    exact hwrote.wroteAll

/-- A device at `a.accessor` was there before, and stays. -/
theorem Relinked.get?_device (h : a.Relinked backup after) :
    after.get? a.accessor = some .device ↔ disk.get? a.accessor = some .device := by
  constructor
  · intro hget
    obtain ⟨old, -, hwrote⟩ := h.wroteAll
    exact hwrote.get?_device hget
  · intro hget
    -- The target and the source are files, so neither of them is the device.
    have hplace : a.accessor ≠ a.place := by
      intro heq
      rw [heq, a.opens.holds] at hget
      cases hprevious : a.previous <;> simp [hprevious] at hget
    have horigin : a.accessor ≠ a.origin := by
      intro heq
      rw [heq, a.holds] at hget
      cases hget
    rw [h.spares.get? _ ⟨hplace, fun _ => a.aside_ne_accessor.symm, horigin⟩, hget]

/-- An `Ending` with `.ok` is `WroteAll` of `a.writes` and then of the accessor class, if that does not
go to a device. -/
theorem Ending.wroteAll {scan : Scan} (h : a.Ending backup (.ok scan) after)
    (hdevice : a.NeedsAccessor → disk.get? a.accessor ≠ some .device) :
    ∃ old, Utf8.decode (a.previous.getD []) = .ok old ∧
      WroteAll disk (a.writes backup old ++
        if a.NeedsAccessor then [(a.accessor, Utf8.encode (Accessor.source a.relinked))] else [])
        after := by
  have hlocate := h.locate.2
  cases h with
  | done _ _ hrelinked hfolders hsame haccessor =>
    rename_i mid
    obtain ⟨old, hold, hwrote⟩ := hrelinked.wroteAll
    refine ⟨old, hold, hwrote.trans ?_⟩
    by_cases hneeded : a.NeedsAccessor
    · rw [if_pos hneeded]
      have hmid := (hwrote.folders.locate_iff _ _).mp (hlocate hneeded)
      obtain ⟨place, hplace, hcases⟩ := Disk.update_eq_ok_iff.mp (haccessor hneeded)
      obtain rfl := Except.ok.inj (hplace.symm.trans hmid)
      -- There is nothing, a file or a device where the class goes; a device was excluded.
      rcases hcases with ⟨hnone, rfl⟩ | ⟨octets, hfile, rfl⟩ | ⟨hgone, -⟩
      · exact (Disk.wrote_set _ (by simp [hnone])).wroteAll
      · exact (Disk.wrote_set _ (by simp [hfile])).wroteAll
      · exact absurd (hrelinked.get?_device.mp hgone) (hdevice hneeded)
    · rw [if_neg hneeded]
      exact .of_same hfolders fun location => hsame location fun h => absurd h hneeded

/-- An `Ending` with `.ok` leaves a device at `a.accessor` a device. -/
theorem Ending.get?_device {scan : Scan} (h : a.Ending backup (.ok scan) after)
    (hneeded : a.NeedsAccessor) (hget : disk.get? a.accessor = some .device) :
    after.get? a.accessor = some .device := by
  have hlocate := h.locate.2 hneeded
  cases h with
  | done _ _ hrelinked _ _ haccessor =>
    have hmid := (hrelinked.spares.folders.locate_iff _ _).mp hlocate
    have hdevice := hrelinked.get?_device.mpr hget
    obtain ⟨place, hplace, hcases⟩ := Disk.update_eq_ok_iff.mp (haccessor hneeded)
    obtain rfl := Except.ok.inj (hplace.symm.trans hmid)
    rcases hcases with ⟨hnone, -⟩ | ⟨octets, hfile, -⟩ | ⟨-, rfl⟩
    · rw [hdevice] at hnone
      cases hnone
    · rw [hdevice] at hfile
      cases hfile
    · exact hdevice

/-- An `Ending` with `.ok` leaves at `a.aside` what the source held once the target was written. -/
theorem Ending.get?_aside {scan : Scan} (h : a.Ending true (.ok scan) after) :
    ∃ old, Utf8.decode (a.previous.getD []) = .ok old ∧
      after.get? a.aside
        = some (.file (if a.place = a.origin then a.stored old else a.octets)) := by
  cases h with
  | done _ _ hrelinked _ hsame =>
    obtain ⟨old, hold, hwrote⟩ := hrelinked.wroteAll
    refine ⟨old, hold, ?_⟩
    -- Of the files that are written, only the backup goes there after the target.
    rw [hsame a.aside fun _ => a.aside_ne_accessor, hwrote.get?]
    show ((List.lookup a.aside [(a.origin, _), (a.aside, _), (a.place, _)]).map Node.file).or _ = _
    rw [List.lookup_cons, beq_eq_false_iff_ne.mpr a.aside_ne_origin, List.lookup_cons_self]
    rfl

/-- An `Ending` with `.ok` comes from a target at which `store` alone ends well, and leaves `a.stored`. -/
theorem store_ends {space : Workspace} (a : Attempt space.disk scheme path kind target count)
    {scan : Scan} (h : a.Ending backup (.ok scan) after) :
    ∃ old saved, Utf8.decode (a.previous.getD []) = .ok old ∧
      (Job.store target a.scan.entries).ends space = (.ok (), saved) ∧
      Wrote space.disk saved.disk a.place (a.stored old) := by
  have hstores : a.Stores := by
    cases h with
    | done hstores => exact hstores
  rcases Job.store_ends target a.found space with ⟨hclosed, -⟩ | ⟨place, previous, hopens, hends⟩
  · exact absurd ⟨_, _, a.opens⟩ hclosed
  obtain ⟨rfl, rfl⟩ := a.opens.unique hopens
  rcases hends with ⟨old, saved, -, hold, hsaved, hwrote⟩ | ⟨_, _, _, hnot, -⟩
  · exact ⟨old, saved, hold, hsaved, hwrote⟩
  · exact absurd hstores hnot

end Attempt

/-! ### Trials that end well -/

namespace Trial

variable {disk after : Disk} {options : Options} {path? : Option Path} {count : Int}

/-- The `artifacts` of the trial, where the target held the text `old`. -/
def files (t : Trial disk options path? count) (old : Text) : List (Path × Octets) :=
  artifacts options t.path (Job.targetFor options t.path) t.attempt.scan (t.attempt.stored old)
    t.attempt.octets t.attempt.text

theorem kind_scan (t : Trial disk options path? count) : t.attempt.scan.kind = t.kind :=
  scan_kind t.attempt.scanned

theorem writesAccessor_iff (t : Trial disk options path? count) :
    WritesAccessor options t.attempt.scan ↔ t.attempt.NeedsAccessor := by
  have haccessor := NameScheme.accessor_of_build t.built
  rw [WritesAccessor, Attempt.NeedsAccessor, t.kind_scan, haccessor]

/-- `a.writes` and the accessor class are `Placed` for the `files` of the trial, if the backup was taken
of the source as it was. -/
theorem placed (t : Trial disk options path? count) (old : Text)
    (hbackup : options.backup = true →
      disk.locate (Job.backupPath t.path) = .ok t.attempt.aside ∧ t.attempt.place ≠ t.attempt.origin)
    (haccessor : t.attempt.NeedsAccessor →
      disk.locate (Job.accessorPath t.path) = .ok t.attempt.accessor) :
    Placed disk (t.files old) (t.attempt.writes options.backup old ++
      if t.attempt.NeedsAccessor then
        [(t.attempt.accessor, Utf8.encode (Accessor.source t.attempt.relinked))] else []) := by
  have hrelinked : relink t.attempt.scan.kind t.attempt.scan.entries t.attempt.text
      = t.attempt.relinked := by
    rw [t.kind_scan, Attempt.relinked]
  unfold files artifacts Attempt.writes
  rw [hrelinked]
  -- The files come in the order of the writes: target, backup, source, accessor class.
  refine ((Placed.single t.attempt.opens.locate _).append ?_ |>.append
    (.single t.attempt.source.locate _)).append ?_
  · cases hasked : options.backup with
    | false => rfl
    | true =>
      obtain ⟨hlocate, hne⟩ := hbackup hasked
      rw [if_neg hne]
      exact .single hlocate _
  · by_cases hneeded : t.attempt.NeedsAccessor
    · rw [if_pos (t.writesAccessor_iff.mpr hneeded), if_pos hneeded]
      exact .single (haccessor hneeded) _
    · rw [if_neg fun h => hneeded (t.writesAccessor_iff.mp h), if_neg hneeded]
      rfl

/-- The `files` of a trial that are `Produced` are `Apart`. -/
theorem apart_of_produced (t : Trial disk options path? count) {old : Text} {scan : Scan}
    (hold : Utf8.decode (t.attempt.previous.getD []) = .ok old)
    (hdone : t.attempt.Ending options.backup (.ok scan) after)
    (h : Produced disk after (t.files old)) :
    Apart disk options t.path (Job.targetFor options t.path) t.attempt.scan (t.files old) := by
  have hfolders := hdone.spares.folders
  have htarget : (Job.targetFor options t.path, t.attempt.stored old) ∈ t.files old := by
    simp [files, artifacts]
  have hsource : (t.path, Utf8.encode t.attempt.relinked) ∈ t.files old := by
    simp [files, artifacts, Attempt.relinked, t.kind_scan]
  refine ⟨h.one hfolders, fun hasked heq => ?_, fun hneeded place hfind => ?_⟩
  -- If the target is the source, the backup holds what the target holds, and so does the source. But a
  -- source that is relinked never holds what it held.
  · rw [t.attempt.opens.locate] at heq
    have hplace : t.attempt.place = t.attempt.origin :=
      Except.ok.inj (heq.trans t.attempt.source.locate)
    have hsame := h.one hfolders _ htarget _ hsource _ t.attempt.opens.locate heq.symm
    have hbackup : (Job.backupPath t.path, t.attempt.octets) ∈ t.files old := by
      simp [files, artifacts, hasked]
    have haside := h.get? hfolders hbackup (hdone.locate.1 hasked)
    rw [hasked] at hdone
    obtain ⟨old', hold', hheld⟩ := hdone.get?_aside
    obtain rfl := Except.ok.inj (hold.symm.trans hold')
    rw [haside, if_pos hplace, Option.some.injEq, Node.file.injEq] at hheld
    exact t.attempt.relinked_ne (hsame.symm.trans hheld.symm)
  · obtain ⟨hlocate, hget⟩ := Disk.find_eq_ok_iff.mp hfind
    have hneeds := t.writesAccessor_iff.mp hneeded
    obtain rfl := Except.ok.inj (hlocate.symm.trans (hdone.locate.2 hneeds))
    have hclass : (Job.accessorPath t.path, Utf8.encode (Accessor.source (relink t.attempt.scan.kind
        t.attempt.scan.entries t.attempt.text))) ∈ t.files old := by
      simp [files, artifacts, hneeded]
    have hfile := h.get? hfolders hclass hlocate
    rw [hdone.get?_device hneeds hget] at hfile
    cases hfile

/-- The `files` of a trial that are `Apart` are `Produced`. -/
theorem produced_of_apart (t : Trial disk options path? count) {old : Text} {scan : Scan}
    (hold : Utf8.decode (t.attempt.previous.getD []) = .ok old)
    (hdone : t.attempt.Ending options.backup (.ok scan) after)
    (h : Apart disk options t.path (Job.targetFor options t.path) t.attempt.scan (t.files old)) :
    Produced disk after (t.files old) := by
  have hdevice : t.attempt.NeedsAccessor → disk.get? t.attempt.accessor ≠ some .device :=
    fun hneeded hget => h.device (t.writesAccessor_iff.mpr hneeded) _
      (Disk.find_eq_ok_iff.mpr ⟨hdone.locate.2 hneeded, hget⟩)
  obtain ⟨old', hold', hwrote⟩ := hdone.wroteAll hdevice
  obtain rfl := Except.ok.inj (hold.symm.trans hold')
  refine hwrote.produced (t.placed old ?_ hdone.locate.2) h.one
  intro hasked
  refine ⟨hdone.locate.1 hasked, fun heq => h.source hasked ?_⟩
  rw [t.attempt.opens.locate, heq]
  exact t.attempt.source.locate.symm

end Trial

/-! ### The artifacts of an extraction -/

/-- Take a run of `extractFile` that ends with `.extracted path target scan`. Then `Job.store` succeeds on
the disk as it was before the run, and `stored` is what it leaves in the target. The `artifacts` are
`Produced`, so that all of them are there and nothing else has changed, exactly if they are `Apart`. -/
theorem extractFile_artifacts_iff {options : Options} {path? : Option Path} {counter : Counter}
    {space after : Workspace} {outcome : FileOutcome} {path target : Path} {scan : Scan}
    (h : (Job.extractFile options path? counter).ends space = (.ok outcome, after))
    (hresult : outcome.result = .extracted path target scan) :
    ∃ octets text saved stored, space.disk.read path = .ok octets ∧ Utf8.decode octets = .ok text ∧
      (Job.store target scan.entries).ends space = (.ok (), saved) ∧
      saved.disk.read target = .ok stored ∧
      (Produced space.disk after.disk (artifacts options path target scan stored octets text) ↔
        Apart space.disk options path target scan
          (artifacts options path target scan stored octets text)) := by
  rcases Job.extractFile_ends h with ⟨-, -, -, hstatus⟩ | ⟨t, ⟨cause, rfl, -⟩ | ⟨rfl, hdone⟩⟩
  · exact absurd (by rw [hresult]; rfl) hstatus
  · cases hresult
  cases hresult
  obtain ⟨old, saved, hold, hsaved, hwrote⟩ := t.attempt.store_ends hdone
  refine ⟨t.attempt.octets, t.attempt.text, saved, t.attempt.stored old, t.attempt.source.read,
    t.attempt.decoded, hsaved, ?_, t.apart_of_produced hold hdone, t.produced_of_apart hold hdone⟩
  exact Disk.read_eq_ok_iff.mpr ⟨_, (hwrote.folders.locate_iff _ _).mp t.attempt.opens.locate,
    .inl hwrote.get?_place⟩

/-- `extractFile_artifacts_iff` at all four files, with a target that held an entry before: they are
`Apart`, so they are `Produced`. -/
theorem extractFile_artifacts_iff_all_four :
    let source : Path := { names := ["A.java".toList] }
    let target : Path := { names := ["t.xml".toList] }
    let options : Options := { target := some target, backup := true, accessor := true }
    let space := sourceBeside
      (Utf8.encode "<resources><string name=\"a\">b</string></resources>".toList) []
    ∃ outcome after scan,
      (Job.extractFile options (some source) .fresh).ends space = (.ok outcome, after) ∧
      outcome.result = .extracted source target scan ∧ WritesAccessor options scan ∧
      ∃ octets text saved stored, space.disk.read source = .ok octets ∧
        Utf8.decode octets = .ok text ∧
        (Job.store target scan.entries).ends space = (.ok (), saved) ∧
        saved.disk.read target = .ok stored ∧
        Produced space.disk after.disk (artifacts options source target scan stored octets text) := by
  intro source target options space
  let job := Job.extractFile options (some source) .fresh
  obtain ⟨outcome, hends, hview⟩ :
      ∃ outcome, job.ends space = (.ok outcome, (job.ends space).2) ∧
      (outcome.result.status, outcome.result.path?, outcome.result.target?,
          outcome.result.scan?.map Scan.kind)
        = ("extracted", some source, some target, some .code) :=
    Job.exists_ends_of_map (by decide +kernel)
  obtain ⟨result, count⟩ := outcome
  simp only [Prod.mk.injEq] at hview
  obtain ⟨hstatus, hpath, htarget, hkind⟩ := hview
  obtain ⟨path, target', scan, rfl⟩ := FileResult.status_eq_extracted_iff.mp hstatus
  obtain rfl := Option.some.inj hpath
  obtain rfl := Option.some.inj htarget
  have hwrites : WritesAccessor options scan := ⟨Option.some.inj hkind, rfl⟩
  obtain ⟨octets, text, saved, stored, hread, hdecode, hsaved, hstored, hiff⟩ :=
    extractFile_artifacts_iff hends rfl
  refine ⟨_, _, scan, hends, rfl, hwrites, octets, text, saved, stored, hread, hdecode, hsaved, hstored,
    hiff.mpr ⟨?_, fun _ heq => ?_, fun _ place hfind => ?_⟩⟩
  -- The four paths lead to four places.
  · intro file hmem other hmem' place hlocate hlocate'
    have hsame := congrArg Except.toOption (hlocate.trans hlocate'.symm)
    rw [artifacts, if_pos (show options.backup = true from rfl), if_pos hwrites] at hmem hmem'
    simp only [List.mem_append, List.mem_singleton] at hmem hmem'
    rcases hmem with ((rfl | rfl) | rfl) | rfl <;> rcases hmem' with ((rfl | rfl) | rfl) | rfl <;>
      first
      | rfl
      | dsimp only at hsame
        exact absurd hsame (by decide +kernel)
  · exact absurd (congrArg Except.toOption heq) (by decide +kernel)
  · have hnone : (space.disk.find (Job.accessorPath source)).toOption = none := by decide +kernel
    rw [hfind] at hnone
    cases hnone

/-- `extractFile` of a source that is its own target ends well, and the backup does not hold what the
source held but what `store` left in it. -/
theorem extractFile_backs_up_merged :
    let source : Path := { names := ["A.xml".toList] }
    let text := "<resources>\n<string name=\"a\">b</string>\n<item android:text=\"Hello\"/>\n</resources>"
    let space : Workspace :=
      { disk := { home := [], nodes := [(["A.xml".toList], .file (Utf8.encode text.toList))] } }
    ∃ outcome after,
      (Job.extractFile { target := some source, backup := true } (some source) .fresh).ends space
        = (.ok outcome, after) ∧
      outcome.result.status = "extracted" ∧
      after.disk.get? ["A.xml.backup".toList] = some (.file (Utf8.encode (Document.document
        ["<string name=\"a\">b</string>".toList, "<item android:text=\"Hello\"/>".toList,
          "<string name=\"extracted_string1\">Hello</string>".toList]))) := by
  intro source text space
  let job := Job.extractFile { target := some source, backup := true } (some source) .fresh
  obtain ⟨outcome, hends, hstatus⟩ :
      ∃ outcome, job.ends space = (.ok outcome, (job.ends space).2) ∧
      outcome.result.status = "extracted" := Job.exists_ends_of_map (by decide +kernel)
  exact ⟨outcome, _, hends, hstatus, by decide +kernel⟩

end Externalize
