import Externalize.Proofs.Extraction.Source
import Externalize.Proofs.Source.Weight

/-!
# `Externalize.Proofs.Extraction.Attempt`: how extraction from one file ends

An `Attempt` is an extraction that comes to its first write: the source holds text with something to
extract, and the target opens. What it finds is determined by the disk (`Attempt.eq`). Without an
attempt nothing is ever written. `extractInto_ends` tells the ends of an extraction apart, and
`extractFile_ends` does so for the outcome.

- The entries cannot be stored; something is left in the target.
- The backup is refused; all is put back.
- The accessor class is refused; source and target are written already.
- All is done.
-/

set_option autoImplicit false

namespace Externalize

open Disk (Wrote SameFolders Spares)

/-- What `extractInto` has found when it comes to its first write: a source with a scan that has
entries, and a target that `Opens`. -/
structure Attempt (disk : Disk) (scheme : NameScheme) (path : Path) (kind : Kind) (target : Path)
    (count : Int) where
  folder : Location
  octets : Octets
  text : Text
  scan : Scan
  place : Location
  previous : Option Octets
  source : disk.SourceAt path folder octets
  decoded : Utf8.decode octets = .ok text
  scanned : Externalize.scan scheme kind text count = .ok scan
  found : scan.entries ≠ []
  opens : disk.Opens target place previous

namespace Attempt

variable {disk : Disk} {scheme : NameScheme} {path : Path} {kind : Kind} {target : Path}
  {count : Int}

/-- There is at most one `Attempt` for a disk, a scheme, a source, a target and a count. -/
theorem eq (a b : Attempt disk scheme path kind target count) : a = b := by
  obtain ⟨folder, octets, text, scan, place, previous, hsource, hdecoded, hscanned, hfound, hopens⟩ := a
  obtain ⟨folder', octets', text', scan', place', previous', hsource', hdecoded', hscanned', hfound',
    hopens'⟩ := b
  obtain ⟨rfl, -⟩ := List.append_inj' (Except.ok.inj (hsource'.locate.symm.trans hsource.locate)) rfl
  obtain rfl := Node.file.inj (Option.some.inj (hsource'.holds.symm.trans hsource.holds))
  obtain rfl := Except.ok.inj (hdecoded'.symm.trans hdecoded)
  obtain rfl := Except.ok.inj (hscanned'.symm.trans hscanned)
  obtain ⟨rfl, rfl⟩ := hopens.unique hopens'
  rfl

/-- The location of the source. -/
def origin (a : Attempt disk scheme path kind target count) : Location :=
  a.folder ++ [path.name]

/-- The location of the `backupPath` of the source. -/
def aside (a : Attempt disk scheme path kind target count) : Location :=
  a.folder ++ [path.name ++ Job.backupEnding]

/-- The location of the `accessorPath` of the source. -/
def accessor (a : Attempt disk scheme path kind target count) : Location :=
  a.folder ++ [Accessor.fileName]

/-- `locate` of the `backupPath` leads to `a.aside`, if the disk `Admits` it. -/
theorem locate_aside (a : Attempt disk scheme path kind target count)
    (h : disk.Admits (Job.backupPath path)) : disk.locate (Job.backupPath path) = .ok a.aside := by
  obtain ⟨place, hplace, -⟩ := h
  rw [hplace, a.source.sibling (Job.backupName_ne_parentName _) hplace, aside]

/-- `locate` of the `accessorPath` leads to `a.accessor`, if the disk `Admits` it. -/
theorem locate_accessor (a : Attempt disk scheme path kind target count)
    (h : disk.Admits (Job.accessorPath path)) :
    disk.locate (Job.accessorPath path) = .ok a.accessor := by
  obtain ⟨place, hplace, -⟩ := h
  rw [hplace, a.source.sibling (by decide) hplace, accessor]

/-- No quote stands in the value of one of `a.scan.entries`. -/
theorem quote_notMem_value (a : Attempt disk scheme path kind target count) {entry : Entry}
    (hmem : entry ∈ a.scan.entries) : '"' ∉ entry.value := by
  obtain ⟨literal, hliteral, -, hraw⟩ :=
    (mem_raws_of_scan a.scanned entry.raw).mp (List.mem_map_of_mem hmem)
  obtain ⟨value, hquoted, hquote, -⟩ := exists_value_of_mem_literals hliteral
  rwa [Entry.value, ← hraw, hquoted, unquoted_quoted]

/-- `relink` of the text of the source by `a.scan.entries`. -/
def relinked (a : Attempt disk scheme path kind target count) : Text :=
  relink kind a.scan.entries a.text

/-- `Externalize.Stores` for the entries and the target of the attempt. -/
def Stores (a : Attempt disk scheme path kind target count) : Prop :=
  Externalize.Stores a.scan.entries a.previous

/-- The source holds `a.relinked`, and `a.aside` its octets if a backup was asked for, after the entries
were stored at `a.place`. -/
def Relinked (a : Attempt disk scheme path kind target count) (backup : Bool) (after : Disk) :
    Prop :=
  ∃ old stored mid, Utf8.decode (a.previous.getD []) = .ok old ∧
    Wrote disk stored a.place (Utf8.encode (Document.format
      (Text.unifyBreaks (old ++ a.scan.entries.flatMap Job.entryText)))) ∧
    (if backup then ∃ current, stored.get? a.origin = some (.file current) ∧
        Wrote stored mid a.aside current
      else mid = stored) ∧
    Wrote mid after a.origin (Utf8.encode a.relinked)

/-- `extractInto` writes the accessor class: the source is code and `scheme.accessor` holds. -/
def NeedsAccessor (_ : Attempt disk scheme path kind target count) : Prop :=
  kind = .code ∧ scheme.accessor = true

/-- The four ends of an attempt, each with the disk that it leaves. -/
inductive Ending (a : Attempt disk scheme path kind target count) (backup : Bool) :
    Except Fault Scan → Disk → Prop
  /-- The entries cannot be stored, and a break is left behind what the target held, and maybe
  more. -/
  | broken {cause : Interruption} {more : Text} {after : Disk} (stores : ¬a.Stores)
      (wrote : Wrote disk after a.place
        (a.previous.getD [] ++ Utf8.encode (Document.lineBreak ++ more))) :
      Ending a backup (.error (.problem (.interrupted cause))) after
  /-- The backup is refused, and all is put back. -/
  | putBack {cause : Interruption} {after : Disk} (stores : a.Stores) (asked : backup = true)
      (refused : ¬disk.Admits (Job.backupPath path)) (folders : SameFolders disk after)
      (same : ∀ location, after.get? location = disk.get? location) :
      Ending a backup (.error (.problem (.interrupted cause))) after
  /-- The accessor class is refused, when all else is written. -/
  | halfDone {cause : Interruption} {after : Disk} (stores : a.Stores)
      (backedUp : backup = true → disk.Admits (Job.backupPath path)) (needed : a.NeedsAccessor)
      (refused : ¬disk.Admits (Job.accessorPath path)) (relinked : a.Relinked backup after) :
      Ending a backup (.error (.problem (.interrupted cause))) after
  /-- All is written. -/
  | done {mid after : Disk} (stores : a.Stores)
      (backedUp : backup = true → disk.Admits (Job.backupPath path))
      (relinked : a.Relinked backup mid) (folders : SameFolders mid after)
      (same : ∀ location, (a.NeedsAccessor → location ≠ a.accessor) →
        after.get? location = mid.get? location)
      (accessor : a.NeedsAccessor → mid.write (Job.accessorPath path)
        (Utf8.encode (Accessor.source a.relinked)) = .ok after) :
      Ending a backup (.ok a.scan) after

/-- An `Ending` is `.ok a.scan` or an `interrupted` problem. -/
theorem Ending.result_cases {a : Attempt disk scheme path kind target count} {backup : Bool}
    {result : Except Fault Scan} {after : Disk} (h : a.Ending backup result after) :
    result = .ok a.scan ∨ ∃ cause, result = .error (.problem (.interrupted cause)) := by
  cases h with
  | broken => exact .inr ⟨_, rfl⟩
  | putBack => exact .inr ⟨_, rfl⟩
  | halfDone => exact .inr ⟨_, rfl⟩
  | done => exact .inl rfl

/-- An `Ending` with `.ok` comes from an attempt that `Stores`. -/
theorem Ending.stores {a : Attempt disk scheme path kind target count} {backup : Bool} {scan : Scan}
    {after : Disk} (h : a.Ending backup (.ok scan) after) : a.Stores := by
  cases h with
  | done hstores => exact hstores

namespace Relinked

variable {a : Attempt disk scheme path kind target count} {backup : Bool} {after : Disk}

/-- `Relinked` spares all locations but `a.place`, `a.aside` if a backup was asked for, and `a.origin`. -/
theorem spares (h : a.Relinked backup after) :
    Spares disk after fun location =>
      location ≠ a.place ∧ (backup = true → location ≠ a.aside) ∧ location ≠ a.origin := by
  obtain ⟨old, stored, mid, -, hstored, hmid, hafter⟩ := h
  have hbackup : Spares stored mid fun location => backup = true → location ≠ a.aside := by
    cases backup with
    | false => exact hmid ▸ .refl _ _
    | true =>
      obtain ⟨current, -, hwrote⟩ := hmid
      exact hwrote.spares.mono fun _ h => h rfl
  exact (hstored.spares.mono fun _ h => h.1).trans
    ((hbackup.mono fun _ h => h.2.1).trans (hafter.spares.mono fun _ h => h.2.2))

theorem get?_origin (h : a.Relinked backup after) :
    after.get? a.origin = some (.file (Utf8.encode a.relinked)) := by
  obtain ⟨old, stored, mid, -, -, -, hafter⟩ := h
  exact hafter.get?_place

/-- `Relinked` leaves `Document.format` of the old text and the entries at `a.place`, unless this is
`a.origin` or `a.aside`. -/
theorem exists_stored (h : a.Relinked backup after) (haside : backup = true → a.place ≠ a.aside)
    (horigin : a.place ≠ a.origin) :
    ∃ old, Utf8.decode (a.previous.getD []) = .ok old ∧
      after.get? a.place = some (.file (Utf8.encode (Document.format
        (Text.unifyBreaks (old ++ a.scan.entries.flatMap Job.entryText))))) := by
  obtain ⟨old, stored, mid, hold, hstored, hmid, hafter⟩ := h
  refine ⟨old, hold, ?_⟩
  rw [hafter.get?_of_ne horigin, ← hstored.get?_place]
  cases backup with
  | false => rw [hmid]
  | true =>
    obtain ⟨current, -, hwrote⟩ := hmid
    exact hwrote.get?_of_ne (haside rfl)

/-- `Relinked` leaves a `SourceAt` in the same folder. -/
theorem sourceAt (h : a.Relinked backup after) :
    after.SourceAt path a.folder (Utf8.encode a.relinked) :=
  ⟨a.source.extension, a.source.noZero, (h.spares.folders.locate_iff path _).mp a.source.locate,
    h.get?_origin⟩

end Relinked

/-- `a.relinked` is not what the source held. -/
theorem relinked_ne (a : Attempt disk scheme path kind target count) :
    Utf8.encode a.relinked ≠ a.octets := by
  intro heq
  have hdecoded := a.decoded
  rw [← heq, Utf8.decode_encode, Except.ok.injEq] at hdecoded
  exact (relink_lighter a.scanned a.found).ne hdecoded

/-- An `Ending` spares all locations but `a.place`, `a.aside`, `a.origin` and `a.accessor`. -/
theorem Ending.spares {a : Attempt disk scheme path kind target count} {backup : Bool}
    {result : Except Fault Scan} {after : Disk} (h : a.Ending backup result after) :
    Spares disk after fun location =>
      (location ≠ a.place ∧ (backup = true → location ≠ a.aside) ∧ location ≠ a.origin) ∧
        (a.NeedsAccessor → location ≠ a.accessor) := by
  cases h with
  | broken _ hwrote => exact hwrote.spares.mono fun _ h => h.1.1
  | putBack _ _ _ hfolders hsame => exact ⟨hfolders, fun location _ => hsame location⟩
  | halfDone _ _ _ _ hrelinked => exact hrelinked.spares.mono fun _ h => h.1
  | done _ _ hrelinked hfolders hsame =>
    exact (hrelinked.spares.mono fun _ h => h.1).trans ⟨hfolders, fun location h =>
      hsame location h.2⟩

section
variable {a : Attempt disk scheme path kind target count} {backup : Bool} {scan : Scan} {after : Disk}

/-- An `Ending` with `.ok` comes from a disk on which the `backupPath` and the `accessorPath` lead to
`a.aside` and `a.accessor`, if they are asked for. -/
theorem Ending.locate (h : a.Ending backup (.ok scan) after) :
    (backup = true → disk.locate (Job.backupPath path) = .ok a.aside) ∧
      (a.NeedsAccessor → disk.locate (Job.accessorPath path) = .ok a.accessor) := by
  cases h with
  | done _ hbackup hrelinked _ _ haccessor =>
    refine ⟨fun hasked => a.locate_aside (hbackup hasked), fun hneeded => a.locate_accessor ?_⟩
    rw [hrelinked.spares.folders.admits_iff]
    exact Disk.update_isOk_iff.mp ⟨_, haccessor hneeded⟩

/-- An `Ending` spares all locations but `a.place`, `a.origin` and those that the `backupPath` and the
`accessorPath` lead to, if they are asked for. -/
theorem Ending.spares_paths {result : Except Fault Scan} (h : a.Ending backup result after) :
    Spares disk after fun location => location ≠ a.place ∧ location ≠ a.origin ∧
      (backup = true → disk.locate (Job.backupPath path) ≠ .ok location) ∧
      (a.NeedsAccessor → disk.locate (Job.accessorPath path) ≠ .ok location) := by
  rcases h.result_cases with rfl | ⟨cause, rfl⟩
  · obtain ⟨haside, haccessor⟩ := h.locate
    refine h.spares.mono fun location hfree => ⟨⟨hfree.1, fun hasked heq => ?_, hfree.2.1⟩,
      fun hneeded heq => ?_⟩
    · exact hfree.2.2.1 hasked (heq ▸ haside hasked)
    · exact hfree.2.2.2 hneeded (heq ▸ haccessor hneeded)
  · cases h with
    | broken _ hwrote => exact hwrote.spares.mono fun _ hfree => hfree.1
    | putBack _ _ _ hfolders hsame => exact ⟨hfolders, fun location _ => hsame location⟩
    | halfDone _ hadmits _ _ hrelinked =>
      refine hrelinked.spares.mono fun location hfree => ⟨hfree.1, fun hasked heq => ?_, hfree.2.1⟩
      exact hfree.2.2.1 hasked (heq ▸ a.locate_aside (hadmits hasked))

/-- An `Ending` with `.ok` leaves `Document.format` of the old text and the entries at `a.place`, unless
another file goes there. -/
theorem Ending.exists_stored (h : a.Ending backup (.ok scan) after)
    (haside : backup = true → a.place ≠ a.aside) (horigin : a.place ≠ a.origin)
    (haccessor : a.NeedsAccessor → a.place ≠ a.accessor) :
    ∃ old, Utf8.decode (a.previous.getD []) = .ok old ∧
      after.get? a.place = some (.file (Utf8.encode (Document.format
        (Text.unifyBreaks (old ++ a.scan.entries.flatMap Job.entryText))))) := by
  cases h with
  | done _ _ hrelinked _ hsame =>
    rw [hsame a.place haccessor]
    exact hrelinked.exists_stored haside horigin

end

/-- The attempt breaks off with something written: it does not `Stores`, or the accessor class is
refused when all else is written. -/
def Strands (a : Attempt disk scheme path kind target count) (backup : Bool) : Prop :=
  ¬a.Stores ∨ (backup = true → disk.Admits (Job.backupPath path)) ∧ a.NeedsAccessor ∧
    ¬disk.Admits (Job.accessorPath path)

/-- An `Ending` with a fault leaves every location as it was exactly if the attempt does not `Strands`. -/
theorem Ending.same_iff {a : Attempt disk scheme path kind target count} {backup : Bool}
    {fault : Fault} {after : Disk} (h : a.Ending backup (.error fault) after) :
    (∀ location, after.get? location = disk.get? location) ↔ ¬a.Strands backup := by
  cases h with
  | broken hstores hwrote =>
    -- Something was added to the target, be it to nothing or to an old file.
    refine iff_of_false (fun hsame => ?_) fun h => h (.inl hstores)
    have hplace := hsame a.place
    rw [hwrote.get?_place, a.opens.holds] at hplace
    cases hprevious : a.previous with
    | none => simp [hprevious] at hplace
    | some old => exact Job.encode_lineBreak_ne _ (by simpa [hprevious] using hplace)
  | putBack hstores hasked hrefused _ hsame =>
    refine iff_of_true hsame ?_
    rintro (hnot | ⟨hadmits, -⟩)
    · exact hnot hstores
    · exact hrefused (hadmits hasked)
  | halfDone hstores hadmits hneeded hrefused hrelinked =>
    refine iff_of_false (fun hsame => ?_) fun h => h (.inr ⟨hadmits, hneeded, hrefused⟩)
    have horigin := hsame a.origin
    rw [hrelinked.get?_origin, origin, a.source.holds, Option.some.injEq, Node.file.injEq] at horigin
    exact a.relinked_ne horigin

end Attempt

namespace Job

/-! ### The steps of an extraction -/

theorem reported_ok {α : Type} {job : Job α} {space after : Workspace} {a : α}
    (h : job.ends space = (.ok a, after)) : (reported job).ends space = (.ok a, after) := by
  rw [reported, ends_tryCatch, h]

theorem reported_interruption {α : Type} {job : Job α} {space after : Workspace}
    {cause : Interruption} (h : job.ends space = (.error (.interruption cause), after)) :
    (reported job).ends space = (.error (.problem (.interrupted cause)), after) := by
  rw [reported, ends_tryCatch, h]
  rfl

/-- `reported` keeps the disk that a job which ends with a fault leaves, and ends with a fault too. -/
theorem reported_error {α : Type} {job : Job α} {space after : Workspace} {fault : Fault}
    (h : job.ends space = (.error fault, after)) :
    ∃ fault', (reported job).ends space = (.error fault', after) := by
  rw [reported, ends_tryCatch, h]
  cases fault <;> exact ⟨_, rfl⟩

/-- `scanLiteral` does what `Scanning.step` does, and leaves the disk as it is. -/
theorem scanLiteral_ends (scheme : NameScheme) (state : Scanning) (literal : Literal)
    (space : Workspace) :
    ∃ after, after.disk = space.disk ∧ (scanLiteral scheme state literal).ends space
      = (match state.step scheme literal with
          | .ok next => .ok next
          | .error fault => .error fault.toFault, after) := by
  unfold scanLiteral Scanning.step
  cases state.judge scheme literal with
  | error fault => exact ⟨space, rfl, rfl⟩
  | ok verdict =>
    cases verdict with
    | blank => exact ⟨space, rfl, rfl⟩
    | duplicate => exact ⟨space, rfl, rfl⟩
    | entry entry =>
      obtain ⟨after, hafter, hdisk⟩ := record_ends .debug .scanning
        s!"literal {String.ofList entry.raw} at {literal.position} -> {String.ofList entry.name.shown}"
        space
      exact ⟨after, hdisk, ends_bind_ok hafter⟩

/-- `foldlM` of `scanLiteral` does what `foldlM` of `Scanning.step` does, and leaves the disk as it is. -/
theorem scanLiterals_ends (scheme : NameScheme) (found : List Literal) (state : Scanning)
    (space : Workspace) :
    ∃ after, after.disk = space.disk ∧ (found.foldlM (scanLiteral scheme) state).ends space
      = (match found.foldlM (Scanning.step scheme) state with
          | .ok next => .ok next
          | .error fault => .error fault.toFault, after) := by
  induction found generalizing state space with
  | nil => exact ⟨space, rfl, rfl⟩
  | cons literal found ih =>
    obtain ⟨mid, hdisk, hmid⟩ := scanLiteral_ends scheme state literal space
    rw [List.foldlM_cons, List.foldlM_cons]
    cases hstep : state.step scheme literal with
    | error fault =>
      rw [hstep] at hmid
      exact ⟨mid, hdisk, ends_bind_error hmid⟩
    | ok next =>
      rw [hstep] at hmid
      obtain ⟨after, hdisk', hafter⟩ := ih next mid
      exact ⟨after, hdisk'.trans hdisk, (ends_bind_ok hmid).trans hafter⟩

/-- `scanText` does what `scan` does, and leaves the disk as it is. -/
theorem scanText_ends (scheme : NameScheme) (kind : Kind) (text : Text) (count : Int)
    (space : Workspace) :
    ∃ after, after.disk = space.disk ∧ (scanText scheme kind text count).ends space
      = (match scan scheme kind text count with
          | .ok result => .ok result
          | .error fault => .error fault.toFault, after) := by
  obtain ⟨after, hdisk, hafter⟩ :=
    scanLiterals_ends scheme (literals kind text) (.start kind count) space
  refine ⟨after, hdisk, ?_⟩
  unfold scanText scan
  cases hrun : (literals kind text).foldlM (Scanning.step scheme) (.start kind count) with
  | error fault =>
    rw [hrun] at hafter
    exact ends_bind_error hafter
  | ok state =>
    rw [hrun] at hafter
    exact ends_bind_ok hafter

/-- The octets of the target before entries are added, as `extractInto` looks for them. -/
def previousOf (target : Path) : Job (Option Octets) := do
  if ← isFile target then some <$> readOctets target else pure none

theorem previousOf_file {target : Path} {space : Workspace} {location : Location}
    {octets : Octets} (hzero : ¬HasZero target)
    (hnode : (node? target).ends space = (.ok (some (.file octets)), space))
    (hfind : space.disk.find target = .ok (location, .file octets)) :
    (previousOf target).ends space = (.ok (some octets), space) := by
  obtain ⟨hlocate, hget⟩ := Disk.find_eq_ok_iff.mp hfind
  have hread : space.disk.read target = .ok octets :=
    Disk.read_eq_ok_iff.mpr ⟨location, hlocate, .inl hget⟩
  have hfile : (isFile target).ends space = (.ok true, space) := by
    rw [isFile, ends_bind_ok hnode]
    rfl
  rw [previousOf, ends_bind_ok hfile]
  simp [ends_map, ends_readOctets, hzero, hread]

theorem previousOf_none {target : Path} {space : Workspace} {node : Option Node}
    (hnode : (node? target).ends space = (.ok node, space))
    (hnone : ∀ octets, node ≠ some (.file octets)) :
    (previousOf target).ends space = (.ok none, space) := by
  have hfile : (isFile target).ends space = (.ok false, space) := by
    rw [isFile, ends_bind_ok hnode]
    match node with
    | none => rfl
    | some .folder => rfl
    | some .device => rfl
    | some (.file octets) => exact absurd rfl (hnone octets)
  rw [previousOf, ends_bind_ok hfile]
  rfl

/-- `previousOf` changes nothing, and gives the `previous` octets of a target that `Opens`. -/
theorem previousOf_ends (target : Path) (space : Workspace) :
    ∃ result, (previousOf target).ends space = (result, space) ∧
      ∀ place previous, space.disk.Opens target place previous → result = .ok previous := by
  rcases node?_ends target space with ⟨hnode, hnone⟩ | ⟨place, node, hnode, hzero, hfind⟩ |
    ⟨fault, hnode, hlost⟩
  · refine ⟨_, previousOf_none hnode (by simp), fun place previous hopens => ?_⟩
    cases previous with
    | none => rfl
    | some octets =>
      exact absurd (Disk.find_eq_ok_iff.mpr ⟨hopens.locate, hopens.holds⟩)
        (hnone.resolve_left hopens.noZero _ _)
  -- Only a file opens, so a folder or a device contradicts `hopens`.
  · match node with
    | .file octets =>
      refine ⟨_, previousOf_file hzero hnode hfind, fun place' previous hopens => ?_⟩
      obtain ⟨octets', rfl, hfile⟩ := hopens.exists_file hfind
      rw [Node.file.inj hfile]
    | .folder =>
      refine ⟨_, previousOf_none hnode (by simp), fun place' previous hopens => ?_⟩
      obtain ⟨octets, -, hfile⟩ := hopens.exists_file hfind
      simp at hfile
    | .device =>
      refine ⟨_, previousOf_none hnode (by simp), fun place' previous hopens => ?_⟩
      obtain ⟨octets, -, hfile⟩ := hopens.exists_file hfind
      simp at hfile
  · have hfile : (isFile target).ends space = (.error (.interruption (.disk fault)), space) :=
      ends_bind_error hnode
    exact ⟨_, ends_bind_error hfile, fun place previous hopens => absurd hopens.locate (hlost place)⟩

/-- The part of `extractInto` that writes. -/
def writeAll (scheme : NameScheme) (path : Path) (kind : Kind) (target : Path) (backup : Bool)
    (text : Text) (scan : Scan) : Job Scan := do
  let previous ← previousOf target
  store target scan.entries
  relinkSource path target previous (relink kind scan.entries text) backup
  if kind = .code && scheme.accessor then
    let _ ← writeAccessor path.parent (relink kind scan.entries text)
  return scan

/-- The part of `extractInto` that reads, and `write` if there are entries. -/
def preparing (scheme : NameScheme) (path : Path) (kind : Kind) (count : Int)
    (write : Text → Scan → Job Scan) : Job Scan := do
  let text ← readText path
  let scan ← scanText scheme kind text count
  record .debug .file
    s!"{path}: {scan.found} matches, {scan.blanks} blank, {scan.duplicates} duplicate"
  if scan.entries.isEmpty then return scan else write text scan

theorem extractInto_eq (scheme : NameScheme) (path : Path) (kind : Kind) (target : Path)
    (backup : Bool) (count : Int) :
    extractInto scheme path kind target backup count
      = reported (preparing scheme path kind count
          (writeAll scheme path kind target backup)) := by
  refine congrArg reported (bind_congr fun text => bind_congr fun scan => bind_congr fun _ => ?_)
  split
  · rfl
  · rw [writeAll, previousOf, bind_assoc]
    refine bind_congr fun file => ?_
    cases file <;> rfl

/-- `preparing` leaves the disk as it is. The source holds no text, or `scan` of it fails, or it comes
to `write`. -/
theorem preparing_cases (scheme : NameScheme) {path : Path} (kind : Kind) (count : Int)
    (write : Text → Scan → Job Scan) (space : Workspace) (hzero : ¬HasZero path) :
    (∃ cause, (preparing scheme path kind count write).ends space
        = (.error (.interruption cause), space) ∧
      ∀ octets text, space.disk.read path = .ok octets → Utf8.decode octets ≠ .ok text) ∨
    ∃ octets text after, space.disk.read path = .ok octets ∧ Utf8.decode octets = .ok text ∧
      after.disk = space.disk ∧ (preparing scheme path kind count write).ends space
        = match scan scheme kind text count with
          | .error fault => (.error fault.toFault, after)
          | .ok result =>
            (if result.entries.isEmpty then return result else write text result : Job Scan).ends
              after := by
  unfold preparing
  rcases readText_ends space hzero with
    ⟨octets, text, hread, hoctets, hdecode⟩ | ⟨cause, hread, hnot⟩
  · refine .inr ⟨octets, text, ?_⟩
    rw [ends_bind_ok hread]
    obtain ⟨scanned, hscanned, hscan⟩ := scanText_ends scheme kind text count space
    cases hresult : scan scheme kind text count with
    | error fault =>
      rw [hresult] at hscan
      exact ⟨scanned, hoctets, hdecode, hscanned, ends_bind_error hscan⟩
    | ok result =>
      rw [hresult] at hscan
      obtain ⟨told, htold, hdisk⟩ := record_ends .debug .file
        s!"{path}: {result.found} matches, {result.blanks} blank, {result.duplicates} duplicate"
        scanned
      exact ⟨told, hoctets, hdecode, hdisk.trans hscanned,
        (ends_bind_ok hscan).trans (ends_bind_ok htold)⟩
  · exact .inl ⟨cause, ends_bind_error hread, hnot⟩

/-- `preparing` leaves the disk as it is, and comes to `write` if the source holds a text for which
`scan` ends well. -/
theorem preparing_ends (scheme : NameScheme) (path : Path) (kind : Kind) (count : Int)
    (write : Text → Scan → Job Scan) (space : Workspace) :
    (∃ fault after, (preparing scheme path kind count write).ends space = (.error fault, after) ∧
      after.disk = space.disk ∧
      ∀ octets text result, ¬HasZero path → space.disk.read path = .ok octets →
        Utf8.decode octets = .ok text → scan scheme kind text count ≠ .ok result) ∨
    ∃ octets text result after, ¬HasZero path ∧ space.disk.read path = .ok octets ∧
      Utf8.decode octets = .ok text ∧ scan scheme kind text count = .ok result ∧
      after.disk = space.disk ∧ (preparing scheme path kind count write).ends space
        = (if result.entries.isEmpty then return result else write text result : Job Scan).ends
            after := by
  by_cases hzero : HasZero path
  · have hread : (readText path).ends space = (.error .zeroInPath, space) :=
      ends_bind_error (by rw [ends_readOctets, if_pos hzero])
    exact .inl ⟨_, _, ends_bind_error hread, rfl, fun _ _ _ h => absurd hzero h⟩
  -- The source is read at most once, so that all who read it see the same text.
  rcases preparing_cases scheme kind count write space hzero with
    ⟨cause, hends, hnot⟩ | ⟨octets, text, after, hread, hdecode, hdisk, hends⟩
  · exact .inl ⟨_, _, hends, rfl, fun octets text _ _ hread hdecode =>
      absurd hdecode (hnot octets text hread)⟩
  · cases hresult : scan scheme kind text count with
    | error fault =>
      rw [hresult] at hends
      refine .inl ⟨_, _, hends, hdisk, ?_⟩
      intro octets' text' result' _ hread' hdecode'
      obtain rfl := Except.ok.inj (hread.symm.trans hread')
      obtain rfl := Except.ok.inj (hdecode.symm.trans hdecode')
      simp [hresult]
    | ok result =>
      rw [hresult] at hends
      exact .inr ⟨octets, text, result, after, hzero, hread, hdecode, hresult, hdisk, hends⟩

theorem sourceAt_of_wrote {disk after : Disk} {path : Path} {folder place : Location}
    {octets octets' : Octets} (h : disk.SourceAt path folder octets)
    (hwrote : Wrote disk after place octets') : ∃ current, after.SourceAt path folder current := by
  have hlocate := (hwrote.folders.locate_iff path _).mp h.locate
  by_cases hplace : folder ++ [path.name] = place
  · exact ⟨octets', h.extension, h.noZero, hlocate, hplace ▸ hwrote.get?_place⟩
  · exact ⟨octets, h.extension, h.noZero, hlocate, (hwrote.get?_of_ne hplace).trans h.holds⟩

/-- `writeAccessor`, if it is asked for, leads from `Relinked` to an `Ending`. -/
theorem accessor_ends {scheme : NameScheme} {path : Path} {kind : Kind} {target : Path}
    {count : Int} {disk : Disk} {a : Attempt disk scheme path kind target count} {backup : Bool}
    {space : Workspace} (hstores : a.Stores)
    (hbackup : backup = true → disk.Admits (backupPath path))
    (hrelinked : a.Relinked backup space.disk) :
    ∃ result after,
      (do
        if kind = .code && scheme.accessor then
          let _ ← writeAccessor path.parent a.relinked
        return a.scan : Job Scan).ends space = (result, after) ∧
      ((∃ cause, result = .error (.interruption cause) ∧
          a.Ending backup (.error (.problem (.interrupted cause))) after.disk) ∨
        (result = .ok a.scan ∧ a.Ending backup (.ok a.scan) after.disk)) := by
  by_cases hneeded : a.NeedsAccessor
  · have hcond : (decide (kind = .code) && scheme.accessor) = true := by
      simpa [Attempt.NeedsAccessor] using hneeded
    rw [if_pos hcond]
    rcases writeAccessor_ends hrelinked.sourceAt a.relinked with
      ⟨written, after, hafter, hwrite, hfolders, hsame⟩ | ⟨hrefused, fault, hfault⟩
    · refine ⟨_, after, ends_bind_ok hafter, .inr ⟨rfl, .done hstores hbackup hrelinked hfolders ?_ ?_⟩⟩
      · exact fun location hne => hsame location (hne hneeded)
      · exact fun _ => hwrite
    -- Whether the class is admitted is a matter of the folders, which are those of the start.
    · rw [← hrelinked.spares.folders.admits_iff] at hrefused
      exact ⟨_, space, ends_bind_error hfault,
        .inl ⟨_, rfl, .halfDone hstores hbackup hneeded hrefused hrelinked⟩⟩
  · have hcond : ¬(decide (kind = .code) && scheme.accessor) = true := by
      simpa [Attempt.NeedsAccessor] using hneeded
    rw [if_neg hcond]
    exact ⟨_, space, rfl, .inr ⟨rfl, .done hstores hbackup hrelinked (.refl _) (fun _ _ => rfl)
      fun hneeded' => absurd hneeded' hneeded⟩⟩

/-- `writeAll` has one of the four `Ending`s. -/
theorem writeAll_ends {scheme : NameScheme} {path : Path} {kind : Kind} {target : Path}
    {count : Int} {disk : Disk} (a : Attempt disk scheme path kind target count) (backup : Bool)
    {space : Workspace} (hdisk : space.disk = disk) :
    ∃ result after, (writeAll scheme path kind target backup a.text a.scan).ends space
        = (result, after) ∧
      ((∃ cause, result = .error (.interruption cause) ∧
          a.Ending backup (.error (.problem (.interrupted cause))) after.disk) ∨
        (result = .ok a.scan ∧ a.Ending backup (.ok a.scan) after.disk)) := by
  subst hdisk
  obtain ⟨before, hbefore, hprevious⟩ := previousOf_ends target space
  obtain rfl := hprevious _ _ a.opens
  unfold writeAll
  rw [ends_bind_ok hbefore]
  -- The entries come first. If they are stored, the source is next, and then the accessor class.
  rcases store_ends target a.found space with ⟨hclosed, -⟩ | ⟨place, previous, hopens, hends⟩
  · exact absurd ⟨_, _, a.opens⟩ hclosed
  obtain ⟨rfl, rfl⟩ := a.opens.unique hopens
  rcases hends with ⟨old, stored, hstores, hold, hstored, hwrote⟩ |
    ⟨cause, after, more, hstores, hafter, hwrote⟩
  · rw [ends_bind_ok hstored]
    obtain ⟨current, hsource⟩ := sourceAt_of_wrote a.source hwrote
    rcases relinkSource_ends a.opens hwrote hsource a.relinked backup with
      ⟨mid, after, hadmits, hafter, hmid, hwritten⟩ |
      ⟨hbackup, hrefused, fault, after, hafter, hfolders, hsame⟩
    · rw [← hwrote.folders.admits_iff] at hadmits
      have hrelinked : a.Relinked backup after.disk := by
        refine ⟨old, stored.disk, mid, hold, hwrote, ?_, hwritten⟩
        cases backup with
        | false => exact hmid
        | true => exact ⟨current, hsource.holds, hmid⟩
      obtain ⟨result, final, hfinal, hends⟩ := accessor_ends hstores hadmits hrelinked
      exact ⟨result, final, (ends_bind_ok hafter).trans hfinal, hends⟩
    · rw [← hwrote.folders.admits_iff] at hrefused
      exact ⟨_, after, ends_bind_error hafter,
        .inl ⟨_, rfl, .putBack hstores hbackup hrefused hfolders hsame⟩⟩
  · exact ⟨_, after, ends_bind_error hafter, .inl ⟨cause, rfl, .broken hstores hwrote⟩⟩

/-! ### Extraction into a target -/

/-- `previousOf` fails for what is `RefusedFor` the target. -/
theorem previousOf_fault {target : Path} {space after : Workspace} {fault : Fault}
    (h : (previousOf target).ends space = (.error fault, after)) : RefusedFor target fault := by
  rcases node?_ends target space with ⟨hnode, -⟩ | ⟨place, node, hnode, hzero, hfind⟩ |
    ⟨refused, hnode, -⟩
  · cases (previousOf_none hnode (by simp)).symm.trans h
  · match node with
    | .file octets => cases (previousOf_file hzero hnode hfind).symm.trans h
    | .folder => cases (previousOf_none hnode (by simp)).symm.trans h
    | .device => cases (previousOf_none hnode (by simp)).symm.trans h
  · have hfile : (isFile target).ends space = (.error (.interruption (.disk refused)), space) :=
      ends_bind_error hnode
    cases (ends_bind_error hfile).symm.trans h
    exact node?_fault hnode

/-- `writeAll` ends at once where the target does not `Opens`. -/
theorem writeAll_closed (scheme : NameScheme) (path : Path) (kind : Kind) {target : Path}
    (backup : Bool) (text : Text) (scan : Scan) {space : Workspace}
    (hclosed : ¬∃ place previous, space.disk.Opens target place previous) :
    ∃ fault, RefusedFor target fault ∧
      (writeAll scheme path kind target backup text scan).ends space = (.error fault, space) := by
  unfold writeAll
  obtain ⟨previous, hprevious, -⟩ := previousOf_ends target space
  cases previous with
  | error fault => exact ⟨fault, previousOf_fault hprevious, ends_bind_error hprevious⟩
  | ok previous =>
    rw [ends_bind_ok hprevious]
    rcases start_ends target space with ⟨place, previous, -, -, hopens, -⟩ | ⟨-, fault, hstart⟩
    · exact absurd ⟨place, previous, hopens⟩ hclosed
    · have hstore : (store target scan.entries).ends space = (.error fault, space) :=
        ends_bind_error hstart
      exact ⟨fault, start_fault hstart, ends_bind_error hstore⟩

/-- `scan` of the empty text has no entries. -/
theorem entries_of_scan_nil {scheme : NameScheme} {kind : Kind} {count : Int} {result : Scan}
    (h : scan scheme kind [] count = .ok result) : result.entries = [] := by
  have hraws := scan_raws h
  cases kind <;> exact List.map_eq_nil_iff.mp hraws

/-- A source with entries and a target that `Opens` make an `Attempt`. -/
theorem exists_attempt {disk : Disk} {scheme : NameScheme} {path : Path} {kind : Kind} {target : Path}
    {count : Int} {octets : Octets} {text : Text} {result : Scan} {place : Location}
    {previous : Option Octets} (hext : path.extension ≠ []) (hzero : ¬HasZero path)
    (hread : disk.read path = .ok octets) (hdecode : Utf8.decode octets = .ok text)
    (hscan : scan scheme kind text count = .ok result) (hfound : result.entries ≠ [])
    (hopens : disk.Opens target place previous) :
    ∃ a : Attempt disk scheme path kind target count, a.text = text ∧ a.scan = result := by
  -- A device reads as empty, and there is nothing to extract from an empty text: this is a file.
  have hoctets : octets ≠ [] := by
    rintro rfl
    obtain rfl : [] = text := Except.ok.inj hdecode
    exact hfound (entries_of_scan_nil hscan)
  obtain ⟨folder, hsource⟩ := Disk.SourceAt.of_read hext hzero hread hoctets
  exact ⟨⟨folder, octets, text, result, place, previous, hsource, hdecode, hscan, hfound, hopens⟩,
    rfl, rfl⟩

/-- `extractInto` has one of the four `Ending`s of an `Attempt`. If there is none, nothing is written
and nothing extracted. -/
theorem extractInto_ends (scheme : NameScheme) {path : Path} (hext : path.extension ≠ [])
    (kind : Kind) (target : Path) (backup : Bool) (count : Int) (space : Workspace) :
    (¬Nonempty (Attempt space.disk scheme path kind target count) ∧
      ∃ result after,
        (extractInto scheme path kind target backup count).ends space = (result, after) ∧
        after.disk = space.disk ∧
        ∀ scan, result = .ok scan → scan.entries = [] ∧ scan.count = count) ∨
    ∃ (a : Attempt space.disk scheme path kind target count) (result : Except Fault Scan)
      (after : Workspace),
      (extractInto scheme path kind target backup count).ends space = (result, after) ∧
      a.Ending backup result after.disk := by
  rw [extractInto_eq]
  rcases preparing_ends scheme path kind count (writeAll scheme path kind target backup) space with
    ⟨fault, after, hfault, hdisk, hnot⟩ |
    ⟨octets, text, result, told, hzero, hread, hdecode, hscan, hdisk, hprepared⟩
  · obtain ⟨fault', hfault'⟩ := reported_error hfault
    exact .inl ⟨fun ⟨a⟩ => hnot _ _ _ a.source.noZero a.source.read a.decoded a.scanned, _, _,
      hfault', hdisk, by simp⟩
  by_cases hfound : result.entries = []
  · -- There is no attempt on a source without entries.
    rw [if_pos (by simp [hfound])] at hprepared
    refine .inl ⟨fun ⟨a⟩ => a.found ?_, _, told, reported_ok hprepared, hdisk, ?_⟩
    · obtain rfl := Except.ok.inj (hread.symm.trans a.source.read)
      obtain rfl := Except.ok.inj (hdecode.symm.trans a.decoded)
      rwa [← Except.ok.inj (hscan.symm.trans a.scanned)]
    · rintro _ ⟨⟩
      exact ⟨hfound, by simp [scan_count hscan, hfound]⟩
  rw [if_neg (by simp [hfound])] at hprepared
  by_cases hopens : ∃ place previous, told.disk.Opens target place previous
  · obtain ⟨place, previous, hopens⟩ := hopens
    rw [hdisk] at hopens
    obtain ⟨a, rfl, rfl⟩ := exists_attempt hext hzero hread hdecode hscan hfound hopens
    obtain ⟨ended, after, hended, hcases⟩ := writeAll_ends a backup hdisk
    rw [hended] at hprepared
    rcases hcases with ⟨cause, rfl, hending⟩ | ⟨rfl, hending⟩
    · exact .inr ⟨_, _, after, reported_interruption hprepared, hending⟩
    · exact .inr ⟨_, _, after, reported_ok hprepared, hending⟩
  · obtain ⟨fault, -, hfault⟩ := writeAll_closed scheme path kind backup text result hopens
    obtain ⟨fault', hfault'⟩ := reported_error (hprepared.trans hfault)
    refine .inl ⟨fun ⟨a⟩ => hopens ?_, _, told, hfault', hdisk, by simp⟩
    rw [hdisk]
    exact ⟨_, _, a.opens⟩

end Job

end Externalize
