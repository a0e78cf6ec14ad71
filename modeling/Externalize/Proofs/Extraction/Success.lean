import Externalize.Proofs.Extraction.File

/-!
# `Externalize.Proofs.Extraction.Success`: when extraction from one file ends well

`extractFile_ends` says how an extraction ended. Here it is the other way round: `Extractable` lists
what the disk has to offer for an extraction to find a given scan and write it. By
`extractable_of_scan?` all of it is needed, and by `extractFile_of_extractable` it is all that it takes.
An attempt that is begun succeeds exactly if the entries can be stored and the backup and the accessor
class find room (`Ending.ok_iff`).

`Ending.get?_apart` says what such an extraction has changed outside the target.
-/

set_option autoImplicit false

namespace Externalize

/-! ### Attempts that succeed -/

namespace Attempt

variable {disk after : Disk} {scheme : NameScheme} {path : Path} {kind : Kind} {target : Path}
  {count : Int} {a : Attempt disk scheme path kind target count} {backup : Bool}
  {result : Except Fault Scan}

/-- Nothing stands in the way of the attempt: it `Stores`, and the places of the backup and of the
accessor class admit a file where they are needed. -/
structure Succeeds (a : Attempt disk scheme path kind target count) (backup : Bool) : Prop where
  stores : a.Stores
  backedUp : backup = true → disk.Admits (Job.backupPath path)
  accessor : a.NeedsAccessor → disk.Admits (Job.accessorPath path)

/-- An `Ending` is `.ok a.scan` exactly if the attempt `Succeeds`. -/
theorem Ending.ok_iff (h : a.Ending backup result after) : result = .ok a.scan ↔ a.Succeeds backup := by
  cases h with
  | broken hstores => exact iff_of_false (by simp) fun h => hstores h.stores
  | putBack _ hasked hrefused =>
    exact iff_of_false (by simp) fun h => hrefused (h.backedUp hasked)
  | halfDone _ _ hneeded hrefused =>
    exact iff_of_false (by simp) fun h => hrefused (h.accessor hneeded)
  | done hstores hbackup hrelinked _ _ haccessor =>
    refine iff_of_true rfl ⟨hstores, hbackup, fun hneeded => ?_⟩
    rw [hrelinked.spares.folders.admits_iff]
    exact Disk.update_isOk_iff.mp ⟨_, haccessor hneeded⟩

/-- An `Ending` with `.ok`, without the accessor class: outside `a.place` it has written `a.relinked` at
`a.origin`, `a.octets` at `a.aside` if a backup was asked for, and nothing else. -/
theorem Ending.get?_apart {scan : Scan} (h : a.Ending backup (.ok scan) after)
    (hneeds : ¬a.NeedsAccessor) (hplace : a.place ≠ a.origin) {location : Location}
    (hlocation : location ≠ a.place) :
    after.get? location
      = if location = a.origin then some (.file (Utf8.encode a.relinked))
        else if backup = true ∧ location = a.aside then some (.file a.octets)
        else disk.get? location := by
  cases h with
  | done _ _ hrelinked _ hsame =>
    rw [hsame location fun hneeded => absurd hneeded hneeds]
    obtain ⟨old, stored, mid, -, hstored, hmid, hafter⟩ := hrelinked
    rw [hafter.get?]
    split
    · rfl
    · cases backup with
      | false =>
        rw [if_neg (by simp), hmid, hstored.get?_of_ne hlocation]
      | true =>
        -- The backup took what the source held when the target was written already, and `hplace` says
        -- that this is what it held at the start.
        obtain ⟨current, hcurrent, hwrote⟩ := hmid
        rw [hstored.get?_of_ne hplace.symm, origin, a.source.holds, Option.some.injEq,
          Node.file.injEq] at hcurrent
        rw [hwrote.get?, hstored.get?_of_ne hlocation, ← hcurrent]
        simp

end Attempt

/-- The source holds text of which `Externalize.scan` gives the `scan`. -/
def Disk.Scans (disk : Disk) (scheme : NameScheme) (path : Path) (kind : Kind) (count : Int)
    (scan : Scan) : Prop :=
  ¬Job.HasZero path ∧ ∃ octets text, disk.read path = .ok octets ∧ Utf8.decode octets = .ok text ∧
    Externalize.scan scheme kind text count = .ok scan

/-- `Disk.Scans` holds of `a.scan`. -/
theorem Attempt.scans {disk : Disk} {scheme : NameScheme} {path : Path} {kind : Kind} {target : Path}
    {count : Int} (a : Attempt disk scheme path kind target count) :
    disk.Scans scheme path kind count a.scan :=
  ⟨a.source.noZero, a.octets, a.text, a.source.read, a.decoded, a.scanned⟩

theorem Disk.Scans.unique {disk : Disk} {scheme : NameScheme} {path : Path} {kind : Kind}
    {count : Int} {scan other : Scan} (h : disk.Scans scheme path kind count scan)
    (h' : disk.Scans scheme path kind count other) : scan = other := by
  obtain ⟨-, octets, text, hread, hdecode, hscan⟩ := h
  obtain ⟨-, octets', text', hread', hdecode', hscan'⟩ := h'
  obtain rfl := Except.ok.inj (hread.symm.trans hread')
  obtain rfl := Except.ok.inj (hdecode.symm.trans hdecode')
  exact Except.ok.inj (hscan.symm.trans hscan')

namespace Job

/-! ### Extraction into a target -/

theorem of_reported_ok {α : Type} {job : Job α} {space after : Workspace} {a : α}
    (h : (reported job).ends space = (.ok a, after)) : job.ends space = (.ok a, after) := by
  rw [reported, ends_tryCatch] at h
  generalize job.ends space = ended at h ⊢
  obtain ⟨result, mid⟩ := ended
  cases result with
  | ok a => exact h
  | error fault => cases fault <;> cases h

/-- `writeAll` gives the `scan` that it is given. -/
theorem writeAll_ok {scheme : NameScheme} {path : Path} {kind : Kind} {target : Path} {backup : Bool}
    {text : Text} {scan result : Scan} {space after : Workspace}
    (h : (writeAll scheme path kind target backup text scan).ends space = (.ok result, after)) :
    result = scan := by
  obtain ⟨_, _, -, h⟩ := of_ends_bind_ok h
  obtain ⟨_, _, -, h⟩ := of_ends_bind_ok h
  obtain ⟨_, _, -, h⟩ := of_ends_bind_ok h
  split at h
  · obtain ⟨_, _, -, h⟩ := of_ends_bind_ok h
    cases h
    rfl
  · cases h
    rfl

/-- `extractInto` that ends well gives a scan with `Disk.Scans`. -/
theorem scans_of_extractInto {scheme : NameScheme} {path : Path} {kind : Kind} {target : Path}
    {backup : Bool} {count : Int} {scan : Scan} {space after : Workspace}
    (h : (extractInto scheme path kind target backup count).ends space = (.ok scan, after)) :
    space.disk.Scans scheme path kind count scan := by
  rw [extractInto_eq] at h
  replace h := of_reported_ok h
  rcases preparing_ends scheme path kind count (writeAll scheme path kind target backup) space with
    ⟨fault, mid, hfault, -⟩ | ⟨octets, text, result, told, hzero, hread, hdecode, hscan, -, hprepared⟩
  · cases hfault.symm.trans h
  · rw [hprepared] at h
    have hresult : scan = result := by
      split at h
      · cases h
        rfl
      · exact writeAll_ok h
    exact ⟨hzero, octets, text, hread, hdecode, hresult ▸ hscan⟩

/-- `extractInto` of a source with no entries ends well. -/
theorem extractInto_of_nil {scheme : NameScheme} {path : Path} {kind : Kind} (target : Path)
    (backup : Bool) {count : Int} {scan : Scan} {space : Workspace}
    (hscans : space.disk.Scans scheme path kind count scan) (hnil : scan.entries = []) :
    ∃ after, (extractInto scheme path kind target backup count).ends space = (.ok scan, after) := by
  rw [extractInto_eq]
  obtain ⟨hzero, octets, text, hread, hdecode, hscan⟩ := hscans
  rcases preparing_ends scheme path kind count (writeAll scheme path kind target backup) space with
    ⟨_, _, -, -, hnot⟩ | ⟨octets', text', result, told, _, hread', hdecode', hscan', -, hprepared⟩
  · exact absurd hscan (hnot octets text scan hzero hread hdecode)
  · obtain rfl : scan = result := Disk.Scans.unique ⟨hzero, octets, text, hread, hdecode, hscan⟩
      ⟨hzero, octets', text', hread', hdecode', hscan'⟩
    rw [if_pos (by simp [hnil])] at hprepared
    exact ⟨told, reported_ok hprepared⟩

/-- `extractInto` ends well exactly if `Disk.Scans` holds and, if there are entries, some attempt
`Succeeds`. -/
theorem extractInto_ok_iff (scheme : NameScheme) {path : Path} (hext : path.extension ≠ [])
    (kind : Kind) (target : Path) (backup : Bool) (count : Int) (scan : Scan) (space : Workspace) :
    (∃ after, (extractInto scheme path kind target backup count).ends space = (.ok scan, after)) ↔
      space.disk.Scans scheme path kind count scan ∧
        (scan.entries = [] ∨
          ∃ a : Attempt space.disk scheme path kind target count, a.Succeeds backup) := by
  constructor
  · rintro ⟨after, h⟩
    refine ⟨scans_of_extractInto h, ?_⟩
    rcases extractInto_ends scheme hext kind target backup count space with
      ⟨-, result, mid, hresult, -, hempty⟩ | ⟨a, result, mid, hresult, hending⟩
    · cases hresult.symm.trans h
      exact .inl (hempty scan rfl).1
    · cases hresult.symm.trans h
      refine .inr ⟨a, hending.ok_iff.mp ?_⟩
      rw [(scans_of_extractInto h).unique a.scans]
  · rintro ⟨hscans, hnil | ⟨a, hsucceeds⟩⟩
    · exact extractInto_of_nil target backup hscans hnil
    · rcases extractInto_ends scheme hext kind target backup count space with
        ⟨hnone, -⟩ | ⟨a', result, mid, hresult, hending⟩
      · exact absurd ⟨a⟩ hnone
      -- There is one attempt only, so the one that ended is the one that succeeds.
      · obtain rfl := a.eq a'
        rw [hending.ok_iff.mpr hsucceeds, a.scans.unique hscans] at hresult
        exact ⟨mid, hresult⟩

end Job

/-! ### Extraction from a file -/

/-- All that it takes for `extractFile` to find the `scan` and write it. -/
def Extractable (disk : Disk) (options : Options) (path : Path) (count : Int) (scan : Scan) : Prop :=
  ∃ kind scheme, path.kind? = some kind ∧
    NameScheme.build options.stem options.ending options.accessor = .ok scheme ∧
    disk.Scans scheme path kind count scan ∧
    (scan.entries = [] ∨ ∃ a : Attempt disk scheme path kind (Job.targetFor options path) count,
      a.Succeeds options.backup)

namespace Job

variable {options : Options} {path : Path} {counter : Counter} {space after : Workspace}
  {outcome : FileOutcome}

theorem concluded_ok (path target : Path) (count : Int) (scan : Scan) :
    concluded path target count (.ok scan)
      = { result := if scan.entries.isEmpty then .noStrings path scan else .extracted path target scan
          count := scan.count } := by
  unfold concluded
  dsimp only
  split <;> rfl

theorem scan?_concluded_ok (path target : Path) (count : Int) (scan : Scan) :
    (concluded path target count (.ok scan)).result.scan? = some scan := by
  rw [concluded_ok]
  dsimp only
  split <;> rfl

theorem of_scan?_concluded {target : Path} {count : Int} {settled : Except Problem Scan} {scan : Scan}
    (h : (concluded path target count settled).result.scan? = some scan) : settled = .ok scan := by
  cases settled with
  | error problem => cases problem <;> cases h
  | ok found => exact congrArg _ (Option.some.inj ((scan?_concluded_ok _ _ _ found).symm.trans h))

/-- `extractFile` whose outcome has a `scan?` was of a file that is `Extractable`. -/
theorem extractable_of_scan? {scan : Scan} (hscan : outcome.result.scan? = some scan)
    (h : (extractFile options (some path) counter).ends space = (.ok outcome, after)) :
    outcome = concluded path (targetFor options path) counter.start (.ok scan) ∧
      Extractable space.disk options path counter.start scan := by
  rcases extractFile_cases options path counter space with ⟨kind, hoffers⟩ | ⟨hzero, hlong⟩ |
    ⟨-, -, result, told, hends, -, -, hnone⟩
  · rw [extractFile_of_offers hoffers] at h
    have hext := Path.extension_ne_nil hoffers.recognised
    obtain ⟨settled, mid, hsettled, rfl, -⟩ := extractSource_ends (Path.name_ne_nil hext) h
    obtain rfl := of_scan?_concluded hscan
    cases hbuild : NameScheme.build options.stem options.ending options.accessor with
    | error refused => cases (settling_of_refused hbuild).symm.trans hsettled
    | ok scheme =>
      rw [settling_of_build hbuild] at hsettled
      obtain ⟨hscans, hwritten⟩ :=
        (extractInto_ok_iff scheme hext kind _ _ _ scan space).mp ⟨mid, hsettled⟩
      exact ⟨rfl, kind, scheme, hoffers.recognised, hbuild, hscans, hwritten⟩
  · cases (extractFile_of_tooLong hzero hlong).symm.trans h
  · cases hends.symm.trans h
    cases hnone.symm.trans hscan

/-- `extractFile` of a file that is `Extractable` gives the outcome `concluded` of the scan. -/
theorem extractFile_of_extractable {scan : Scan}
    (h : Extractable space.disk options path counter.start scan) :
    ∃ after, (extractFile options (some path) counter).ends space
      = (.ok (concluded path (targetFor options path) counter.start (.ok scan)), after) := by
  obtain ⟨kind, scheme, hkind, hbuild, hscans, hwritten⟩ := h
  have hext := Path.extension_ne_nil hkind
  obtain ⟨mid, hinner⟩ := (extractInto_ok_iff scheme hext kind _ _ _ scan space).mpr ⟨hscans, hwritten⟩
  have hsettled : (settling options path kind counter.start).ends space
      = ((.ok scan : Except Problem Scan).mapError .problem, mid) :=
    (settling_of_build hbuild).trans hinner
  obtain ⟨after, hafter, -⟩ := extractSource_of_settled (Path.name_ne_nil hext) hsettled
  obtain ⟨hzero, octets, text, hread, -⟩ := hscans
  exact ⟨after, (extractFile_of_offers (.of_read hzero hread hkind)).trans hafter⟩

/-- `extractFile` that found no entries has changed nothing, and any other that ends well has the
`Ending` of a `Trial`. -/
theorem extractFile_written {scan : Scan}
    (h : (extractFile options (some path) counter).ends space
      = (.ok (concluded path (targetFor options path) counter.start (.ok scan)), after)) :
    (scan.entries = [] ∧ after.disk = space.disk) ∨
      scan.entries ≠ [] ∧ ∃ t : Trial space.disk options (some path) counter.start,
        t.attempt.Ending options.backup (.ok t.attempt.scan) after.disk := by
  rcases extractFile_ends h with ⟨-, hdisk, -, hstatus⟩ | ⟨t, ⟨cause, hfailed, -⟩ | ⟨hextracted, hending⟩⟩
  · refine .inl ⟨?_, hdisk⟩
    rw [concluded_ok] at hstatus
    cases hempty : scan.entries.isEmpty with
    | true => exact List.isEmpty_iff.mp hempty
    | false => simp [hempty, FileResult.status] at hstatus
  · have hscan := scan?_concluded_ok path (targetFor options path) counter.start scan
    rw [hfailed] at hscan
    cases hscan
  · refine .inr ⟨?_, t, hending⟩
    have hscan := scan?_concluded_ok path (targetFor options path) counter.start scan
    rw [hextracted] at hscan
    rw [← Option.some.inj hscan]
    exact t.attempt.found

end Job

end Externalize
