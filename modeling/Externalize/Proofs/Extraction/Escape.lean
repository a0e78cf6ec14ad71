import Externalize.Proofs.Extraction.Success

/-!
# `Externalize.Proofs.Extraction.Escape`: the faults that no outcome tells of

An extraction reports what goes wrong as its outcome, but not all of it. Its first look, whether the
file is there, comes before anything is caught. After that only trouble from outside and problems are
caught. So a count that is out of reach of the templates escapes, and a character zero in the path of
the target does, if there is something to write. `Escapes` lists these faults, and
`extractFile_outcome_iff` says that there are no others: an extraction ends with one of them, or it has
an outcome.
-/

set_option autoImplicit false

namespace Externalize

/-! ### Extraction into a target -/

/-- A fault that `extractInto` lets through, from the source `path` into the `target`. -/
inductive EscapesFrom (disk : Disk) (scheme : NameScheme) (path : Path) (kind : Kind) (target : Path)
    (count : Int) : Fault → Prop
  /-- A count is out of reach of the templates. -/
  | naming {octets : Octets} {text : Text} {overflow : Template.Overflow}
      (read : disk.read path = .ok octets) (decoded : Utf8.decode octets = .ok text)
      (named : scan scheme kind text count = .error (.outOfReach overflow)) :
      EscapesFrom disk scheme path kind target count (.outOfReach overflow)
  /-- There is something to write, and no disk can have the target. -/
  | target {octets : Octets} {text : Text} {result : Scan} (read : disk.read path = .ok octets)
      (decoded : Utf8.decode octets = .ok text) (scanned : scan scheme kind text count = .ok result)
      (found : result.entries ≠ []) (zero : Job.HasZero target) :
      EscapesFrom disk scheme path kind target count .zeroInPath

/-- A fault that `extractFile` lets through. -/
inductive Escapes (disk : Disk) (options : Options) (count : Int) : Option Path → Fault → Prop
  /-- The look whether the file is there is refused. -/
  | input {path : Path} (noZero : ¬Job.HasZero path)
      (refused : disk.find path = .error .nameTooLong) :
      Escapes disk options count (some path)
        (.interruption (.disk { refusal := .nameTooLong, path }))
  /-- The count zero is out of reach of the templates. -/
  | templates {path : Path} {kind : Kind} {location : Location} {node : Node}
      {overflow : Template.Overflow} (noZero : ¬Job.HasZero path)
      (found : disk.find path = .ok (location, node)) (file : node ≠ .folder)
      (recognised : path.kind? = some kind)
      (refused : NameScheme.build options.stem options.ending options.accessor
        = .error (.outOfReach overflow)) :
      Escapes disk options count (some path) (.outOfReach overflow)
  | source {path : Path} {kind : Kind} {scheme : NameScheme} {fault : Fault}
      (noZero : ¬Job.HasZero path) (recognised : path.kind? = some kind)
      (built : NameScheme.build options.stem options.ending options.accessor = .ok scheme)
      (escapes : EscapesFrom disk scheme path kind (Job.targetFor options path) count fault) :
      Escapes disk options count (some path) fault

theorem EscapesFrom.exists_read {disk : Disk} {scheme : NameScheme} {path : Path} {kind : Kind}
    {target : Path} {count : Int} {fault : Fault}
    (h : EscapesFrom disk scheme path kind target count fault) :
    ∃ octets, disk.read path = .ok octets := by
  cases h with
  | naming hread => exact ⟨_, hread⟩
  | target hread => exact ⟨_, hread⟩

/-- `EscapesFrom` for a source that holds text is decided by the `scan` of the text. -/
theorem escapesFrom_iff {disk : Disk} {scheme : NameScheme} {path : Path} {kind : Kind} {target : Path}
    {count : Int} {octets : Octets} {text : Text} {fault : Fault}
    (hread : disk.read path = .ok octets) (hdecode : Utf8.decode octets = .ok text) :
    EscapesFrom disk scheme path kind target count fault ↔
      (∃ overflow, scan scheme kind text count = .error (.outOfReach overflow) ∧
        fault = .outOfReach overflow) ∨
      ∃ result, scan scheme kind text count = .ok result ∧ result.entries ≠ [] ∧
        Job.HasZero target ∧ fault = .zeroInPath := by
  constructor
  · rintro (⟨hread', hdecode', hnamed⟩ | ⟨hread', hdecode', hscanned, hfound, hzero⟩)
    · obtain rfl := Except.ok.inj (hread.symm.trans hread')
      obtain rfl := Except.ok.inj (hdecode.symm.trans hdecode')
      exact .inl ⟨_, hnamed, rfl⟩
    · obtain rfl := Except.ok.inj (hread.symm.trans hread')
      obtain rfl := Except.ok.inj (hdecode.symm.trans hdecode')
      exact .inr ⟨_, hscanned, hfound, hzero, rfl⟩
  · rintro (⟨overflow, hnamed, rfl⟩ | ⟨result, hscanned, hfound, hzero, rfl⟩)
    · exact .naming hread hdecode hnamed
    · exact .target hread hdecode hscanned hfound hzero

namespace Job

section
variable {α : Type} {job : Job α} {space after : Workspace} {fault thrown : Fault}

/-- The job `ends` with the fault, and that is no `problem`. -/
def LetsThrough (job : Job α) (space : Workspace) (fault : Fault) : Prop :=
  (∃ after, job.ends space = (.error fault, after)) ∧ ∀ problem, fault ≠ .problem problem

theorem not_letsThrough_of_ok {a : α} (h : job.ends space = (.ok a, after)) :
    ¬LetsThrough job space fault := by
  simp [LetsThrough, h]

theorem not_letsThrough_of_problem {problem : Problem}
    (h : job.ends space = (.error (.problem problem), after)) : ¬LetsThrough job space fault := by
  rintro ⟨⟨after, hafter⟩, hproblem⟩
  rw [h] at hafter
  cases hafter
  exact hproblem problem rfl

theorem letsThrough_iff_of_error (h : job.ends space = (.error thrown, after))
    (hthrown : ∀ problem, thrown ≠ .problem problem) :
    LetsThrough job space fault ↔ fault = thrown := by
  constructor
  · rintro ⟨⟨after, hafter⟩, -⟩
    rw [h] at hafter
    cases hafter
    rfl
  · rintro rfl
    exact ⟨⟨after, h⟩, hthrown⟩

/-- `reported` lets no fault through that `IsReported`. -/
theorem not_letsThrough_reported (h : job.ends space = (.error thrown, after))
    (hreported : thrown.IsReported) : ¬LetsThrough (reported job) space fault := by
  cases thrown with
  | interruption cause => exact not_letsThrough_of_problem (reported_interruption h)
  | problem problem =>
    have hproblem : (reported job).ends space = (.error (.problem problem), after) := by
      rw [reported, ends_tryCatch, h]
      rfl
    exact not_letsThrough_of_problem hproblem
  | _ => cases hreported

/-- `reported` lets any other fault through. -/
theorem letsThrough_reported_iff (h : job.ends space = (.error thrown, after))
    (hreported : ¬thrown.IsReported) : LetsThrough (reported job) space fault ↔ fault = thrown := by
  have hgoes : (reported job).ends space = (.error thrown, after) := by
    rw [reported, ends_tryCatch, h]
    cases thrown with
    | interruption cause => exact absurd trivial hreported
    | problem problem => exact absurd trivial hreported
    | _ => rfl
  refine letsThrough_iff_of_error hgoes fun problem hproblem => hreported ?_
  rw [hproblem]
  trivial

end

variable {options : Options} {path : Path} {kind : Kind} {count : Int} {space : Workspace}
  {fault : Fault}

/-- `writeAll` lets `zeroInPath` through, where the target `HasZero`, and nothing else. -/
theorem letsThrough_writeAll_iff {scheme : NameScheme} {target : Path} {backup : Bool}
    {octets : Octets} {text : Text} {result : Scan} {job : Job Scan} {mid : Workspace}
    (hext : path.extension ≠ []) (hzero : ¬HasZero path) (hread : space.disk.read path = .ok octets)
    (hdecode : Utf8.decode octets = .ok text) (hscan : scan scheme kind text count = .ok result)
    (hfound : result.entries ≠ []) (hdisk : mid.disk = space.disk)
    (hends : job.ends space = (writeAll scheme path kind target backup text result).ends mid) :
    LetsThrough (reported job) space fault ↔ HasZero target ∧ fault = .zeroInPath := by
  by_cases hopens : ∃ place previous, space.disk.Opens target place previous
  · obtain ⟨place, previous, hopens⟩ := hopens
    refine iff_of_false ?_ fun h => hopens.noZero h.1
    obtain ⟨a, rfl, rfl⟩ := exists_attempt hext hzero hread hdecode hscan hfound hopens
    obtain ⟨ended, after, hended, ⟨cause, rfl, -⟩ | ⟨rfl, -⟩⟩ := writeAll_ends a backup hdisk
    · exact not_letsThrough_reported (hends.trans hended) trivial
    · exact not_letsThrough_of_ok (reported_ok (hends.trans hended))
  -- A target that does not open is refused for a zero, or for what is reported.
  · rw [← hdisk] at hopens
    obtain ⟨refused, hrefused, hclosed⟩ :=
      writeAll_closed scheme path kind backup text result hopens
    by_cases htarget : HasZero target
    · rw [RefusedFor, if_pos htarget] at hrefused
      subst hrefused
      rw [letsThrough_reported_iff (hends.trans hclosed) not_false, and_iff_right htarget]
    · rw [RefusedFor, if_neg htarget] at hrefused
      exact iff_of_false (not_letsThrough_reported (hends.trans hclosed) hrefused)
        fun h => htarget h.1

theorem letsThrough_extractInto_iff (scheme : NameScheme) (hext : path.extension ≠ []) (kind : Kind)
    (target : Path) (backup : Bool) (count : Int) (hzero : ¬HasZero path) :
    LetsThrough (extractInto scheme path kind target backup count) space fault ↔
      EscapesFrom space.disk scheme path kind target count fault := by
  rw [extractInto_eq]
  rcases preparing_cases scheme kind count (writeAll scheme path kind target backup) space hzero with
    ⟨cause, hends, hnot⟩ | ⟨octets, text, mid, hread, hdecode, hdisk, hends⟩
  · refine iff_of_false (not_letsThrough_reported hends trivial) ?_
    rintro (⟨hread, hdecode, -⟩ | ⟨hread, hdecode, -⟩) <;> exact hnot _ _ hread hdecode
  -- From here on the source holds text, and its scan decides.
  rw [escapesFrom_iff hread hdecode]
  match hscan : scan scheme kind text count with
  | .error (.badTemplates stem ending cause) =>
    rw [hscan] at hends
    exact iff_of_false (not_letsThrough_reported hends trivial) (by simp)
  | .error (.outOfReach overflow) =>
    rw [hscan] at hends
    rw [letsThrough_reported_iff hends not_false]
    simp [NameFault.toFault]
  | .ok result =>
    rw [hscan] at hends
    dsimp only at hends
    by_cases hfound : result.entries = []
    · rw [if_pos (by simp [hfound])] at hends
      exact iff_of_false (not_letsThrough_of_ok (reported_ok hends)) (by simp [hfound])
    · rw [if_neg (by simp [hfound])] at hends
      rw [letsThrough_writeAll_iff hext hzero hread hdecode hscan hfound hdisk hends]
      simp [hfound]

/-! ### Extraction from a file -/

/-- `extractSource` lets through what `settling` lets through. -/
theorem extractSource_error_iff (hname : path.name ≠ []) :
    (∃ after, (extractSource options path kind count).ends space = (.error fault, after)) ↔
      LetsThrough (settling options path kind count) space fault := by
  constructor
  · rintro ⟨after, hafter⟩
    obtain ⟨hproblem, hfault⟩ := extractSource_fault hname hafter
    exact ⟨⟨after, hfault⟩, hproblem⟩
  · rintro ⟨⟨after, hfault⟩, hproblem⟩
    exact ⟨after, extractSource_of_fault hname hproblem hfault⟩

end Job

section
variable {disk : Disk} {options : Options} {path : Path} {count : Int} {fault : Fault}

/-- `Escapes` holds only for a file that the disk `Offers`, or for a path that is too long. -/
theorem Escapes.tried (h : Escapes disk options count (some path) fault) :
    (∃ kind, disk.Offers path kind) ∨
      ¬Job.HasZero path ∧ disk.find path = .error .nameTooLong := by
  cases h with
  | input hzero hrefused => exact .inr ⟨hzero, hrefused⟩
  | templates hzero hfound hfile hkind => exact .inl ⟨_, hzero, ⟨_, _, hfound, hfile⟩, hkind⟩
  | source hzero hkind _ hescapes =>
    obtain ⟨octets, hread⟩ := hescapes.exists_read
    exact .inl ⟨_, .of_read hzero hread hkind⟩

end

namespace Job

variable {options : Options} {path : Path} {kind : Kind} {count : Int} {counter : Counter}
  {space : Workspace} {fault : Fault}

theorem extractSource_error_iff_escapes (hoffers : space.disk.Offers path kind) :
    (∃ after, (extractSource options path kind count).ends space = (.error fault, after)) ↔
      Escapes space.disk options count (some path) fault := by
  obtain ⟨hzero, ⟨location, node, hfind, hnode⟩, hkind⟩ := hoffers
  have hext := Path.extension_ne_nil hkind
  rw [extractSource_error_iff (Path.name_ne_nil hext)]
  -- Bad templates are reported, and only what is `outOfReach` is let through.
  match hbuild : NameScheme.build options.stem options.ending options.accessor with
  | .error (.badTemplates stem ending cause) =>
    refine iff_of_false (not_letsThrough_of_problem (settling_of_refused hbuild)) ?_
    rintro (⟨-, hrefused⟩ | ⟨-, -, -, -, hrefused⟩ | ⟨-, -, hbuilt⟩) <;> simp_all
  | .error (.outOfReach overflow) =>
    rw [letsThrough_iff_of_error (settling_of_refused hbuild) (by simp [NameFault.toFault])]
    constructor
    · rintro rfl
      exact .templates hzero hfind hnode hkind hbuild
    · rintro (⟨-, hrefused⟩ | ⟨-, -, -, -, hrefused⟩ | ⟨-, -, hbuilt⟩) <;>
        simp_all [NameFault.toFault]
  | .ok scheme =>
    rw [LetsThrough, settling_of_build hbuild, ← LetsThrough,
      letsThrough_extractInto_iff scheme hext kind _ _ _ hzero]
    constructor
    · exact .source hzero hkind hbuild
    · rintro (⟨-, hrefused⟩ | ⟨-, -, -, -, hrefused⟩ | ⟨-, hkind', hbuilt, hescapes⟩)
      · simp [hfind] at hrefused
      · simp [hbuild] at hrefused
      · obtain rfl := Option.some.inj (hkind.symm.trans hkind')
        obtain rfl := Except.ok.inj (hbuild.symm.trans hbuilt)
        exact hescapes

/-- `Escapes` for a path that is too long: `nameTooLong`, and nothing else. -/
theorem escapes_of_tooLong_iff {disk : Disk} (hzero : ¬HasZero path)
    (hfind : disk.find path = .error .nameTooLong) :
    Escapes disk options count (some path) fault ↔
      fault = .interruption (.disk { refusal := .nameTooLong, path }) := by
  constructor
  · rintro (- | ⟨-, hfound⟩ | ⟨hzero, hkind, -, hescapes⟩)
    · rfl
    · simp [hfind] at hfound
    · obtain ⟨octets, hread⟩ := hescapes.exists_read
      obtain ⟨location, node, hfound, -⟩ := (Disk.Offers.of_read hzero hread hkind).found
      simp [hfind] at hfound
  · rintro rfl
    exact .input hzero hfind

/-- `extractFile` ends with a fault exactly if the fault `Escapes`. -/
theorem extractFile_error_iff {path? : Option Path} :
    (∃ after, (extractFile options path? counter).ends space = (.error fault, after)) ↔
      Escapes space.disk options counter.start path? fault := by
  cases path? with
  | none =>
    refine iff_of_false ?_ (by rintro ⟨⟩)
    rintro ⟨after, ⟨⟩⟩
  | some path =>
    rcases extractFile_cases options path counter space with ⟨kind, hoffers⟩ | ⟨hzero, hlong⟩ |
      ⟨hnone, hshort, result, told, hends, -⟩
    · rw [extractFile_of_offers hoffers]
      exact extractSource_error_iff_escapes hoffers
    · rw [extractFile_of_tooLong hzero hlong, escapes_of_tooLong_iff hzero hlong]
      simp [eq_comm]
    · refine iff_of_false (by simp [hends]) fun h => ?_
      exact h.tried.elim (fun ⟨kind, hoffers⟩ => hnone kind hoffers) hshort

end Job

/-- `problem?` is `none` exactly for the results `extracted`, `no-strings` and `unsupported`. -/
theorem FileResult.problem?_eq_none_iff (result : FileResult) :
    result.problem? = none ↔ result.status ∈ ["extracted", "no-strings", "unsupported"] := by
  cases result <;> simp [problem?, status]

/-- `extractFile` has an outcome exactly if no fault `Escapes`, and it ends with a fault exactly if that
fault `Escapes`. The `problem?` of an outcome is `none` exactly if its `status` is `extracted`,
`no-strings` or `unsupported`. -/
theorem extractFile_outcome_iff (options : Options) (path? : Option Path) (counter : Counter)
    (space : Workspace) :
    ((∃ outcome after,
        (Job.extractFile options path? counter).ends space = (.ok outcome, after)) ↔
      ∀ fault, ¬Escapes space.disk options counter.start path? fault) ∧
    (∀ fault,
      (∃ after, (Job.extractFile options path? counter).ends space = (.error fault, after)) ↔
        Escapes space.disk options counter.start path? fault) ∧
    ∀ outcome after, (Job.extractFile options path? counter).ends space = (.ok outcome, after) →
      (outcome.result.problem? = none ↔
        outcome.result.status ∈ ["extracted", "no-strings", "unsupported"]) := by
  refine ⟨?_, fun fault => Job.extractFile_error_iff, fun outcome _ _ =>
    outcome.result.problem?_eq_none_iff⟩
  simp only [← Job.extractFile_error_iff]
  generalize (Job.extractFile options path? counter).ends space = ended
  obtain ⟨result, after⟩ := ended
  cases result <;> simp

/-- `extractFile_outcome_iff` at a target that is a folder: the outcome reports it, and nothing
`Escapes`. -/
theorem extractFile_outcome_iff_folder_target :
    let source : Path := { names := ["A.java".toList] }
    let options : Options := { target := some { names := ["res".toList] } }
    let space := sourceBeside [] [(["res".toList], .folder)]
    ∃ outcome after,
      (Job.extractFile options (some source) .fresh).ends space = (.ok outcome, after) ∧
      outcome.result.status = "invalid-target" ∧ outcome.result.problem? ≠ none ∧
      ∀ fault, ¬Escapes space.disk options Counter.fresh.start (some source) fault := by
  intro source options space
  obtain ⟨outcome, hends, hstatus⟩ :
      ∃ outcome, (Job.extractFile options (some source) .fresh).ends space
        = (.ok outcome, ((Job.extractFile options (some source) .fresh).ends space).2) ∧
      outcome.result.status = "invalid-target" := Job.exists_ends_of_map (by decide +kernel)
  obtain ⟨houtcome, -, hproblem⟩ := extractFile_outcome_iff options (some source) .fresh space
  refine ⟨outcome, _, hends, hstatus, ?_, houtcome.mp ⟨outcome, _, hends⟩⟩
  rw [ne_eq, hproblem outcome _ hends, hstatus]
  decide

/-- `extractFile` ends without an outcome at a target that `HasZero`. -/
theorem extractFile_zero_in_target :
    let source : Path := { names := ["A.java".toList] }
    let options : Options := { target := some { names := ["t\x00.xml".toList] } }
    ∃ after, (Job.extractFile options (some source) .fresh).ends (sourceBeside [] [])
      = (.error .zeroInPath, after) :=
  Job.exists_ends_of_fault? (by decide +kernel)

end Externalize
