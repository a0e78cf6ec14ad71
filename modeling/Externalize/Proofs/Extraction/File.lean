import Externalize.Proofs.Extraction.Attempt

/-!
# `Externalize.Proofs.Extraction.File`: what extraction from one file leaves behind

`extractFile_cases` says what can become of a path: a source that the disk `Offers` is tried, the look
at the path is refused, or the path is passed over. `extractSource_cases` says how a try ends: with an
outcome that tells how it went, or with a fault that is no problem.

A `Trial` is an attempt on the file that is given, with the options that are given.
`extractFile_ends` says that without a trial the disk stays as it is, and that with one the outcome
tells how the attempt ended. `extractFile_disk` says so of the disk where there is no outcome, too.

`extractFile_unchanged_iff` is the main theorem: an extraction whose outcome is not that something was
extracted leaves every location as it was, unless it is `Stranded`. It is stranded if the entries
cannot be stored, or if the accessor class is refused after all else is written: of the steps that
can be refused only the backup is followed by putting the resource file back.
-/

set_option autoImplicit false

namespace Externalize

open Disk (Wrote SameFolders)

/-! ### The outcome of an extraction -/

theorem FileResult.status_eq_extracted_iff {result : FileResult} :
    result.status = "extracted" ↔ ∃ path target scan, result = .extracted path target scan := by
  cases result <;> simp [status]

namespace Job

/-- The resource file that `extractFile` writes for a source with a name. -/
def targetFor (options : Options) (path : Path) : Path :=
  options.target.getD (path.parent.child (path.name ++ targetEnding))

theorem targetOf_eq (options : Options) {path : Path} (hname : path.name ≠ []) :
    targetOf options path = return targetFor options path := by
  have hempty : path.name.isEmpty = false := by simpa using hname
  unfold targetOf targetFor
  cases options.target with
  | some target => rfl
  | none => simp [extend, Path.extend?, hempty]

/-- The outcome that `extractSource` makes of the scan or of the problem. -/
def concluded (path target : Path) (count : Int) : Except Problem Scan → FileOutcome
  | .error (.notResource refused) => { result := .invalidTarget path refused, count }
  | .error problem => { result := .failed path target problem, count }
  | .ok scan =>
    if scan.entries.isEmpty then { result := .noStrings path scan, count := scan.count }
    else { result := .extracted path target scan, count := scan.count }

theorem concluded_error (path target : Path) (count : Int) (problem : Problem) :
    (concluded path target count (.error problem)).count = count ∧
      (concluded path target count (.error problem)).result.status ≠ "extracted" := by
  cases problem <;> exact ⟨rfl, by simp [concluded, FileResult.status]⟩

theorem schemeOf_ends (options : Options) (space : Workspace) :
    (schemeOf options).ends space
      = ((NameScheme.build options.stem options.ending options.accessor).mapError NameFault.toFault,
          space) := by
  unfold schemeOf
  cases NameScheme.build options.stem options.ending options.accessor <;> rfl

theorem conclude_ends (level : Level) (result : FileResult) (count : Int) (space : Workspace) :
    ∃ after, (conclude level result count).ends space = (.ok { result, count }, after) ∧
      after.disk = space.disk :=
  ⟨_, rfl, rfl⟩

/-- The part of `extractSource` whose problems become outcomes. -/
def settling (options : Options) (path : Path) (kind : Kind) (count : Int) : Job Scan := do
  extractInto (← schemeOf options) path kind (targetFor options path) options.backup count

section
variable {options : Options} {path : Path} {kind : Kind} {count : Int} {space after : Workspace}

theorem settling_of_build {scheme : NameScheme}
    (h : NameScheme.build options.stem options.ending options.accessor = .ok scheme) :
    (settling options path kind count).ends space
      = (extractInto scheme path kind (targetFor options path) options.backup count).ends space := by
  have hscheme := schemeOf_ends options space
  rw [h] at hscheme
  exact ends_bind_ok hscheme

theorem settling_of_refused {refused : NameFault}
    (h : NameScheme.build options.stem options.ending options.accessor = .error refused) :
    (settling options path kind count).ends space = (.error refused.toFault, space) := by
  have hscheme := schemeOf_ends options space
  rw [h] at hscheme
  exact ends_bind_error hscheme

/-- `extractSource` gives the outcome `concluded`, if `settling` ends well or with a problem. -/
theorem extractSource_of_settled {settled : Except Problem Scan} {mid : Workspace}
    (hname : path.name ≠ [])
    (hsettled : (settling options path kind count).ends space = (settled.mapError .problem, mid)) :
    ∃ after, (extractSource options path kind count).ends space
        = (.ok (concluded path (targetFor options path) count settled), after) ∧
      after.disk = mid.disk := by
  unfold settling at hsettled
  unfold extractSource
  rw [targetOf_eq options hname, pure_bind, ends_bind, ends_tryCatch, ← bind_assoc, ends_bind,
    hsettled]
  cases settled with
  -- A target that holds something else has an outcome of its own among the problems.
  | error problem => cases problem <;> exact conclude_ends _ _ _ _
  | ok scan =>
    show ∃ after, (if scan.entries.isEmpty then _ else _ : Job FileOutcome).ends mid = _ ∧ _
    cases hempty : scan.entries.isEmpty with
    | true =>
      simp only [concluded, hempty, if_true]
      exact conclude_ends _ _ _ _
    | false =>
      simp only [concluded, hempty, Bool.false_eq_true, if_false]
      exact conclude_ends _ _ _ _

/-- `extractSource` ends with any other fault that `settling` ends with. -/
theorem extractSource_of_fault {fault : Fault} (hname : path.name ≠ [])
    (hproblem : ∀ problem, fault ≠ .problem problem)
    (hfault : (settling options path kind count).ends space = (.error fault, after)) :
    (extractSource options path kind count).ends space = (.error fault, after) := by
  unfold settling at hfault
  unfold extractSource
  rw [targetOf_eq options hname, pure_bind, ends_bind, ends_tryCatch, ← bind_assoc, ends_bind, hfault]
  cases fault with
  | problem problem => exact absurd rfl (hproblem problem)
  | _ => rfl

/-- `extractSource` has two ends: the outcome `concluded`, or a fault of `settling` that is no problem. -/
theorem extractSource_cases (options : Options) (kind : Kind) (count : Int) (space : Workspace)
    (hname : path.name ≠ []) :
    (∃ settled mid after,
      (settling options path kind count).ends space = (settled.mapError .problem, mid) ∧
      (extractSource options path kind count).ends space
        = (.ok (concluded path (targetFor options path) count settled), after) ∧
      after.disk = mid.disk) ∨
    ∃ fault after, (∀ problem, fault ≠ .problem problem) ∧
      (settling options path kind count).ends space = (.error fault, after) ∧
      (extractSource options path kind count).ends space = (.error fault, after) := by
  cases hended : (settling options path kind count).ends space with
  | mk result mid =>
    -- `Except.mapError` does not give every fault: what it does not give is no problem.
    by_cases hsettled : ∃ settled : Except Problem Scan, result = settled.mapError .problem
    · obtain ⟨settled, rfl⟩ := hsettled
      obtain ⟨after, hafter, hdisk⟩ := extractSource_of_settled hname hended
      exact .inl ⟨settled, mid, after, rfl, hafter, hdisk⟩
    · cases result with
      | ok scan => exact absurd ⟨.ok scan, rfl⟩ hsettled
      | error fault =>
        have hproblem : ∀ problem, fault ≠ .problem problem := by
          rintro problem rfl
          exact hsettled ⟨.error problem, rfl⟩
        exact .inr ⟨fault, mid, hproblem, rfl, extractSource_of_fault hname hproblem hended⟩

/-- An outcome of `extractSource` is `concluded` from how `settling` ended. -/
theorem extractSource_ends {outcome : FileOutcome} (hname : path.name ≠ [])
    (h : (extractSource options path kind count).ends space = (.ok outcome, after)) :
    ∃ (settled : Except Problem Scan) (mid : Workspace),
      (settling options path kind count).ends space = (settled.mapError .problem, mid) ∧
      outcome = concluded path (targetFor options path) count settled ∧ after.disk = mid.disk := by
  rcases extractSource_cases options kind count space hname with
    ⟨settled, mid, after', hsettled, hends, hdisk⟩ | ⟨fault, after', -, -, hends⟩
  · cases hends.symm.trans h
    exact ⟨settled, mid, hsettled, rfl, hdisk⟩
  · cases hends.symm.trans h

/-- A fault of `extractSource` is a fault of `settling` that is no problem. -/
theorem extractSource_fault {fault : Fault} (hname : path.name ≠ [])
    (h : (extractSource options path kind count).ends space = (.error fault, after)) :
    (∀ problem, fault ≠ .problem problem) ∧
      (settling options path kind count).ends space = (.error fault, after) := by
  rcases extractSource_cases options kind count space hname with
    ⟨settled, mid, after', -, hends, -⟩ | ⟨fault', after', hproblem, hfault, hends⟩
  · cases hends.symm.trans h
  · cases hends.symm.trans h
    exact ⟨hproblem, hfault⟩

end

end Job

/-! ### Files that are tried -/

/-- `find` finds a file or a device at the path, and `kind?` of the path is `kind`. -/
structure Disk.Offers (disk : Disk) (path : Path) (kind : Kind) : Prop where
  noZero : ¬Job.HasZero path
  found : ∃ location node, disk.find path = .ok (location, node) ∧ node ≠ .folder
  recognised : path.kind? = some kind

/-- A disk `Offers` what it can `read`. -/
theorem Disk.Offers.of_read {disk : Disk} {path : Path} {kind : Kind} {octets : Octets}
    (hzero : ¬Job.HasZero path) (hread : disk.read path = .ok octets)
    (hkind : path.kind? = some kind) : disk.Offers path kind := by
  refine ⟨hzero, ?_, hkind⟩
  obtain ⟨location, hlocate, hfile | ⟨hdevice, -⟩⟩ := Disk.read_eq_ok_iff.mp hread
  · exact ⟨location, _, Disk.find_eq_ok_iff.mpr ⟨hlocate, hfile⟩, by simp⟩
  · exact ⟨location, _, Disk.find_eq_ok_iff.mpr ⟨hlocate, hdevice⟩, by simp⟩

namespace Job

section
variable {options : Options} {path : Path} {counter : Counter} {space : Workspace}

/-- `extractFile` of a path that the disk `Offers` is `extractSource`. -/
theorem extractFile_of_offers {kind : Kind} (h : space.disk.Offers path kind) :
    (extractFile options (some path) counter).ends space
      = (extractSource options path kind counter.start).ends space := by
  obtain ⟨hzero, ⟨location, node, hfind, hnode⟩, hkind⟩ := h
  have hlook := node?_of_find hzero hfind
  have hexists : (pathExists path).ends space = (.ok true, space) := ends_bind_ok hlook
  have hfolder : (isFolder path).ends space = (.ok false, space) := by
    rw [isFolder, ends_bind_ok hlook]
    simp [hnode]
  unfold extractFile
  rw [ends_bind_ok hexists]
  refine (ends_bind_ok hfolder).trans ?_
  rw [hkind]
  rfl

/-- `extractFile` does not catch that the path is too long. -/
theorem extractFile_of_tooLong (hzero : ¬HasZero path)
    (hfind : space.disk.find path = .error .nameTooLong) :
    (extractFile options (some path) counter).ends space
      = (.error (.interruption (.disk { refusal := .nameTooLong, path })), space) := by
  have hexists : (pathExists path).ends space
      = (.error (.interruption (.disk { refusal := .nameTooLong, path })), space) :=
    ends_bind_error (node?_of_tooLong hzero hfind)
  exact ends_bind_error hexists

/-- `extractFile` changes nothing and extracts nothing, and the outcome says so. -/
def PassesOver (options : Options) (path : Path) (counter : Counter) (space : Workspace) : Prop :=
  ∃ result after, (extractFile options (some path) counter).ends space
      = (.ok { result, count := counter.start }, after) ∧
    after.disk = space.disk ∧ result.status ≠ "extracted" ∧ result.scan? = none

/-- `extractFile` `PassesOver` a path at which no source file stands. -/
theorem passesOver {node : Option Node} (hlook : (node? path).ends space = (.ok node, space))
    (huntried : node = none ∨ node = some .folder ∨ path.kind? = none) :
    PassesOver options path counter space := by
  have hexists : (pathExists path).ends space = (.ok node.isSome, space) := ends_bind_ok hlook
  have hfolder : (isFolder path).ends space = (.ok (decide (node = some .folder)), space) :=
    ends_bind_ok hlook
  unfold PassesOver extractFile
  rw [ends_bind_ok hexists]
  cases node with
  | none => exact ⟨.notFound path, _, rfl, rfl, by simp [FileResult.status], rfl⟩
  | some node =>
    by_cases hnode : node = .folder
    · subst hnode
      exact ⟨.isFolder path, _, ends_bind_ok hfolder, rfl, by simp [FileResult.status], rfl⟩
    · have hkind : path.kind? = none := by simpa [hnode] using huntried
      obtain ⟨after, hafter, hdisk⟩ := conclude_ends .info (.unsupported path) counter.start space
      refine ⟨.unsupported path, after, ((ends_bind_ok hfolder).trans ?_).trans hafter, hdisk,
        by simp [FileResult.status], rfl⟩
      rw [if_neg (by simp [hnode]), hkind]

/-- `extractFile` has three cases: the disk `Offers` the path, `find` refuses it as too long, or
`extractFile` `PassesOver` it. -/
theorem extractFile_cases (options : Options) (path : Path) (counter : Counter) (space : Workspace) :
    (∃ kind, space.disk.Offers path kind) ∨
    (¬HasZero path ∧ space.disk.find path = .error .nameTooLong) ∨
    (∀ kind, ¬space.disk.Offers path kind) ∧
      ¬(¬HasZero path ∧ space.disk.find path = .error .nameTooLong) ∧
      PassesOver options path counter space := by
  -- A path with a character zero is never looked up, whatever the disk would say about it.
  by_cases hzero : HasZero path
  · exact .inr (.inr ⟨fun _ h => h.noZero hzero, fun h => h.1 hzero,
      passesOver (node?_of_zero hzero) (.inl rfl)⟩)
  cases hfind : space.disk.find path with
  | error refusal =>
    have hnone : ∀ kind, ¬space.disk.Offers path kind := by
      rintro kind ⟨-, ⟨location, node, hfound, -⟩, -⟩
      simp [hfind] at hfound
    by_cases hlong : refusal = .nameTooLong
    · exact .inr (.inl ⟨hzero, by rw [hlong]⟩)
    · exact .inr (.inr ⟨hnone, fun h => hlong (Except.error.inj h.2),
        passesOver (node?_of_lost hzero hfind hlong) (.inl rfl)⟩)
  | ok found =>
    obtain ⟨location, node⟩ := found
    by_cases htried : node ≠ .folder ∧ path.kind? ≠ none
    · obtain ⟨kind, hkind⟩ := Option.ne_none_iff_exists'.mp htried.2
      exact .inl ⟨kind, hzero, ⟨location, node, hfind, htried.1⟩, hkind⟩
    · have huntried : some node = none ∨ some node = some .folder ∨ path.kind? = none := by
        simpa [Decidable.or_iff_not_imp_left] using htried
      refine .inr (.inr ⟨?_, by simp, passesOver (node?_of_find hzero hfind) huntried⟩)
      rintro kind ⟨-, ⟨location', node', hfound, hfile⟩, hkind⟩
      rw [hfind] at hfound
      cases hfound
      exact htried ⟨hfile, by simp [hkind]⟩

end

end Job

/-! ### Trials -/

/-- An `Attempt` on the file that is given, under the scheme and with the target of the options. -/
structure Trial (disk : Disk) (options : Options) (path? : Option Path) (count : Int) where
  path : Path
  kind : Kind
  scheme : NameScheme
  given : path? = some path
  recognised : path.kind? = some kind
  built : NameScheme.build options.stem options.ending options.accessor = .ok scheme
  attempt : Attempt disk scheme path kind (Job.targetFor options path) count

namespace Trial

variable {disk : Disk} {options : Options} {path? : Option Path} {count : Int}

/-- There is at most one `Trial` for a disk, options, a file and a count. -/
theorem eq (t u : Trial disk options path? count) : t = u := by
  obtain ⟨path, kind, scheme, hgiven, hkind, hbuilt, a⟩ := t
  obtain ⟨path', kind', scheme', hgiven', hkind', hbuilt', b⟩ := u
  obtain rfl := Option.some.inj (hgiven'.symm.trans hgiven)
  obtain rfl := Option.some.inj (hkind'.symm.trans hkind)
  obtain rfl := Except.ok.inj (hbuilt'.symm.trans hbuilt)
  rw [a.eq b]

/-- What holds of some `Trial` holds of the one that there is. -/
theorem exists_iff (t : Trial disk options path? count)
    (said : Trial disk options path? count → Prop) : (∃ u, said u) ↔ said t :=
  ⟨fun ⟨u, hu⟩ => u.eq t ▸ hu, fun ht => ⟨t, ht⟩⟩

/-- A disk `Offers` the path of a `Trial`. -/
theorem offers {path : Path} (t : Trial disk options (some path) count) :
    ∃ kind, disk.Offers path kind := by
  obtain ⟨_, kind, scheme, ⟨⟩, hkind, hbuilt, a⟩ := t
  exact ⟨kind, a.source.noZero,
    ⟨_, _, Disk.find_eq_ok_iff.mpr ⟨a.source.locate, a.source.holds⟩, by simp⟩, hkind⟩

/-- The outcome of a trial: `attempt` has an `Ending`, and the outcome tells by its status and its count
whether that is `.ok`. -/
def Ending (t : Trial disk options path? count) (outcome : FileOutcome) (after : Disk) : Prop :=
  (∃ cause, outcome = { result := .failed t.path (Job.targetFor options t.path) (.interrupted cause)
                        count } ∧
    t.attempt.Ending options.backup (.error (.problem (.interrupted cause))) after) ∨
  (outcome = { result := .extracted t.path (Job.targetFor options t.path) t.attempt.scan
               count := t.attempt.scan.count } ∧
    t.attempt.Ending options.backup (.ok t.attempt.scan) after)

/-- The outcome `concluded` from an `Ending` of the attempt is the outcome of the trial. -/
theorem ending_concluded (t : Trial disk options path? count) {settled : Except Problem Scan}
    {after : Disk} (h : t.attempt.Ending options.backup (settled.mapError .problem) after) :
    t.Ending (Job.concluded t.path (Job.targetFor options t.path) count settled) after := by
  cases settled with
  | ok scan =>
    obtain hscan | ⟨cause, hcause⟩ := h.result_cases
    · obtain rfl : scan = t.attempt.scan := Except.ok.inj hscan
      have hfound : t.attempt.scan.entries.isEmpty = false := by simpa using t.attempt.found
      exact .inr ⟨by simp [Job.concluded, hfound], h⟩
    · cases hcause
  | error problem =>
    obtain hscan | ⟨cause, hcause⟩ := h.result_cases
    · cases hscan
    · cases hcause
      exact .inl ⟨cause, rfl, h⟩

end Trial

namespace Job

variable {options : Options} {path? : Option Path} {counter : Counter} {space after : Workspace}
  {outcome : FileOutcome}

/-- `extractSource` with an outcome has the `Ending` of a `Trial`, or there is none and nothing is
changed. -/
theorem extractSource_trial {path : Path} {kind : Kind} {count : Int}
    (hkind : path.kind? = some kind)
    (h : (extractSource options path kind count).ends space = (.ok outcome, after)) :
    (¬Nonempty (Trial space.disk options (some path) count) ∧ after.disk = space.disk ∧
      outcome.count = count ∧ outcome.result.status ≠ "extracted") ∨
    ∃ t : Trial space.disk options (some path) count, t.Ending outcome after.disk := by
  have hext := Path.extension_ne_nil hkind
  obtain ⟨settled, mid, hsettled, rfl, hdisk⟩ := extractSource_ends (Path.name_ne_nil hext) h
  cases hbuild : NameScheme.build options.stem options.ending options.accessor with
  | error refused =>
    have hnone : ¬Nonempty (Trial space.disk options (some path) count) := fun ⟨t⟩ =>
      absurd (hbuild.symm.trans t.built) (by simp)
    rw [settling_of_refused hbuild] at hsettled
    cases settled with
    | ok scan => cases hsettled
    | error problem =>
      obtain ⟨-, rfl⟩ := Prod.mk.inj hsettled
      exact .inl ⟨hnone, hdisk, concluded_error _ _ _ problem⟩
  | ok scheme =>
    rw [settling_of_build hbuild] at hsettled
    rcases extractInto_ends scheme hext kind (targetFor options path) options.backup count space
      with ⟨hnone, result, mid', hresult, hmid, hempty⟩ | ⟨a, result, mid', hresult, hending⟩
    · obtain ⟨rfl, rfl⟩ := Prod.mk.inj (hresult.symm.trans hsettled)
      -- A trial would be the attempt that there is none of, and an end without one has no entries.
      refine .inl ⟨fun ⟨t⟩ => hnone ⟨?_⟩, hdisk.trans hmid, ?_⟩
      · obtain ⟨path', kind', scheme', hgiven, hkind', hbuilt, a⟩ := t
        cases hgiven
        obtain rfl := Option.some.inj (hkind'.symm.trans hkind)
        obtain rfl := Except.ok.inj (hbuilt.symm.trans hbuild)
        exact a
      · cases settled with
        | error problem => exact concluded_error _ _ _ problem
        | ok scan =>
          obtain ⟨hentries, hcount⟩ := hempty scan rfl
          simp [concluded, hentries, hcount, FileResult.status]
    · obtain ⟨rfl, rfl⟩ := Prod.mk.inj (hresult.symm.trans hsettled)
      rw [← hdisk] at hending
      exact .inr ⟨⟨path, kind, scheme, rfl, hkind, hbuild, a⟩, Trial.ending_concluded _ hending⟩

/-- `extractFile` with an outcome has the `Ending` of a `Trial`. If there is none, nothing is changed,
nothing is extracted and no count is used up. -/
theorem extractFile_ends
    (h : (extractFile options path? counter).ends space = (.ok outcome, after)) :
    (¬Nonempty (Trial space.disk options path? counter.start) ∧ after.disk = space.disk ∧
      outcome.count = counter.start ∧ outcome.result.status ≠ "extracted") ∨
    ∃ t : Trial space.disk options path? counter.start, t.Ending outcome after.disk := by
  cases path? with
  | none =>
    cases h
    exact .inl ⟨fun ⟨t⟩ => by simpa using t.given, rfl, rfl, by simp [FileResult.status]⟩
  | some path =>
    rcases extractFile_cases options path counter space with ⟨kind, hoffers⟩ | ⟨hzero, hlong⟩ |
      ⟨hnone, -, result, told, hends, hdisk, hstatus, -⟩
    · rw [extractFile_of_offers hoffers] at h
      exact extractSource_trial hoffers.recognised h
    · cases (extractFile_of_tooLong hzero hlong).symm.trans h
    · cases hends.symm.trans h
      exact .inl ⟨fun ⟨t⟩ => t.offers.elim hnone, hdisk, rfl, hstatus⟩

/-- `extractSource` that ends with a fault leaves the disk as it is. -/
theorem extractSource_fault_disk {path : Path} {kind : Kind} {count : Int} {fault : Fault}
    (hkind : path.kind? = some kind)
    (h : (extractSource options path kind count).ends space = (.error fault, after)) :
    after.disk = space.disk := by
  have hext := Path.extension_ne_nil hkind
  obtain ⟨hproblem, hfault⟩ := extractSource_fault (Path.name_ne_nil hext) h
  cases hbuild : NameScheme.build options.stem options.ending options.accessor with
  | error refused =>
    cases (settling_of_refused hbuild).symm.trans hfault
    rfl
  | ok scheme =>
    rw [settling_of_build hbuild] at hfault
    rcases extractInto_ends scheme hext kind (targetFor options path) options.backup count space
      with ⟨-, result, mid, hresult, hmid, -⟩ | ⟨a, result, mid, hresult, hending⟩
    · cases hresult.symm.trans hfault
      exact hmid
    · cases hresult.symm.trans hfault
      rcases hending.result_cases with hscan | ⟨cause, hcause⟩
      · cases hscan
      · exact absurd (Except.error.inj hcause) (hproblem _)

/-- `extractFile` that ends with a fault leaves the disk as it is. -/
theorem extractFile_fault {fault : Fault}
    (h : (extractFile options path? counter).ends space = (.error fault, after)) :
    after.disk = space.disk := by
  cases path? with
  | none => cases h
  | some path =>
    rcases extractFile_cases options path counter space with ⟨kind, hoffers⟩ | ⟨hzero, hlong⟩ |
      ⟨-, -, result, told, hends, -⟩
    · rw [extractFile_of_offers hoffers] at h
      exact extractSource_fault_disk hoffers.recognised h
    · cases (extractFile_of_tooLong hzero hlong).symm.trans h
      rfl
    · cases hends.symm.trans h

/-- `extractFile` leaves the disk as it was or as the `Ending` of a `Trial` left it, whatever its
result. -/
theorem extractFile_disk {result : Except Fault FileOutcome}
    (h : (extractFile options path? counter).ends space = (result, after)) :
    after.disk = space.disk ∨ ∃ (t : Trial space.disk options path? counter.start)
      (settled : Except Fault Scan), t.attempt.Ending options.backup settled after.disk := by
  cases result with
  | error fault => exact .inl (extractFile_fault h)
  | ok outcome =>
    rcases extractFile_ends h with ⟨-, hdisk, -⟩ | ⟨t, ⟨cause, -, hending⟩ | ⟨-, hending⟩⟩
    · exact .inl hdisk
    · exact .inr ⟨t, _, hending⟩
    · exact .inr ⟨t, _, hending⟩

end Job

/-! ### What a failed extraction leaves behind -/

/-- `extractFile` breaks off with something written: it comes to an attempt, and that `Strands`. -/
def Stranded (disk : Disk) (options : Options) (path? : Option Path) (count : Int) : Prop :=
  ∃ t : Trial disk options path? count, t.attempt.Strands options.backup

/-- Take a run of `extractFile` whose outcome does not have the status `extracted`. It leaves every
location as it was exactly if it is not `Stranded`, that is if it does not break off between the first and
the last of its writes with nothing to put them back. -/
theorem extractFile_unchanged_iff {options : Options} {path? : Option Path} {counter : Counter}
    {space after : Workspace} {outcome : FileOutcome}
    (h : (Job.extractFile options path? counter).ends space = (.ok outcome, after))
    (hstatus : outcome.result.status ≠ "extracted") :
    (∀ location, after.disk.get? location = space.disk.get? location) ↔
      ¬Stranded space.disk options path? counter.start := by
  rcases Job.extractFile_ends h with ⟨hnone, hdisk, -⟩ | ⟨t, ⟨cause, -, hending⟩ | ⟨rfl, -⟩⟩
  · exact iff_of_true (fun location => by rw [hdisk]) fun ⟨t, _⟩ => hnone ⟨t⟩
  · rw [Stranded, t.exists_iff]
    exact hending.same_iff
  · exact absurd rfl hstatus

/-- A workspace with a source of one literal and a resource file beside it. -/
def sourceBeside (resource : Octets) (rest : List (Location × Node)) : Workspace :=
  { disk :=
      { home := []
        nodes := (["A.java".toList], .file (Utf8.encode "x = \"Hello\";".toList))
          :: (["t.xml".toList], .file resource) :: rest } }

/-- `extractFile_unchanged_iff` at a backup that cannot be made: a folder stands in its place. -/
theorem extractFile_unchanged_refused_backup :
    let source : Path := { names := ["A.java".toList] }
    let options : Options := { target := some { names := ["t.xml".toList] }, backup := true }
    let space := sourceBeside (Utf8.encode "<resources><string name=\"a\">b</string>".toList)
      [(["A.java.backup".toList], .folder)]
    ∃ outcome after,
      (Job.extractFile options (some source) .fresh).ends space = (.ok outcome, after) ∧
      outcome.result.status = "failed" ∧
      ((∀ location, after.disk.get? location = space.disk.get? location) ↔
        ¬Stranded space.disk options (some source) Counter.fresh.start) := by
  intro source options space
  obtain ⟨outcome, hends, hstatus⟩ :
      ∃ outcome, (Job.extractFile options (some source) .fresh).ends space
        = (.ok outcome, ((Job.extractFile options (some source) .fresh).ends space).2) ∧
      outcome.result.status = "failed" := Job.exists_ends_of_map (by decide +kernel)
  exact ⟨outcome, _, hends, hstatus, extractFile_unchanged_iff hends (by simp [hstatus])⟩

/-- `extractFile` leaves the entry behind the octets of a resource file that is no text. -/
theorem extractFile_leaves_entry :
    let source : Path := { names := ["A.java".toList] }
    let options : Options := { target := some { names := ["t.xml".toList] } }
    let space := sourceBeside (Utf8.encode "<resources><string>".toList ++ [0xFF]) []
    ∃ outcome after,
      (Job.extractFile options (some source) .fresh).ends space = (.ok outcome, after) ∧
      outcome.result.status = "failed" ∧
      after.disk.get? ["t.xml".toList] = some (.file (Utf8.encode "<resources><string>".toList ++
        0xFF :: Utf8.encode
          "\r\n<string name=\"extracted_string1\">Hello</string>".toList)) := by
  intro source options space
  obtain ⟨outcome, hends, hstatus⟩ :
      ∃ outcome, (Job.extractFile options (some source) .fresh).ends space
        = (.ok outcome, ((Job.extractFile options (some source) .fresh).ends space).2) ∧
      outcome.result.status = "failed" := Job.exists_ends_of_map (by decide +kernel)
  exact ⟨outcome, _, hends, hstatus, by decide +kernel⟩

end Externalize
