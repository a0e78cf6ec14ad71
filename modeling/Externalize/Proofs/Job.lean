import Externalize.Job
import Externalize.Proofs.Disk

/-!
# `Externalize.Proofs.Job`: how jobs end

`Job.ends` runs a job on a workspace and gives its result and the workspace that is left. A chain of
jobs is taken apart by `ends_bind` and `ends_tryCatch`; what a single step does is one equation each,
from `ends_look` for everything that only reads to `ends_change` for everything that writes. The
journal is written and never read, so what follows is said of the disks alone.

What a job keeps of the disk whatever its result is said by `Job.Keeps`, with one lemma for each way
in which jobs are put together.
-/

set_option autoImplicit false

namespace Externalize.Job

variable {α β : Type}

/-- The result of a job on the workspace `space`, and the workspace that it leaves. -/
def ends (job : Job α) (space : Workspace) : Except Fault α × Workspace :=
  (ExceptT.run job).run space

/-! ### Jobs one after the other -/

@[simp]
theorem ends_pure (a : α) (space : Workspace) : (pure a : Job α).ends space = (.ok a, space) := rfl

@[simp]
theorem ends_throw (fault : Fault) (space : Workspace) :
    (throw fault : Job α).ends space = (.error fault, space) := rfl

theorem ends_bind (job : Job α) (next : α → Job β) (space : Workspace) :
    (job >>= next).ends space = match job.ends space with
      | (.ok a, mid) => (next a).ends mid
      | (.error fault, mid) => (.error fault, mid) := by
  unfold ends
  simp only [ExceptT.run_bind, StateT.run_bind]
  obtain ⟨result, mid⟩ : Except Fault α × Workspace := (ExceptT.run job).run space
  cases result <;> rfl

theorem ends_map (f : α → β) (job : Job α) (space : Workspace) :
    (f <$> job).ends space = match job.ends space with
      | (.ok a, mid) => (.ok (f a), mid)
      | (.error fault, mid) => (.error fault, mid) := by
  rw [map_eq_pure_bind, ends_bind]
  rfl

theorem ends_tryCatch (job : Job α) (handle : Fault → Job α) (space : Workspace) :
    (tryCatch job handle).ends space = match job.ends space with
      | (.ok a, mid) => (.ok a, mid)
      | (.error fault, mid) => (handle fault).ends mid := by
  show (ExceptT.run (ExceptT.tryCatch job handle)).run space = _
  unfold ends
  simp only [ExceptT.tryCatch, ExceptT.run_mk, StateT.run_bind]
  show (do let step ← (ExceptT.run job).run space; _) = _
  obtain ⟨result, mid⟩ : Except Fault α × Workspace := (ExceptT.run job).run space
  cases result <;> rfl

/-- `>>=` after a job that `ends` with `.ok a` is the job `next a`, on the workspace that the first one
left. -/
theorem ends_bind_ok {job : Job α} {next : α → Job β} {space mid : Workspace} {a : α}
    (h : job.ends space = (.ok a, mid)) : (job >>= next).ends space = (next a).ends mid := by
  rw [ends_bind, h]

/-- `>>=` after a job that `ends` with a fault ends with this fault, and `next` is not run. -/
theorem ends_bind_error {job : Job α} {next : α → Job β} {space mid : Workspace} {fault : Fault}
    (h : job.ends space = (.error fault, mid)) :
    (job >>= next).ends space = (.error fault, mid) := by
  rw [ends_bind, h]

/-- A `>>=` that `ends` well comes from two jobs that end well: the inverse of `ends_bind_ok`. -/
theorem of_ends_bind_ok {job : Job α} {next : α → Job β} {space after : Workspace} {b : β}
    (h : (job >>= next).ends space = (.ok b, after)) :
    ∃ a mid, job.ends space = (.ok a, mid) ∧ (next a).ends mid = (.ok b, after) := by
  rw [ends_bind] at h
  split at h
  · rename_i a mid hjob
    exact ⟨a, mid, hjob, h⟩
  · simp at h

/-- A `view` of the result that is `some b` comes from a job that `ends` well. The witnesses evaluate a
job by such a view. -/
theorem exists_ends_of_map {job : Job α} {space : Workspace} {view : α → β} {b : β}
    (h : (job.ends space).1.toOption.map view = some b) :
    ∃ a, job.ends space = (.ok a, (job.ends space).2) ∧ view a = b := by
  generalize job.ends space = ended at h ⊢
  obtain ⟨result, after⟩ := ended
  cases result with
  | error fault => cases h
  | ok a => exact ⟨a, rfl, Option.some.inj h⟩

/-- The fault that the job `ends` with, if it ends with one. -/
def fault? (job : Job α) (space : Workspace) : Option Fault :=
  match (job.ends space).1 with
  | .ok _ => none
  | .error fault => some fault

theorem exists_ends_of_fault? {job : Job α} {space : Workspace} {fault : Fault}
    (h : job.fault? space = some fault) : ∃ after, job.ends space = (.error fault, after) := by
  rw [fault?] at h
  generalize job.ends space = ended at h ⊢
  obtain ⟨result, after⟩ := ended
  cases result with
  | ok a => cases h
  | error thrown => exact ⟨after, by rw [Option.some.inj h]⟩

/-! ### Single steps -/

@[simp]
theorem ends_disk (space : Workspace) : disk.ends space = (.ok space.disk, space) := rfl

@[simp]
theorem ends_record (level : Level) (origin : Origin) (message : String) (space : Workspace) :
    (record level origin message).ends space
      = (.ok (), { space with journal := space.journal.push { level, origin, message } }) := rfl

/-- `record` ends well and leaves the disk as it is. -/
theorem record_ends (level : Level) (origin : Origin) (message : String) (space : Workspace) :
    ∃ after, (record level origin message).ends space = (.ok (), after) ∧
      after.disk = space.disk :=
  ⟨_, rfl, rfl⟩

/-- The path holds a zero character, so that `checkPath` refuses it. -/
def HasZero (path : Path) : Prop :=
  path.names.any (·.contains '\x00') = true

instance (path : Path) : Decidable (HasZero path) :=
  inferInstanceAs (Decidable (_ = true))

theorem ends_checkPath (path : Path) (space : Workspace) :
    (checkPath path).ends space = (if HasZero path then .error .zeroInPath else .ok (), space) := by
  unfold checkPath
  by_cases hzero : HasZero path
  · rw [if_pos hzero, if_pos (show _ = true from hzero)]
    rfl
  · rw [if_neg hzero, if_neg (show ¬_ = true from hzero)]
    rfl

/-- `look` changes nothing. Its result is what `ask` says about the disk, unless the path `HasZero`. -/
theorem ends_look (path : Path) (ask : Disk → Except Refusal α) (space : Workspace) :
    (look path ask).ends space =
      (if HasZero path then .error .zeroInPath
        else match ask space.disk with
          | .ok answer => .ok answer
          | .error refusal => .error (.interruption (.disk { refusal, path })), space) := by
  unfold look
  rw [ends_bind, ends_checkPath]
  by_cases hzero : HasZero path
  · simp [hzero]
  · simp only [hzero, if_false]
    rw [ends_bind_ok (ends_disk space)]
    cases ask space.disk <;> rfl

theorem ends_change (path : Path) (target : Option Path) (act : Disk → Except Refusal Disk)
    (space : Workspace) :
    (change path target act).ends space = match act space.disk with
      | .ok disk => (.ok (), { space with disk })
      | .error refusal => (.error (.interruption (.disk { refusal, path, target })), space) := by
  unfold change
  rw [ends_bind_ok (ends_disk space)]
  cases act space.disk <;> rfl

/-- `change` behind `checkPath`: the disk is what `act` makes of it, unless the path `HasZero` or `act`
refuses. -/
theorem ends_checked_change (path : Path) (target : Option Path)
    (act : Disk → Except Refusal Disk) (space : Workspace) :
    (checkPath path >>= fun _ => change path target act).ends space =
      if HasZero path then (.error .zeroInPath, space)
      else match act space.disk with
        | .ok disk => (.ok (), { space with disk })
        | .error refusal =>
          (.error (.interruption (.disk { refusal, path, target })), space) := by
  rw [ends_bind, ends_checkPath]
  by_cases hzero : HasZero path
  · simp [hzero]
  · simp only [hzero, if_false]
    exact ends_change path target act space

theorem ends_writeOctets (path : Path) (octets : Octets) (space : Workspace) :
    (writeOctets path octets).ends space =
      if HasZero path then (.error .zeroInPath, space)
      else match space.disk.write path octets with
        | .ok disk => (.ok (), { space with disk })
        | .error refusal => (.error (.interruption (.disk { refusal, path })), space) :=
  ends_checked_change path none _ space

theorem ends_appendOctets (path : Path) (octets : Octets) (space : Workspace) :
    (appendOctets path octets).ends space =
      if HasZero path then (.error .zeroInPath, space)
      else match space.disk.append path octets with
        | .ok disk => (.ok (), { space with disk })
        | .error refusal => (.error (.interruption (.disk { refusal, path })), space) :=
  ends_checked_change path none _ space

theorem ends_remove (path : Path) (space : Workspace) :
    (remove path).ends space =
      if HasZero path then (.error .zeroInPath, space)
      else match space.disk.remove path with
        | .ok disk => (.ok (), { space with disk })
        | .error refusal => (.error (.interruption (.disk { refusal, path })), space) :=
  ends_checked_change path none _ space

theorem ends_move (path target : Path) (space : Workspace) :
    (move path target).ends space =
      if HasZero path ∨ HasZero target then (.error .zeroInPath, space)
      else match space.disk.move path target with
        | .ok disk => (.ok (), { space with disk })
        | .error refusal =>
          (.error (.interruption (.disk { refusal, path, target := some target })), space) := by
  unfold move
  rw [ends_bind, ends_checkPath]
  by_cases hzero : HasZero path
  · simp [hzero]
  · simp only [hzero, if_false, false_or]
    rw [ends_bind, ends_checkPath]
    by_cases hzero' : HasZero target
    · simp [hzero']
    · simp only [hzero', if_false]
      exact ends_change path (some target) _ space

theorem ends_readOctets (path : Path) (space : Workspace) :
    (readOctets path).ends space =
      (if HasZero path then .error .zeroInPath
        else match space.disk.read path with
          | .ok octets => .ok octets
          | .error refusal => .error (.interruption (.disk { refusal, path })), space) := by
  unfold readOctets
  rw [ends_look]
  cases space.disk.read path <;> rfl

/-- `readText` gives the text that `Utf8.decode` makes of the file. Where there is no such text, it ends
with an interruption. It changes nothing. -/
theorem readText_ends {path : Path} (space : Workspace) (hzero : ¬HasZero path) :
    (∃ octets text, (readText path).ends space = (.ok text, space) ∧
        space.disk.read path = .ok octets ∧ Utf8.decode octets = .ok text) ∨
      ∃ cause, (readText path).ends space = (.error (.interruption cause), space) ∧
        ∀ octets text, space.disk.read path = .ok octets → Utf8.decode octets ≠ .ok text := by
  unfold readText
  rw [ends_bind, ends_readOctets, if_neg hzero]
  cases hread : space.disk.read path with
  | error refusal => exact Or.inr ⟨_, rfl, by simp⟩
  | ok octets =>
    cases hdecode : Utf8.decode octets with
    | ok text => exact Or.inl ⟨octets, text, by simp [hdecode], rfl, hdecode⟩
    | error bad =>
      refine Or.inr ⟨.octets bad, by simp [hdecode], ?_⟩
      rintro other text ⟨⟩
      simp [hdecode]

theorem ends_readLines (path : Path) (space : Workspace) :
    (readLines path).ends space = match (readText path).ends space with
      | (.ok text, after) => (.ok (Text.unifyBreaks text), after)
      | (.error fault, after) => (.error fault, after) := by
  unfold readLines
  rw [ends_bind]
  obtain ⟨result, after⟩ := (readText path).ends space
  cases result <;> rfl

/-- `node?` gives `none` for a path that `HasZero`. -/
theorem node?_of_zero {path : Path} {space : Workspace} (hzero : HasZero path) :
    (node? path).ends space = (.ok none, space) := by
  unfold node?
  rw [if_pos (show _ = true from hzero)]
  rfl

theorem node?_of_find {path : Path} {space : Workspace} {location : Location} {node : Node}
    (hzero : ¬HasZero path) (hfind : space.disk.find path = .ok (location, node)) :
    (node? path).ends space = (.ok (some node), space) := by
  unfold node?
  rw [if_neg (show ¬_ = true from hzero), ends_bind_ok (ends_disk space), hfind]
  rfl

/-- `node?` is interrupted where `find` refuses with `nameTooLong`; every other refusal is `none`. -/
theorem node?_of_tooLong {path : Path} {space : Workspace} (hzero : ¬HasZero path)
    (hfind : space.disk.find path = .error .nameTooLong) :
    (node? path).ends space
      = (.error (.interruption (.disk { refusal := .nameTooLong, path })), space) := by
  unfold node?
  rw [if_neg (show ¬_ = true from hzero), ends_bind_ok (ends_disk space), hfind]
  rfl

theorem node?_of_lost {path : Path} {space : Workspace} {refusal : Refusal} (hzero : ¬HasZero path)
    (hfind : space.disk.find path = .error refusal) (hshort : refusal ≠ .nameTooLong) :
    (node? path).ends space = (.ok none, space) := by
  unfold node?
  rw [if_neg (show ¬_ = true from hzero), ends_bind_ok (ends_disk space), hfind]
  rcases Disk.find_error_cases hfind with rfl | rfl | rfl
  · rfl
  · rfl
  · exact absurd rfl hshort

/-- `node?` has three results. It gives `none`, and `find` finds nothing or the path `HasZero`. It gives
the node that `find` finds. It is interrupted, and `locate` leads nowhere. -/
theorem node?_ends (path : Path) (space : Workspace) :
    ((node? path).ends space = (.ok none, space) ∧
        (HasZero path ∨ ∀ location node, space.disk.find path ≠ .ok (location, node))) ∨
      (∃ location node, (node? path).ends space = (.ok (some node), space) ∧ ¬HasZero path ∧
        space.disk.find path = .ok (location, node)) ∨
      ∃ fault, (node? path).ends space = (.error (.interruption (.disk fault)), space) ∧
        ∀ location, space.disk.locate path ≠ .ok location := by
  by_cases hzero : HasZero path
  · exact .inl ⟨node?_of_zero hzero, .inl hzero⟩
  cases hfind : space.disk.find path with
  | ok found => exact .inr (.inl ⟨found.1, found.2, node?_of_find hzero hfind, hzero, rfl⟩)
  | error refusal =>
    by_cases hlong : refusal = .nameTooLong
    · subst hlong
      refine .inr (.inr ⟨_, node?_of_tooLong hzero hfind, fun location hlocate => ?_⟩)
      -- A path that leads somewhere is refused for one reason only.
      cases hget : space.disk.get? location with
      | none => simp [Disk.find, hlocate, hget, bind, Except.bind] at hfind
      | some node => simp [Disk.find_eq_ok_iff.mpr ⟨hlocate, hget⟩] at hfind
    · exact .inl ⟨node?_of_lost hzero hfind hlong, .inr (by simp)⟩

/-! ### What a job keeps, whatever its result -/

/-- From a disk that `holds` the job leads to a disk that `holds`, whatever its result; and a result
`.ok a` has `gives a`. -/
def Keeps (holds : Disk → Prop) (job : Job α) (gives : α → Prop) : Prop :=
  ∀ space, holds space.disk →
    holds (job.ends space).2.disk ∧ ∀ a, (job.ends space).1 = .ok a → gives a

namespace Keeps

variable {holds : Disk → Prop} {job : Job α} {gives : α → Prop}

theorem of_disk (h : ∀ space, (job.ends space).2.disk = space.disk) :
    Keeps holds job fun _ => True :=
  fun space hspace => ⟨(h space).symm ▸ hspace, fun _ _ => trivial⟩

theorem pure {a : α} (h : gives a) : Keeps holds (pure a) gives := by
  intro space hspace
  refine ⟨hspace, ?_⟩
  rintro _ ⟨⟩
  exact h

theorem bind {next : α → Job β} {gives' : β → Prop} (h : Keeps holds job gives)
    (h' : ∀ a, gives a → Keeps holds (next a) gives') : Keeps holds (job >>= next) gives' := by
  intro space hspace
  obtain ⟨hmid, hgives⟩ := h space hspace
  rw [ends_bind]
  generalize job.ends space = ended at hmid hgives
  obtain ⟨result, mid⟩ := ended
  cases result with
  | error fault => exact ⟨hmid, by simp⟩
  | ok a => exact h' a (hgives a rfl) mid hmid

/-- `Keeps` under `>>=`: the first job ends both, or `next a` runs on a disk that `holds`, for an `a`
with `gives a`. -/
theorem of_bind {next : α → Job β} {space after : Workspace} {result : Except Fault β}
    (h : Keeps holds job gives) (hspace : holds space.disk)
    (hends : (job >>= next).ends space = (result, after)) :
    holds after.disk ∨
      ∃ a mid, gives a ∧ holds mid.disk ∧ (next a).ends mid = (result, after) := by
  obtain ⟨hmid, hgives⟩ := h space hspace
  rw [ends_bind] at hends
  generalize job.ends space = ended at hmid hgives hends
  obtain ⟨first, mid⟩ := ended
  cases first with
  | error fault =>
    cases hends
    exact .inl hmid
  | ok a => exact .inr ⟨a, mid, hgives a rfl, hmid, hends⟩

theorem map {f : α → β} {gives' : β → Prop} (h : Keeps holds job gives)
    (h' : ∀ a, gives a → gives' (f a)) : Keeps holds (f <$> job) gives' := by
  rw [map_eq_pure_bind]
  exact h.bind fun a ha => .pure (h' a ha)

theorem tryCatch {handle : Fault → Job α} (h : Keeps holds job gives)
    (h' : ∀ fault, Keeps holds (handle fault) gives) : Keeps holds (tryCatch job handle) gives := by
  intro space hspace
  obtain ⟨hmid, hgives⟩ := h space hspace
  rw [ends_tryCatch]
  generalize job.ends space = ended at hmid hgives
  obtain ⟨result, mid⟩ := ended
  cases result with
  | error fault => exact h' fault mid hmid
  | ok a => exact ⟨hmid, hgives⟩

theorem throw (fault : Fault) : Keeps holds (throw fault : Job α) gives :=
  fun _ hspace => ⟨hspace, by simp⟩

theorem onRefusal {handle : DiskFault → Job α} (h : Keeps holds job gives)
    (h' : ∀ fault, Keeps holds (handle fault) gives) : Keeps holds (onRefusal job handle) gives := by
  refine h.tryCatch fun fault => ?_
  split
  · exact h' _
  · exact .throw _

theorem record (level : Level) (origin : Origin) (message : String) :
    Keeps holds (record level origin message) fun _ => True :=
  .of_disk fun _ => rfl

theorem node? (path : Path) : Keeps holds (node? path) fun _ => True := by
  refine .of_disk fun space => ?_
  rcases node?_ends path space with ⟨hends, -⟩ | ⟨_, _, hends, -⟩ | ⟨_, hends, -⟩ <;> rw [hends]

theorem readLines (path : Path) : Keeps holds (readLines path) fun _ => True := by
  have hread : Keeps holds (readOctets path) fun _ => True :=
    .of_disk fun space => by rw [ends_readOctets]
  have htext : Keeps holds (readText path) fun _ => True := by
    refine hread.bind fun octets _ => ?_
    split
    · exact .pure trivial
    · exact .throw _
  exact htext.bind fun _ _ => .pure trivial

/-- `Keeps` for `forM`: each of the jobs `act x` keeps what `holds`. -/
theorem forM {xs : List α} {act : α → Job Unit}
    (h : ∀ x ∈ xs, Keeps holds (act x) fun _ => True) : Keeps holds (xs.forM act) fun _ => True := by
  induction xs with
  | nil => exact .pure trivial
  | cons x xs ih =>
    exact (h x (by simp)).bind fun _ _ => ih fun other hmem => h other (by simp [hmem])

theorem mapM {xs : List α} {act : α → Job β}
    (h : ∀ x ∈ xs, Keeps holds (act x) fun _ => True) : Keeps holds (xs.mapM act) fun _ => True := by
  induction xs with
  | nil => exact .pure trivial
  | cons x xs ih =>
    rw [List.mapM_cons]
    exact (h x (by simp)).bind fun _ _ => (ih fun other hmem => h other (by simp [hmem])).bind
      fun _ _ => .pure trivial

end Keeps

end Externalize.Job
