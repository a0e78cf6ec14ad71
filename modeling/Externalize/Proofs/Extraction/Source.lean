import Externalize.Extraction.File
import Externalize.Proofs.Extraction.Store
import Externalize.Proofs.Text.Line

/-!
# `Externalize.Proofs.Extraction.Source`: what rewriting a source does to the disk

A source stands in a folder under a name with an extension (`Disk.SourceAt`). Its backup and the
accessor class stand beside it, so whether they can be written is a question about one name in that
folder (`SourceAt.sibling`). `writeSource_ends` says that only the backup can keep a source from being
written, and `relinkSource_ends` that the resource file is then put back the way it was.
-/

set_option autoImplicit false

namespace Externalize

/-! ### Names of sources -/

/-- The `extension` is what the `name` has from its last dot on, if there is something on both sides. -/
theorem Path.extension_eq_iff {path : Path} {after : Text} :
    path.extension = '.' :: after ↔
      after ≠ [] ∧ '.' ∉ after ∧ ∃ stem, stem ≠ [] ∧ path.name = stem ++ '.' :: after := by
  constructor
  · intro h
    simp only [Path.extension, Text.drop_length_takeWhile] at h
    split at h
    · cases h
    · rename_i hparts
      simp only [Bool.or_eq_true, List.isEmpty_iff, not_or] at hparts
      obtain rfl := (List.cons.inj h).2
      refine ⟨by simpa using hparts.1, fun hdot => ?_, ?_⟩
      · have hall := List.all_takeWhile (p := (· != '.')) (l := path.name.reverse)
        simpa using List.all_eq_true.mp hall _ (List.mem_reverse.mp hdot)
      · -- What stands behind the characters other than dots begins with a dot.
        cases hrest : path.name.reverse.dropWhile (· != '.') with
        | nil => simp [hrest] at hparts
        | cons c rest =>
          obtain rfl : c = '.' := by
            have := List.head?_dropWhile_not (· != '.') path.name.reverse
            simpa [hrest] using this
          have hname : path.name.reverse.takeWhile (· != '.') ++ '.' :: rest = path.name.reverse := by
            rw [← hrest, List.takeWhile_append_dropWhile]
          refine ⟨rest.reverse, by simpa [hrest] using hparts.2, ?_⟩
          rw [← List.reverse_inj]
          simp [hname]
  · rintro ⟨hne, hdot, stem, hstem, hname⟩
    have hback : path.name.reverse = after.reverse ++ '.' :: stem.reverse := by simp [hname]
    have hafter : path.name.reverse.takeWhile (· != '.') = after.reverse := by
      rw [hback, List.takeWhile_append_of_pos]
      · simp
      · intro c hc
        rw [bne_iff_ne]
        rintro rfl
        exact hdot (List.mem_reverse.mp hc)
    simp only [Path.extension, hafter]
    simp [hback, hne, hstem]

/-- A `name` with an `extension` has a dot in it. -/
theorem Path.dot_mem_name {path : Path} (h : path.extension ≠ []) : '.' ∈ path.name := by
  obtain ⟨after, hafter⟩ : ∃ after, path.extension = '.' :: after := by
    simp only [Path.extension] at h ⊢
    split at h
    · exact absurd rfl h
    · rename_i hparts
      exact ⟨_, if_neg hparts⟩
  obtain ⟨-, -, stem, -, hname⟩ := Path.extension_eq_iff.mp hafter
  simp [hname]

theorem Path.name_ne_nil {path : Path} (h : path.extension ≠ []) : path.name ≠ [] := by
  intro hname
  have hdot := Path.dot_mem_name h
  simp [hname] at hdot

theorem Path.name_ne_parentName {path : Path} (h : path.extension ≠ []) :
    path.name ≠ Disk.parentName := by
  intro hname
  simp [Path.extension, hname, Disk.parentName] at h

theorem Path.extension_ne_nil {path : Path} {kind : Kind} (h : path.kind? = some kind) :
    path.extension ≠ [] := by
  intro hnil
  rw [Path.kind?, hnil] at h
  exact absurd h (by cases kind <;> decide)

/-- The `names` of a path with a `name` end with it. -/
theorem Path.names_eq {path : Path} (h : path.name ≠ []) :
    path.names = path.names.dropLast ++ [path.name] := by
  unfold Path.name at h ⊢
  cases hlast : path.names.getLast? with
  | none => simp [hlast] at h
  | some last =>
    obtain ⟨front, hfront⟩ := List.getLast?_eq_some_iff.mp hlast
    simp [hfront]

/-! ### A source and what stands beside it -/

/-- A source of `octets` stands in `folder`, under a `name` with an `extension`. -/
structure Disk.SourceAt (disk : Disk) (path : Path) (folder : Location) (octets : Octets) :
    Prop where
  extension : path.extension ≠ []
  noZero : ¬Job.HasZero path
  locate : disk.locate path = .ok (folder ++ [path.name])
  holds : disk.get? (folder ++ [path.name]) = some (.file octets)

namespace Disk.SourceAt

variable {disk other : Disk} {path : Path} {folder : Location} {octets octets' : Octets}

theorem name_ne_nil (h : disk.SourceAt path folder octets) : path.name ≠ [] :=
  Path.name_ne_nil h.extension

/-- `SourceAt` holds of a file that `read` reads under a name with an `extension`. -/
theorem of_read (hext : path.extension ≠ []) (hzero : ¬Job.HasZero path)
    (hread : disk.read path = .ok octets) (hne : octets ≠ []) :
    ∃ folder, disk.SourceAt path folder octets := by
  obtain ⟨location, hlocate, hget | ⟨-, hnil⟩⟩ := read_eq_ok_iff.mp hread
  · obtain ⟨folder, -, -, rfl⟩ := locate_eq_ok_append (Path.names_eq (Path.name_ne_nil hext))
      (Path.name_ne_parentName hext) hlocate
    exact ⟨folder, hext, hzero, hlocate, hget⟩
  · exact absurd hnil hne

theorem read (h : disk.SourceAt path folder octets) : disk.read path = .ok octets :=
  read_eq_ok_iff.mpr ⟨_, h.locate, .inl h.holds⟩

/-- `locate` of a path beside the source leads to a `name` in its `folder`. -/
theorem sibling (h : disk.SourceAt path folder octets) {name : Text} (hname : name ≠ parentName)
    {place : Location} (hplace : disk.locate (path.parent.child name) = .ok place) :
    place = folder ++ [name] := by
  obtain ⟨folder', hfollow, -, heq⟩ := locate_eq_ok_append (Path.names_eq h.name_ne_nil)
    (Path.name_ne_parentName h.extension) h.locate
  obtain rfl : folder = folder' := (List.append_inj' heq rfl).1
  have hanchor : (path.parent.child name).anchor = path.anchor := rfl
  have hnames : (path.parent.child name).names = path.names.dropLast ++ [name] := rfl
  exact locate_sibling hanchor hnames hname hfollow hplace

/-- A path beside the source does not `HasZero`, unless its `name` does. -/
theorem noZero_sibling (h : disk.SourceAt path folder octets) {name : Text}
    (hname : '\x00' ∉ name) : ¬Job.HasZero (path.parent.child name) := by
  have hzero := h.noZero
  rw [Job.HasZero, Path.names_eq h.name_ne_nil] at hzero
  simp only [Job.HasZero, Path.child, Path.parent, List.any_append, List.any_cons, List.any_nil,
    Bool.or_false, Bool.or_eq_true, List.contains_iff_mem, not_or] at hzero ⊢
  exact ⟨hzero.1, hname⟩

theorem zero_notMem_name (h : disk.SourceAt path folder octets) : '\x00' ∉ path.name := by
  have hzero := h.noZero
  rw [Job.HasZero, Path.names_eq h.name_ne_nil] at hzero
  intro hmem
  simp [hmem] at hzero

theorem endsAbove_eq_false (h : disk.SourceAt path folder octets) : endsAbove path = false := by
  have hname := Path.name_ne_parentName h.extension
  rw [endsAbove, Path.names_eq h.name_ne_nil]
  simpa using hname

end Disk.SourceAt

theorem Disk.endsAbove_child {path : Path} {name : Text} (h : name ≠ parentName) :
    endsAbove (path.child name) = false := by
  simpa [endsAbove, Path.child] using h

namespace Job

open Disk (Wrote)

/-- `backupEnding` spelt out, so that no proof has to take the text apart. -/
theorem backupEnding_eq : backupEnding = ['.', 'b', 'a', 'c', 'k', 'u', 'p'] := rfl

theorem backupName_ne_parentName (name : Text) : name ++ backupEnding ≠ Disk.parentName := by
  intro habove
  have hlength := congrArg List.length habove
  simp [backupEnding_eq, Disk.parentName] at hlength

/-- The path that `writeSource` moves a source to. -/
def backupPath (path : Path) : Path :=
  path.parent.child (path.name ++ backupEnding)

/-- The path that `writeAccessor` writes the accessor class to, beside a source. -/
def accessorPath (path : Path) : Path :=
  path.parent.child Accessor.fileName

section
variable {space : Workspace} {path : Path} {folder : Location} {octets : Octets}

theorem extend_backup (h : space.disk.SourceAt path folder octets) :
    extend path backupEnding = return backupPath path := by
  have hname : path.name.isEmpty = false := by
    simpa using h.name_ne_nil
  simp [extend, Path.extend?, hname, backupPath]

theorem writeText_source (h : space.disk.SourceAt path folder octets) (text : Text) :
    ∃ after, (writeText path text).ends space = (.ok (), after) ∧
      Wrote space.disk after.disk (folder ++ [path.name]) (Utf8.encode text) :=
  writeText_wrote text (some octets) h.noZero h.locate h.holds

/-- `get?` after the `move` of a file to `aside`: it is gone from `origin`. -/
theorem moved_aside {disk : Disk} {origin aside : Location} (old : Octets)
    (horigin : disk.get? origin ≠ some .folder) (haside : disk.get? aside ≠ some .folder) :
    Disk.SameFolders disk ((disk.erase origin).set aside (.file old)) ∧
      ∀ location, ((disk.erase origin).set aside (.file old)).get? location
        = if location = aside then some (.file old)
          else if location = origin then none else disk.get? location := by
  have hfolders := Disk.sameFolders_erase horigin
  have hwrote := Disk.wrote_set old fun hget => haside ((hfolders.folder aside).mpr hget)
  refine ⟨hfolders.trans hwrote.folders, fun location => ?_⟩
  rw [hwrote.get?, Disk.get?_erase _ _ _ (Disk.ne_top_of_get? horigin)]

/-- A file that was moved to `aside` and written anew `Wrote` two files. -/
theorem wrote_moved {disk after : Disk} {origin aside : Location} {old new : Octets}
    (horigin : disk.get? origin ≠ some .folder) (haside : disk.get? aside ≠ some .folder)
    (h : Wrote ((disk.erase origin).set aside (.file old)) after origin new) :
    Wrote disk (disk.set aside (.file old)) aside old ∧
      Wrote (disk.set aside (.file old)) after origin new := by
  obtain ⟨hfolders, hmoved⟩ := moved_aside old horigin haside
  have hset := Disk.wrote_set old haside
  refine ⟨hset, hset.folders.symm.trans (hfolders.trans h.folders), fun location => ?_⟩
  rw [h.get?, hmoved, hset.get?]
  split <;> rfl

/-- `move` to the `backupPath` ends well exactly if the disk `Admits` it: no folder stands there, and
the name is not too long. -/
theorem move_backup (h : space.disk.SourceAt path folder octets) :
    (space.disk.Admits (backupPath path) ∧
      space.disk.get? (folder ++ [path.name ++ backupEnding]) ≠ some .folder ∧
      (move path (backupPath path)).ends space
        = (.ok (), { space with
            disk := (space.disk.erase (folder ++ [path.name])).set
              (folder ++ [path.name ++ backupEnding]) (.file octets) })) ∨
    (¬space.disk.Admits (backupPath path) ∧ ∃ fault,
      (move path (backupPath path)).ends space = (.error (.interruption (.disk fault)), space)) := by
  have hne : path.name ++ backupEnding ≠ path.name := by simp [backupEnding_eq]
  have habove := backupName_ne_parentName path.name
  have hzero : ¬(HasZero path ∨ HasZero (backupPath path)) :=
    not_or.mpr ⟨h.noZero, h.noZero_sibling (by simpa [backupEnding_eq] using h.zero_notMem_name)⟩
  rcases Disk.move_file h.endsAbove_eq_false (Disk.endsAbove_child habove)
      (Disk.find_eq_ok_iff.mpr ⟨h.locate, h.holds⟩) hne fun place hplace => h.sibling habove hplace
    with ⟨hadmits, hmove⟩ | ⟨hadmits, refusal, hmove⟩
  · obtain ⟨place, hplace, hfree⟩ := hadmits
    obtain rfl := h.sibling habove hplace
    refine .inl ⟨⟨_, hplace, hfree⟩, hfree, ?_⟩
    rw [ends_move, if_neg hzero, backupPath, hmove]
  · refine .inr ⟨hadmits, { refusal, path, target := some (backupPath path) }, ?_⟩
    rw [ends_move, if_neg hzero, backupPath, hmove]

/-- `writeSource` ends well, unless a backup is asked for and the disk does not `Admits` the
`backupPath`. -/
theorem writeSource_ends (h : space.disk.SourceAt path folder octets) (text : Text)
    (backup : Bool) :
    (∃ mid after, (backup = true → space.disk.Admits (backupPath path)) ∧
      (writeSource path text backup).ends space = (.ok (), after) ∧
      (if backup then Wrote space.disk mid (folder ++ [path.name ++ backupEnding]) octets
        else mid = space.disk) ∧
      Wrote mid after.disk (folder ++ [path.name]) (Utf8.encode text)) ∨
    (backup = true ∧ ¬space.disk.Admits (backupPath path) ∧
      ∃ fault, (writeSource path text backup).ends space
        = (.error (.interruption (.disk fault)), space)) := by
  cases backup with
  | false =>
    obtain ⟨after, hafter, hwrote⟩ := writeText_source h text
    exact .inl ⟨space.disk, after, by simp, hafter, rfl, hwrote⟩
  | true =>
    have hstart : (writeSource path text true).ends space
        = (move path (backupPath path) >>= fun _ =>
            record .info .sources s!"backed up {path} -> {backupPath path}" >>= fun _ =>
              writeText path text).ends space := by
      simp only [writeSource, if_true, extend_backup h, pure_bind]
    rw [hstart]
    rcases move_backup h with ⟨hadmits, hfree, hmove⟩ | ⟨hadmits, fault, hmove⟩
    · have hfile : space.disk.get? (folder ++ [path.name]) ≠ some .folder := by simp [h.holds]
      obtain ⟨hfolders, hget⟩ := moved_aside octets hfile hfree
      -- The source is gone from its place, so it is made there anew.
      have hgone := hget (folder ++ [path.name])
      rw [if_neg (by simp [backupEnding_eq]), if_pos rfl] at hgone
      generalize hmoved : (space.disk.erase (folder ++ [path.name])).set
        (folder ++ [path.name ++ backupEnding]) (.file octets) = moved at hmove hfolders hgone
      obtain ⟨told, htold, hdisk⟩ := record_ends .info .sources
        s!"backed up {path} -> {backupPath path}" { space with disk := moved }
      rw [show moved = told.disk from hdisk.symm] at hfolders hgone
      obtain ⟨after, hafter, hwrote⟩ := writeText_wrote text none h.noZero
        ((hfolders.locate_iff path _).mp h.locate) hgone
      rw [hdisk, ← hmoved] at hwrote
      obtain ⟨hbackup, hsource⟩ := wrote_moved hfile hfree hwrote
      refine .inl ⟨_, after, fun _ => hadmits, ?_, hbackup, hsource⟩
      rw [ends_bind_ok hmove, ends_bind_ok htold, hafter]
    · exact .inr ⟨rfl, hadmits, fault, ends_bind_error hmove⟩

end

/-! ### Putting the resource file back -/

theorem onRefusal_ok {α : Type} {job : Job α} {handle : DiskFault → Job α}
    {space after : Workspace} {a : α} (h : job.ends space = (.ok a, after)) :
    (onRefusal job handle).ends space = (.ok a, after) := by
  rw [onRefusal, ends_tryCatch, h]

theorem onRefusal_refused {α : Type} {job : Job α} {handle : DiskFault → Job α}
    {space after : Workspace} {fault : DiskFault}
    (h : job.ends space = (.error (.interruption (.disk fault)), after)) :
    (onRefusal job handle).ends space = (handle fault).ends after := by
  rw [onRefusal, ends_tryCatch, h]

/-- `onRefusal` runs `handle` for a refusal, and lets any other fault end the job. -/
theorem onRefusal_error {α : Type} {job : Job α} (handle : DiskFault → Job α)
    {space after : Workspace} {fault : Fault} (h : job.ends space = (.error fault, after)) :
    (∃ refused, (onRefusal job handle).ends space = (handle refused).ends after) ∨
      (onRefusal job handle).ends space = (.error fault, after) := by
  rw [onRefusal, ends_tryCatch, h]
  match fault with
  | .interruption (.disk refused) => exact .inl ⟨refused, rfl⟩
  | .interruption (.octets _) | .interruption (.halves _) | .problem _ | .zeroInPath | .unnamed _
  | .closed | .outOfReach _ | .replacement _ | .noAnswer | .pathWithoutValue
  | .templateWithoutValue => exact .inr rfl

/-- `restore` takes a file away again that was written where a target `Opens`, or puts the `previous`
octets back. -/
theorem restore_ends {target : Path} {place : Location} {previous : Option Octets} {disk : Disk}
    {space : Workspace} {octets : Octets} (hopens : disk.Opens target place previous)
    (hwrote : Wrote disk space.disk place octets) :
    ∃ after, (restore target previous).ends space = (.ok (), after) ∧
      Disk.SameFolders disk after.disk ∧
      ∀ location, after.disk.get? location = disk.get? location := by
  have hlocate := (hwrote.folders.locate_iff target place).mp hopens.locate
  have hfile := hwrote.get?_place
  cases previous with
  | none =>
    -- There was no file before, so the one that was written is deleted.
    have hfree : space.disk.get? place ≠ some .folder := by simp [hfile]
    have hremove : space.disk.remove target = .ok (space.disk.erase place) :=
      Disk.remove_eq_ok_iff.mpr ⟨place, _, hlocate, hfile, by simp, rfl⟩
    refine ⟨{ space with disk := space.disk.erase place }, onRefusal_ok ?_,
      hwrote.folders.trans (Disk.sameFolders_erase hfree), fun location => ?_⟩
    · rw [ends_remove, if_neg hopens.noZero, hremove]
    · show (space.disk.erase place).get? location = _
      rw [Disk.get?_erase _ _ _ (Disk.ne_top_of_get? hfree)]
      split
      · rename_i heq
        rw [heq, hopens.holds]
        rfl
      · rename_i hne
        exact hwrote.get?_of_ne hne
  | some old =>
    -- Of two files written at one place the second counts, and that is the old one.
    obtain ⟨after, hafter, hback⟩ := Disk.update_file (fun _ => old) hlocate hfile
    refine ⟨{ space with disk := after }, onRefusal_ok ?_, hwrote.folders.trans hback.folders,
      fun location => ?_⟩
    · rw [ends_writeOctets, if_neg hopens.noZero, Disk.write, hafter]
    · show after.get? location = _
      rw [(hwrote.trans hback).get?]
      split
      · rename_i heq
        rw [heq, hopens.holds]
        rfl
      · rfl

/-- `relinkSource` writes the source, or its backup is refused and `restore` puts the resource file
back. -/
theorem relinkSource_ends {path target : Path} {place : Location} {previous : Option Octets}
    {disk : Disk} {space : Workspace} {folder : Location} {octets stored : Octets}
    (hopens : disk.Opens target place previous) (hwrote : Wrote disk space.disk place stored)
    (h : space.disk.SourceAt path folder octets) (text : Text) (backup : Bool) :
    (∃ mid after, (backup = true → space.disk.Admits (backupPath path)) ∧
      (relinkSource path target previous text backup).ends space = (.ok (), after) ∧
      (if backup then Wrote space.disk mid (folder ++ [path.name ++ backupEnding]) octets
        else mid = space.disk) ∧
      Wrote mid after.disk (folder ++ [path.name]) (Utf8.encode text)) ∨
    (backup = true ∧ ¬space.disk.Admits (backupPath path) ∧ ∃ fault after,
      (relinkSource path target previous text backup).ends space
        = (.error (.interruption (.disk fault)), after) ∧
      Disk.SameFolders disk after.disk ∧
      ∀ location, after.disk.get? location = disk.get? location) := by
  unfold relinkSource
  rcases writeSource_ends h text backup with ⟨mid, after, hadmits, hafter, hmid, hsource⟩ |
    ⟨hbackup, hadmits, fault, hfault⟩
  · exact .inl ⟨mid, after, hadmits, onRefusal_ok hafter, hmid, hsource⟩
  · obtain ⟨after, hafter, hfolders, hsame⟩ := restore_ends hopens hwrote
    refine .inr ⟨hbackup, hadmits, fault, after, ?_, hfolders, hsame⟩
    rw [onRefusal_refused hfault, ends_bind_ok hafter]
    rfl

/-! ### The accessor class -/

/-- `writeAccessor` writes the accessor class, unless the disk does not `Admits` the `accessorPath`. -/
theorem writeAccessor_ends {path : Path} {space : Workspace} {folder : Location} {octets : Octets}
    (h : space.disk.SourceAt path folder octets) (text : Text) :
    (∃ written after, (writeAccessor path.parent text).ends space = (.ok written, after) ∧
      space.disk.write (accessorPath path) (Utf8.encode (Accessor.source text)) = .ok after.disk ∧
      Disk.SameFolders space.disk after.disk ∧
      ∀ location, location ≠ folder ++ [Accessor.fileName] →
        after.disk.get? location = space.disk.get? location) ∨
    (¬space.disk.Admits (accessorPath path) ∧ ∃ fault,
      (writeAccessor path.parent text).ends space
        = (.error (.interruption (.disk fault)), space)) := by
  have hzero : ¬HasZero (accessorPath path) := h.noZero_sibling (by decide)
  have hname : Accessor.fileName ≠ Disk.parentName := by decide
  unfold writeAccessor
  cases hwrite : space.disk.write (accessorPath path) (Utf8.encode (Accessor.source text)) with
  | ok disk =>
    -- What is written beside the source is where its name is in the folder.
    obtain ⟨place, hplace, -⟩ := Disk.update_isOk_iff.mp ⟨disk, hwrite⟩
    obtain rfl := h.sibling hname hplace
    have hwrite' : (writeText (accessorPath path) (Accessor.source text)).ends space
        = (.ok (), { space with disk }) := by
      rw [writeText, ends_writeOctets, if_neg hzero, hwrite]
    exact .inl ⟨_, _, ends_bind_ok hwrite', rfl, Disk.update_sameFolders hwrite,
      fun location hne => Disk.get?_update hwrite hplace hne⟩
  | error refusal =>
    refine .inr ⟨fun hadmits => ?_, { refusal, path := accessorPath path }, ends_bind_error ?_⟩
    · obtain ⟨disk, hdisk⟩ := Disk.update_isOk_iff.mpr hadmits
      exact absurd (hdisk.symm.trans hwrite) (by simp)
    · rw [← accessorPath, writeText, ends_writeOctets, if_neg hzero, hwrite]

end Job

end Externalize
