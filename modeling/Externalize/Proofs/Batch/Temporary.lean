import Externalize.Batch.Run
import Externalize.Proofs.Extraction.Source
import Externalize.Proofs.Naming

/-!
# `Externalize.Proofs.Batch.Temporary`: temporary files stand apart

The name of a temporary file has no dot in it, and the name of a source always has one, so that what
is done to the one is never done to the other: `IsTemporary.of_locate` says where the path of a
temporary file leads. Stamps are written in different ways (`stampText_injective`), and there are more
of them to choose from than there are nodes on the disk, so a temporary file is made where nothing
stood before (`freshTemporary_free`).

`TemporaryAt` says that a temporary file stands at a place and what it holds. `makeTemporaries_ends`
gives an empty one for each file, all at different places, or leaves everything but locations without
a dot as it was. Which of the two it is depends on nothing but those locations, and if there is a
temporary file for each of some files then there is one for each of fewer (`makeTemporaries_of_le`).
-/

set_option autoImplicit false

namespace Externalize

open Disk (Cleared SameFolders Spares Wrote)

/-! ### Names of temporary files -/

theorem ofDigitChars_stampText (width n : Nat) :
    Nat.ofDigitChars 10 (stampText width n) 0 = n := by
  simp only [stampText]
  rw [Nat.ofDigitChars_append, Nat.ofDigitChars_replicate_zero, Nat.mul_zero,
    Nat.ofDigitChars_toDigits (by decide) (by decide)]

/-- `stampText` writes no two stamps alike. -/
theorem stampText_injective {width m n : Nat} (h : stampText width m = stampText width n) :
    m = n := by
  rw [← ofDigitChars_stampText width m, h, ofDigitChars_stampText]

theorem isDigit_of_mem_stampText {width n : Nat} {c : Char} (h : c ∈ stampText width n) :
    c.isDigit = true := by
  simp only [stampText, List.mem_append, List.mem_replicate] at h
  rcases h with ⟨-, rfl⟩ | h
  · decide
  · exact Nat.isDigit_of_mem_toDigits (by decide) (by decide) h

theorem temporaryName_injective {index : Int} {m n : Nat}
    (h : temporaryName index m = temporaryName index n) : m = n :=
  stampText_injective (List.append_cancel_left h)

/-- `temporaryName`, character by character. -/
theorem temporaryName_eq (index stamp : Nat) :
    temporaryName index stamp = ['t', 'm', 'p', '_', 'e', 'x', 't', '_', 's', 't', 'r', '_']
      ++ Nat.toDigits 10 index ++ ['_'] ++ stampText 8 stamp := by
  have hindex : (toString (index : Int)).toList = Nat.toDigits 10 index := Nat.toList_repr
  have hstart : "tmp_ext_str_".toList
      = ['t', 'm', 'p', '_', 'e', 'x', 't', '_', 's', 't', 'r', '_'] := by decide
  -- Rewriting would take both texts apart to see whether they match.
  exact congrArg (· ++ ['_'] ++ stampText 8 stamp) (hindex ▸ hstart ▸ rfl)

/-- No dot stands in a `temporaryName`. -/
theorem dot_notMem_temporaryName (index stamp : Nat) : '.' ∉ temporaryName index stamp := by
  have hindex : '.' ∉ Nat.toDigits 10 index := fun hmem =>
    absurd (Nat.isDigit_of_mem_toDigits (by decide) (by decide) hmem) (by decide)
  have hstamp : '.' ∉ stampText 8 stamp := fun hmem =>
    absurd (isDigit_of_mem_stampText hmem) (by decide)
  rw [temporaryName_eq]
  simp [hindex, hstamp]

/-! ### Where temporary files stand -/

/-- The path is that of a `temporaryName` in some folder. -/
def IsTemporary (path : Path) : Prop :=
  ∃ (folder : Path) (index stamp : Nat), path = folder.child (temporaryName index stamp)

/-- The last name of the location has no dot in it. -/
def Dotless (location : Location) : Prop :=
  ∃ folder name, location = folder ++ [name] ∧ '.' ∉ name

theorem temporaryName_ne_parentName (index stamp : Nat) :
    temporaryName index stamp ≠ Disk.parentName := by
  intro h
  have hdot := dot_notMem_temporaryName index stamp
  simp [h, Disk.parentName] at hdot

/-- `locate` of a path with `IsTemporary` leads to a location that is `Dotless`. -/
theorem IsTemporary.of_locate {path : Path} (h : IsTemporary path) {disk : Disk} {place : Location}
    (hlocate : disk.locate path = .ok place) : Dotless place := by
  obtain ⟨above, index, stamp, rfl⟩ := h
  obtain ⟨folder, -, -, rfl⟩ :=
    Disk.locate_eq_ok_append rfl (temporaryName_ne_parentName index stamp) hlocate
  exact ⟨folder, _, rfl, dot_notMem_temporaryName index stamp⟩

theorem isTemporary_fresh (disk : Disk) (folder : Path) (index : Nat) :
    IsTemporary (disk.freshTemporary folder index) :=
  ⟨folder.absolute disk.home, index, _, rfl⟩

/-- A location below the top at which `get?` finds a node is among the `nodes` of the disk. -/
theorem Disk.mem_locations {disk : Disk} {location : Location} {node : Node} (hne : location ≠ [])
    (h : disk.get? location = some node) : location ∈ disk.nodes.map (·.1) := by
  rw [Disk.get?, if_neg hne] at h
  obtain ⟨before, after, hnodes, -⟩ := List.lookup_eq_some_iff.mp h
  simp [hnodes]

/-- Of one more `temporaryName` than there are `nodes`, some is free. -/
theorem Disk.exists_free_stamp (disk : Disk) (folder : Path) (index : Nat) :
    ∃ stamp ∈ List.range (disk.nodes.length + 1),
      (disk.find (folder.child (temporaryName index stamp))).toOption.isNone = true := by
  refine Classical.byContradiction fun hnone => ?_
  have htaken : ∀ stamp ∈ List.range (disk.nodes.length + 1), ∃ location node,
      disk.find (folder.child (temporaryName index stamp)) = .ok (location, node) := by
    intro stamp hstamp
    cases hfind : disk.find (folder.child (temporaryName index stamp)) with
    | ok found => exact ⟨found.1, found.2, rfl⟩
    | error refusal => exact absurd ⟨stamp, hstamp, by rw [hfind]; rfl⟩ hnone
  -- All of them stand in one folder, under different names.
  obtain ⟨first, node, hfirst⟩ := htaken 0 (by simp)
  obtain ⟨above, habove, -, -⟩ := Disk.locate_eq_ok_append rfl
    (temporaryName_ne_parentName index 0) (Disk.find_eq_ok_iff.mp hfirst).1
  have hsubset : (List.range (disk.nodes.length + 1)).map
      (fun stamp => above ++ [temporaryName index stamp]) ⊆ disk.nodes.map (·.1) := by
    intro location hmem
    obtain ⟨stamp, hstamp, rfl⟩ := List.mem_map.mp hmem
    obtain ⟨location, node, hfind⟩ := htaken stamp hstamp
    obtain ⟨hlocate, hget⟩ := Disk.find_eq_ok_iff.mp hfind
    have hanchor : (folder.child (temporaryName index stamp)).anchor
        = (folder.child (temporaryName index 0)).anchor := rfl
    obtain rfl :=
      Disk.locate_sibling hanchor rfl (temporaryName_ne_parentName index stamp) habove hlocate
    exact Disk.mem_locations (by simp) hget
  have hnodup : ((List.range (disk.nodes.length + 1)).map
      (fun stamp => above ++ [temporaryName index stamp])).Nodup := by
    rw [List.Nodup, List.pairwise_map]
    refine List.nodup_range.imp fun hne heq => hne ?_
    exact temporaryName_injective (by simpa using heq)
  have hlength := hnodup.length_le_of_subset hsubset
  simp only [List.length_map, List.length_range] at hlength
  omega

/-- `freshTemporary` gives the path with the first stamp that is free. -/
theorem Disk.freshTemporary_spec (disk : Disk) (folder : Path) (index : Nat) :
    ∃ stamp, disk.freshTemporary folder index
        = (folder.absolute disk.home).child (temporaryName index stamp) ∧
      (disk.find ((folder.absolute disk.home).child (temporaryName index stamp))).toOption = none ∧
      ∀ earlier < stamp,
        (disk.find ((folder.absolute disk.home).child (temporaryName index earlier))).toOption ≠ none := by
  obtain ⟨stamp, hstamp, hfree⟩ := disk.exists_free_stamp (folder.absolute disk.home) index
  cases hfind : (List.range (disk.nodes.length + 1)).find? fun stamp =>
      (disk.find ((folder.absolute disk.home).child (temporaryName index stamp))).toOption.isNone with
  | none => exact absurd hfree (by simpa using List.find?_eq_none.mp hfind stamp hstamp)
  | some chosen =>
    obtain ⟨hchosen, -, hearlier⟩ := List.find?_range_eq_some.mp hfind
    refine ⟨chosen, ?_, Option.isNone_iff_eq_none.mp hchosen, fun earlier hlt => ?_⟩
    · simp only [Disk.freshTemporary, hfind, Option.getD_some]
    · simpa [Option.isSome_iff_ne_none] using hearlier earlier hlt

/-- `freshTemporary` gives a path that leads to a free place. -/
theorem Disk.freshTemporary_free {disk : Disk} {folder : Path} {index : Nat} {place : Location}
    (h : disk.locate (disk.freshTemporary folder index) = .ok place) : disk.get? place = none := by
  obtain ⟨stamp, hfresh, hfree, -⟩ := disk.freshTemporary_spec folder index
  rw [hfresh] at h
  cases hget : disk.get? place with
  | none => rfl
  | some node =>
    rw [Disk.find_eq_ok_iff.mpr ⟨h, hget⟩] at hfree
    cases hfree

/-- `freshTemporary` depends on nothing but what stands at the `Dotless` locations. -/
theorem Disk.Spares.freshTemporary_eq {disk other : Disk} (h : Spares disk other Dotless)
    (folder : Path) (index : Nat) :
    other.freshTemporary folder index = disk.freshTemporary folder index := by
  obtain ⟨stamp, hfresh, hfree, hearlier⟩ := disk.freshTemporary_spec folder index
  obtain ⟨stamp', hfresh', hfree', hearlier'⟩ := other.freshTemporary_spec folder index
  rw [← h.folders.home] at hfresh' hfree' hearlier'
  have hfind : ∀ stamp,
      (other.find ((folder.absolute disk.home).child (temporaryName index stamp))).toOption
        = (disk.find ((folder.absolute disk.home).child (temporaryName index stamp))).toOption :=
    fun stamp => h.find_eq fun _ hlocate => IsTemporary.of_locate ⟨_, index, stamp, rfl⟩ hlocate
  -- Each of the two stamps is free on both disks, so neither comes before the other.
  rcases Nat.lt_trichotomy stamp stamp' with hlt | rfl | hlt
  · exact absurd ((hfind stamp).trans hfree) (hearlier' stamp hlt)
  · rw [hfresh, hfresh']
  · exact absurd ((hfind stamp').symm.trans hfree') (hearlier stamp' hlt)

/-- The `path` of a temporary file leads to `place`, where a file of `octets` stands. -/
structure TemporaryAt (disk : Disk) (path : Path) (place : Location) (octets : Octets) : Prop where
  isTemporary : IsTemporary path
  noZero : ¬Job.HasZero path
  locate : disk.locate path = .ok place
  holds : disk.get? place = some (.file octets)

namespace TemporaryAt

variable {disk after : Disk} {path : Path} {place : Location} {octets : Octets}

theorem dotless (h : TemporaryAt disk path place octets) : Dotless place :=
  h.isTemporary.of_locate h.locate

/-- `TemporaryAt` is kept, if the place is spared. -/
theorem of_spares (h : TemporaryAt disk path place octets) {kept : Location → Prop}
    (hspares : Spares disk after kept) (hkept : kept place) :
    TemporaryAt after path place octets :=
  ⟨h.isTemporary, h.noZero, (hspares.folders.locate_iff path place).mp h.locate,
    (hspares.get? place hkept).trans h.holds⟩

end TemporaryAt

namespace Job

/-! ### Making and discarding -/

/-- `makeTemporary` ends well if the path that `freshTemporary` gives leads somewhere. -/
theorem makeTemporary_ok {folder : Path} {index : Nat} {space : Workspace} {place : Location}
    (hzero : ¬HasZero (space.disk.freshTemporary folder index))
    (hlocate : space.disk.locate (space.disk.freshTemporary folder index) = .ok place) :
    ∃ after, (makeTemporary folder index).ends space
        = (.ok (space.disk.freshTemporary folder index), after) ∧
      Wrote space.disk after.disk place [] := by
  obtain ⟨disk, hwrite, hwrote⟩ := Disk.update_wrote (fun _ => []) none hlocate
    (Disk.freshTemporary_free hlocate)
  have hends : (writeOctets (space.disk.freshTemporary folder index) []).ends space
      = (.ok (), { space with disk }) := by
    rw [ends_writeOctets, if_neg hzero, Disk.write, hwrite]
  exact ⟨_, (ends_bind_ok (ends_disk space)).trans (ends_bind_ok hends), hwrote⟩

/-- `makeTemporary` makes an empty file where nothing stood, or changes nothing. -/
theorem makeTemporary_ends (folder : Path) (index : Nat) (space : Workspace) :
    (∃ path place after, (makeTemporary folder index).ends space = (.ok path, after) ∧
      space.disk.get? place = none ∧ Wrote space.disk after.disk place [] ∧
      TemporaryAt after.disk path place []) ∨
    ∃ fault, (makeTemporary folder index).ends space = (.error fault, space) := by
  by_cases hzero : HasZero (space.disk.freshTemporary folder index)
  · have hends : (writeOctets (space.disk.freshTemporary folder index) []).ends space
        = (.error .zeroInPath, space) := by rw [ends_writeOctets, if_pos hzero]
    exact .inr ⟨_, (ends_bind_ok (ends_disk space)).trans (ends_bind_error hends)⟩
  -- The path is fresh, so that nothing can refuse it but the way there.
  · cases hlocate : space.disk.locate (space.disk.freshTemporary folder index) with
    | error refusal =>
      have hwrite : space.disk.write (space.disk.freshTemporary folder index) []
          = .error refusal := by
        rw [Disk.write, Disk.update, hlocate]
        rfl
      have hends : (writeOctets (space.disk.freshTemporary folder index) []).ends space
          = (.error (.interruption (.disk
              { refusal, path := space.disk.freshTemporary folder index })), space) := by
        rw [ends_writeOctets, if_neg hzero, hwrite]
      exact .inr ⟨_, (ends_bind_ok (ends_disk space)).trans (ends_bind_error hends)⟩
    | ok place =>
      obtain ⟨after, hafter, hwrote⟩ := makeTemporary_ok hzero hlocate
      exact .inl ⟨_, place, after, hafter, Disk.freshTemporary_free hlocate, hwrote,
        isTemporary_fresh _ _ _, hzero, (hwrote.folders.locate_iff _ place).mp hlocate,
        hwrote.get?_place⟩

/-- `makeTemporary` makes the same file on a disk that is the same at the `Dotless` locations, and they
stay the same. -/
theorem makeTemporary_alike {folder path : Path} {index : Nat} {space space' after : Workspace}
    (hsame : Spares space.disk space'.disk Dotless)
    (h : (makeTemporary folder index).ends space = (.ok path, after)) :
    ∃ after', (makeTemporary folder index).ends space' = (.ok path, after') ∧
      Spares after.disk after'.disk Dotless := by
  obtain ⟨_, _, hdisk, h⟩ := of_ends_bind_ok h
  cases hdisk
  obtain ⟨_, mid, hends, h⟩ := of_ends_bind_ok h
  cases h
  rw [ends_writeOctets] at hends
  by_cases hzero : HasZero (space.disk.freshTemporary folder index)
  · rw [if_pos hzero] at hends
    cases hends
  · rw [if_neg hzero] at hends
    cases hwrite : space.disk.write (space.disk.freshTemporary folder index) [] with
    | error refusal =>
      rw [hwrite] at hends
      cases hends
    | ok written =>
      rw [hwrite] at hends
      cases hends
      -- The fresh path is the same on both disks, and leads to a location without a dot.
      obtain ⟨written', hwrite', hspares⟩ := hsame.update_ok
        (fun _ hlocate => (isTemporary_fresh _ _ _).of_locate hlocate) hwrite
      have hends : (writeOctets (space'.disk.freshTemporary folder index) []).ends space'
          = (.ok (), { space' with disk := written' }) := by
        rw [hsame.freshTemporary_eq, ends_writeOctets, if_neg hzero, Disk.write, hwrite']
      refine ⟨{ space' with disk := written' }, ?_, hspares⟩
      rw [← hsame.freshTemporary_eq]
      exact (ends_bind_ok (ends_disk space')).trans (ends_bind_ok hends)

/-- `remove` spares all locations but the one that its path leads to. -/
theorem remove_spares (path : Path) (space : Workspace) :
    Spares space.disk ((remove path).ends space).2.disk
      fun location => space.disk.locate path ≠ .ok location := by
  rw [ends_remove]
  by_cases hzero : HasZero path
  · rw [if_pos hzero]
    exact .refl _ _
  · rw [if_neg hzero]
    cases hremove : space.disk.remove path with
    | error refusal => exact .refl _ _
    | ok disk =>
      obtain ⟨place, node, hlocate, hget, hnode, rfl⟩ := Disk.remove_eq_ok_iff.mp hremove
      have hfree : space.disk.get? place ≠ some .folder := by simpa [hget] using hnode
      refine ⟨Disk.sameFolders_erase hfree, fun location hkept => ?_⟩
      show (space.disk.erase place).get? location = _
      rw [Disk.get?_erase _ _ _ (Disk.ne_top_of_get? hfree), if_neg]
      rintro rfl
      exact hkept hlocate

/-- `onRefusal` leaves the disk as the job does, if `handle` does not change it. -/
theorem onRefusal_disk {α : Type} (job : Job α) {handle : DiskFault → Job α} (space : Workspace)
    (h : ∀ fault space, ((handle fault).ends space).2.disk = space.disk) :
    ((onRefusal job handle).ends space).2.disk = (job.ends space).2.disk := by
  cases hjob : job.ends space with
  | mk result after =>
    cases result with
    | ok a => rw [onRefusal_ok hjob]
    | error fault =>
      rcases onRefusal_error handle hjob with ⟨refused, hends⟩ | hends
      · rw [hends, h]
      · rw [hends]

/-- `discardTemporary` spares all locations but the one that its path leads to. -/
theorem discardTemporary_spares (path : Path) (space : Workspace) :
    Spares space.disk ((discardTemporary path).ends space).2.disk
      fun location => space.disk.locate path ≠ .ok location := by
  rw [discardTemporary, onRefusal_disk _ _ fun fault space => by split <;> rfl]
  exact remove_spares path space

/-- `discardTemporary` leaves nothing at the place that its path leads to. -/
theorem discardTemporary_ends {path : Path} {place : Location} {space : Workspace}
    (hzero : ¬HasZero path) (hlocate : space.disk.locate path = .ok place)
    (hfree : space.disk.get? place ≠ some .folder) :
    ∃ after, (discardTemporary path).ends space = (.ok (), after) ∧
      Cleared space.disk after.disk [place] := by
  unfold discardTemporary
  cases hget : space.disk.get? place with
  | none =>
    have hremove : (remove path).ends space
        = (.error (.interruption (.disk { refusal := .missing, path })), space) := by
      rw [ends_remove, if_neg hzero, Disk.remove_missing hlocate hget]
    refine ⟨space, onRefusal_refused hremove, .refl _, fun location => ?_⟩
    split
    · rename_i hmem
      rw [List.mem_singleton.mp hmem, hget]
    · rfl
  | some node =>
    have hremove : (remove path).ends space
        = (.ok (), { space with disk := space.disk.erase place }) := by
      rw [ends_remove, if_neg hzero, Disk.remove_eq_ok_iff.mpr
        ⟨place, node, hlocate, hget, fun hnode => hfree (hnode ▸ hget), rfl⟩]
    exact ⟨_, onRefusal_ok hremove, Disk.cleared_erase hfree⟩

/-- `forM` of `discardTemporary` spares the locations that are not `Dotless`. -/
theorem discardAll_spares {paths : List Path} (h : ∀ path ∈ paths, IsTemporary path)
    (space : Workspace) :
    Spares space.disk ((paths.forM discardTemporary).ends space).2.disk (¬Dotless ·) := by
  induction paths generalizing space with
  | nil => exact .refl _ _
  | cons path paths ih =>
    have hfirst : Spares space.disk ((discardTemporary path).ends space).2.disk (¬Dotless ·) :=
      (discardTemporary_spares path space).mono fun _ hdot hlocate =>
        hdot ((h path (by simp)).of_locate hlocate)
    have hsplit : ((path :: paths).forM discardTemporary).ends space
        = (discardTemporary path >>= fun _ => paths.forM discardTemporary).ends space := rfl
    rw [hsplit, ends_bind]
    generalize (discardTemporary path).ends space = ended at hfirst
    obtain ⟨result, mid⟩ := ended
    cases result with
    | error fault => exact hfirst
    | ok _ => exact hfirst.trans (ih (fun other hmem => h other (by simp [hmem])) mid)

/-- The paths are `TemporaryAt` different places, and their files are empty. -/
structure Standing (disk : Disk) (temporaries : List (Path × Location)) : Prop where
  each : ∀ temporary ∈ temporaries, TemporaryAt disk temporary.1 temporary.2 []
  nodup : (temporaries.map (·.2)).Nodup

theorem Standing.nil (disk : Disk) : Standing disk [] :=
  ⟨by simp, by simp⟩

/-- `Standing` with one more temporary file, which was made where nothing stood. -/
theorem Standing.concat {disk after : Disk} {temporaries : List (Path × Location)}
    (h : Standing disk temporaries) {path : Path} {place : Location}
    (hfree : disk.get? place = none) (hwrote : Wrote disk after place [])
    (hat : TemporaryAt after path place []) :
    Standing after (temporaries ++ [(path, place)]) := by
  have hne : ∀ temporary ∈ temporaries, temporary.2 ≠ place := fun temporary hmem heq => by
    simpa [heq, hfree] using (h.each temporary hmem).holds
  refine ⟨fun temporary hmem => ?_, ?_⟩
  · rcases List.mem_append.mp hmem with hmem | hmem
    · exact (h.each temporary hmem).of_spares hwrote.spares (hne temporary hmem)
    · obtain rfl := List.mem_singleton.mp hmem
      exact hat
  · rw [List.map_append, List.nodup_append]
    refine ⟨h.nodup, by simp, fun other hmem last hlast => ?_⟩
    obtain ⟨temporary, htemporary, rfl⟩ := List.mem_map.mp hmem
    obtain rfl : last = place := by simpa using hlast
    exact hne temporary htemporary

/-- `makeTemporaries` goes on with the next file, if `makeTemporary` ends well. -/
theorem makeTemporaries_cons {folder file path : Path} {index : Nat} {files made : List Path}
    {space mid : Workspace} (h : (makeTemporary folder index).ends space = (.ok path, mid)) :
    (makeTemporaries folder index (file :: files) made).ends space
      = (makeTemporaries folder (index + 1) files (made ++ [path])).ends mid := by
  have hmake : (Except.ok <$> makeTemporary folder index : Job (Except DiskFault Path)).ends space
      = (.ok (.ok path), mid) := by rw [ends_map, h]
  exact ends_bind_ok (onRefusal_ok hmake)

/-- `makeTemporaries` discards what it `made`, if `makeTemporary` fails. -/
theorem of_makeTemporaries_cons {folder file : Path} {index : Nat} {files made : List Path}
    {space after : Workspace} {fault : Fault} {result : Except DiskFault (List Path)}
    (hmake : (makeTemporary folder index).ends space = (.error fault, space))
    (h : (makeTemporaries folder index (file :: files) made).ends space = (.ok result, after)) :
    (made.forM discardTemporary).ends space = (.ok (), after) ∧ ∃ fault, result = .error fault := by
  obtain ⟨attempt, mid, hattempt, hrest⟩ := of_ends_bind_ok h
  have hmake' : (Except.ok <$> makeTemporary folder index : Job (Except DiskFault Path)).ends space
      = (.error fault, space) := by rw [ends_map, hmake]
  rcases onRefusal_error (fun fault => return .error fault) hmake' with ⟨refused, hends⟩ | hends
  · cases hattempt.symm.trans hends
    obtain ⟨_, discarded, hdiscard, hlast⟩ := of_ends_bind_ok hrest
    cases hlast
    exact ⟨hdiscard, _, rfl⟩
  · cases hattempt.symm.trans hends

/-- `makeTemporaries` gives each file an empty temporary file of its own, where nothing stood at the
start, or the disk refuses one and none is left. -/
theorem makeTemporaries_ends {folder : Path} {index : Nat} {files : List Path}
    {made : List (Path × Location)} {space after : Workspace}
    {result : Except DiskFault (List Path)} (hmade : Standing space.disk made)
    (h : (makeTemporaries folder index files (made.map (·.1))).ends space = (.ok result, after)) :
    Spares space.disk after.disk (¬Dotless ·) ∧
      ∀ paths, result = .ok paths → ∃ temporaries, paths = temporaries.map (·.1) ∧
        Standing after.disk temporaries ∧ temporaries.length = made.length + files.length ∧
        ∀ start, Cleared space.disk start (made.map (·.2)) →
          Cleared after.disk start (temporaries.map (·.2)) := by
  -- Those that were made already are handed on in `made`, so it is general in the induction.
  induction files generalizing index made space with
  | nil =>
    cases h
    exact ⟨.refl _ _, fun paths hpaths => ⟨made, (Except.ok.inj hpaths).symm, hmade, by simp,
      fun _ hstart => hstart⟩⟩
  | cons file files ih =>
    rcases makeTemporary_ends folder index space with
      ⟨path, place, mid, hmake, hfree, hwrote, hat⟩ | ⟨fault, hmake⟩
    · have hnames : made.map (·.1) ++ [path] = (made ++ [(path, place)]).map (·.1) := by simp
      rw [makeTemporaries_cons hmake, hnames] at h
      obtain ⟨hspares, hall⟩ := ih (hmade.concat hfree hwrote hat) h
      have hdot : Spares space.disk mid.disk (¬Dotless ·) :=
        hwrote.spares.mono fun location hdot heq => hdot (heq ▸ hat.dotless)
      refine ⟨hdot.trans hspares, fun paths hpaths => ?_⟩
      obtain ⟨temporaries, hpaths, hstanding, hlength, hcleared⟩ := hall paths hpaths
      rw [List.length_append, List.length_singleton] at hlength
      refine ⟨temporaries, hpaths, hstanding, by rw [hlength, List.length_cons]; omega,
        fun start hstart => hcleared start ?_⟩
      rw [List.map_append]
      exact hstart.of_wrote hwrote hfree
    · have htemporaries : ∀ path ∈ made.map (·.1), IsTemporary path := by
        intro path hmem
        obtain ⟨temporary, htemporary, rfl⟩ := List.mem_map.mp hmem
        exact (hmade.each temporary htemporary).isTemporary
      -- The disk refuses this one, and those that were made before are given up again.
      obtain ⟨hdiscard, refused, rfl⟩ := of_makeTemporaries_cons hmake h
      have hspares := discardAll_spares htemporaries space
      rw [hdiscard] at hspares
      exact ⟨hspares, fun paths hpaths => by cases hpaths⟩

/-- `makeTemporaries` for as many files or fewer ends well on a disk that is the same at the `Dotless`
locations. -/
theorem makeTemporaries_of_le {folder : Path} {index : Nat} {files files' made made' paths : List Path}
    {space space' after : Workspace} (hsame : Spares space.disk space'.disk Dotless)
    (hlength : files'.length ≤ files.length)
    (h : (makeTemporaries folder index files made).ends space = (.ok (.ok paths), after)) :
    ∃ paths' after',
      (makeTemporaries folder index files' made').ends space' = (.ok (.ok paths'), after') := by
  induction files' generalizing index files made made' space space' with
  | nil => exact ⟨made', space', rfl⟩
  | cons file' files' ih =>
    obtain ⟨file, files, rfl⟩ : ∃ file rest, files = file :: rest :=
      List.exists_cons_of_length_pos (by simp only [List.length_cons] at hlength; omega)
    rcases makeTemporary_ends folder index space with ⟨path, -, mid, hmake, -⟩ | ⟨fault, hmake⟩
    · obtain ⟨mid', hmake', hsame'⟩ := makeTemporary_alike hsame hmake
      rw [makeTemporaries_cons hmake] at h
      rw [makeTemporaries_cons hmake']
      exact ih hsame' (by simpa using hlength) h
    · obtain ⟨-, refused, hrefused⟩ := of_makeTemporaries_cons hmake h
      cases hrefused

end Job

end Externalize
