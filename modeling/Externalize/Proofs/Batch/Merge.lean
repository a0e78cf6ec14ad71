import Externalize.Proofs.Batch.Each
import Externalize.Proofs.Resource.Survival

/-!
# `Externalize.Proofs.Batch.Merge`: what merging does with temporary files

Gathering reads each temporary file and takes it away (`gather_ends`), and since they stand at
different places none is in the way of another (`gatherAll_ends`). What a temporary file holds of
entries whose lines are canonical is read as it was written: once when it was brought into the
canonical layout, and once when it is gathered (`gathered_stored`). `merge_ends` says what merging
comes to.
-/

set_option autoImplicit false

namespace Externalize

open Disk (Cleared SameFolders Spares Wrote)

/-! ### Gathering -/

/-- The lines that `gather` takes from a text. -/
def gatheredLines (text : Text) : List Text :=
  (Document.entryLines (Text.unifyBreaks text)).filter Document.entryStart.isPrefixOf

/-- `Holds` for the other temporary files, when the first one is taken away. -/
theorem Holds.tail {disk after : Disk} {kept : Yield} {yields : List Yield}
    (h : Holds disk (kept :: yields)) (hcleared : Cleared disk after [kept.place]) :
    Holds after yields := by
  obtain ⟨hplace, hnodup⟩ := List.nodup_cons.mp h.nodup
  refine ⟨fun other hmem => ?_, hnodup⟩
  refine (h.each other (List.mem_cons_of_mem _ hmem)).of_spares hcleared.spares fun heq => hplace ?_
  exact List.mem_singleton.mp heq ▸ List.mem_map_of_mem hmem

namespace Job

theorem readLines_ok {path : Path} {space : Workspace} {text : Text} (hzero : ¬HasZero path)
    (hread : space.disk.read path = .ok (Utf8.encode text)) :
    (readLines path).ends space = (.ok (Text.unifyBreaks text), space) := by
  rcases readText_ends space hzero with ⟨octets, text', htext, hoctets, hdecode⟩ | ⟨_, -, hnot⟩
  · obtain rfl := Except.ok.inj (hread.symm.trans hoctets)
    obtain rfl := Except.ok.inj ((Utf8.decode_encode text).symm.trans hdecode)
    rw [ends_readLines, htext]
  · exact absurd (Utf8.decode_encode text) (hnot _ _ hread)

/-- `gather` reads a temporary file and takes it away. -/
theorem gather_ends {path : Path} {place : Location} {text : Text} {space : Workspace}
    (h : TemporaryAt space.disk path place (Utf8.encode text)) :
    ∃ after, (gather path).ends space = (.ok (gatheredLines text), after) ∧
      Cleared space.disk after.disk [place] := by
  have hfind := Disk.find_eq_ok_iff.mpr ⟨h.locate, h.holds⟩
  have hexists : (pathExists path).ends space = (.ok true, space) :=
    ends_bind_ok (node?_of_find h.noZero hfind)
  have hlines := readLines_ok h.noZero (Disk.read_eq_ok_iff.mpr ⟨place, h.locate, .inl h.holds⟩)
  have hremove : (remove path).ends space
      = (.ok (), { space with disk := space.disk.erase place }) := by
    rw [ends_remove, if_neg h.noZero,
      Disk.remove_eq_ok_iff.mpr ⟨place, _, h.locate, h.holds, by simp, rfl⟩]
  refine ⟨{ space with disk := space.disk.erase place }, ?_,
    Disk.cleared_erase (by simp [h.holds])⟩
  have hread : ∀ handle, (tryCatch (some <$> readLines path) handle : Job (Option Text)).ends space
      = (.ok (some (Text.unifyBreaks text)), space) := fun handle => by
    rw [ends_tryCatch, ends_map, hlines]
  unfold gather
  rw [ends_bind_ok hexists, if_neg (by simp)]
  exact (ends_bind_ok (hread _)).trans (ends_bind_ok (onRefusal_ok hremove))

/-- `mapM` of `gather` takes the temporary files away, and leaves all other locations as they are. -/
theorem gatherAll_ends {yields : List Yield} {space : Workspace} (h : Holds space.disk yields) :
    ∃ after, ((yields.map Yield.temporary).mapM gather).ends space
        = (.ok (yields.map fun kept => gatheredLines (storedText kept.entries)), after) ∧
      Cleared space.disk after.disk (yields.map Yield.place) := by
  induction yields generalizing space with
  | nil => exact ⟨space, rfl, .nil _⟩
  | cons kept yields ih =>
    -- The first file is taken away, and the others stand at other places.
    obtain ⟨mid, hmid, hcleared⟩ := gather_ends (h.each kept (by simp))
    obtain ⟨after, hafter, hcleared'⟩ := ih (h.tail hcleared)
    refine ⟨after, ?_, hcleared.append hcleared'⟩
    rw [List.map_cons, List.mapM_cons, ends_bind_ok hmid, ends_bind_ok hafter]
    rfl

/-- `forM` of `discardTemporary` takes the temporary files away, and leaves all other locations as they
are. -/
theorem discardAll_ends {yields : List Yield} {space : Workspace} (h : Holds space.disk yields) :
    ∃ after, ((yields.map Yield.temporary).forM discardTemporary).ends space = (.ok (), after) ∧
      Cleared space.disk after.disk (yields.map Yield.place) := by
  induction yields generalizing space with
  | nil => exact ⟨space, rfl, .nil _⟩
  | cons kept yields ih =>
    have hat := h.each kept (by simp)
    obtain ⟨mid, hmid, hcleared⟩ := discardTemporary_ends hat.noZero hat.locate (by simp [hat.holds])
    obtain ⟨after, hafter, hcleared'⟩ := ih (h.tail hcleared)
    exact ⟨after, (ends_bind_ok hmid).trans hafter, hcleared.append hcleared'⟩

/-- The part of `merge` that comes after `gather`. -/
def settle (scheme : NameScheme) (target : Path) (merged : List Text) : Job Nat :=
  match scheme.renumber merged with
  | .error fault => throw fault.toFault
  | .ok lines => do
    onRefusal (writeDocument target lines) fun fault =>
      throw (.problem (.interrupted (.disk fault)))
    return lines.length

theorem merge_eq (scheme : NameScheme) (temporaries : List Path) (target : Path) :
    merge scheme temporaries target
      = temporaries.mapM gather >>= fun gathered => settle scheme target gathered.flatten := rfl

/-- `settle` of lines for which `renumber` ends well writes their document to the target, if the disk
lets it. -/
theorem settle_of_renumber {scheme : NameScheme} {target : Path} {merged lines : List Text}
    (hlines : scheme.renumber merged = .ok lines) (space : Workspace) :
    (settle scheme target merged).ends space
      = if HasZero target then (.error .zeroInPath, space)
        else match space.disk.write target (Utf8.encode (Document.document lines)) with
          | .ok disk => (.ok lines.length, { space with disk })
          | .error refusal =>
            (.error (.problem (.interrupted (.disk { refusal, path := target }))), space) := by
  unfold settle
  rw [hlines]
  -- `onRefusal` turns a refusal into a problem, and lets a zero through.
  have hwrite := ends_writeOctets target (Utf8.encode (Document.document lines)) space
  by_cases hzero : HasZero target
  · rw [if_pos hzero] at hwrite ⊢
    have hends : (onRefusal (writeDocument target lines) fun fault =>
        throw (.problem (.interrupted (.disk fault)))).ends space = (.error .zeroInPath, space) := by
      rw [onRefusal, ends_tryCatch, writeDocument, writeText, hwrite]
      rfl
    exact ends_bind_error hends
  · rw [if_neg hzero] at hwrite ⊢
    cases hdisk : space.disk.write target (Utf8.encode (Document.document lines)) with
    | ok disk =>
      rw [hdisk] at hwrite
      exact ends_bind_ok (onRefusal_ok hwrite)
    | error refusal =>
      rw [hdisk] at hwrite
      exact ends_bind_error (onRefusal_refused hwrite)

/-- `settle` writes the document of the lines that `renumber` gives, or changes nothing. -/
theorem settle_ends (scheme : NameScheme) (target : Path) (merged : List Text) (space : Workspace) :
    (∃ fault, (settle scheme target merged).ends space = (.error fault, space)) ∨
      ∃ lines disk, scheme.renumber merged = .ok lines ∧
        space.disk.write target (Utf8.encode (Document.document lines)) = .ok disk ∧
        (settle scheme target merged).ends space = (.ok lines.length, { space with disk }) := by
  cases hlines : scheme.renumber merged with
  | error fault =>
    refine .inl ⟨fault.toFault, ?_⟩
    rw [settle, hlines]
    rfl
  | ok lines =>
    rw [settle_of_renumber hlines]
    by_cases hzero : HasZero target
    · exact .inl ⟨_, if_pos hzero⟩
    · rw [if_neg hzero]
      cases hwrite : space.disk.write target (Utf8.encode (Document.document lines)) with
      | error refusal => exact .inl ⟨_, rfl⟩
      | ok disk => exact .inr ⟨lines, disk, rfl, hwrite, rfl⟩

/-- `merge` takes the temporary files away. Then it writes the document of the lines that `renumber`
gives, or it ends early and writes nothing. -/
theorem merge_ends {yields : List Yield} {scheme : NameScheme} {target : Path}
    {space after : Workspace} {result : Except Fault Nat} (hholds : Holds space.disk yields)
    (h : (merge scheme (yields.map Yield.temporary) target).ends space = (result, after)) :
    ∃ gathered : Disk, Spares space.disk gathered (fun location => location ∉ yields.map Yield.place) ∧
      ((∃ fault, result = .error fault ∧ after.disk = gathered) ∨
        ∃ lines, result = .ok lines.length ∧
          scheme.renumber (yields.map fun kept => gatheredLines (storedText kept.entries)).flatten
            = .ok lines ∧
          gathered.write target (Utf8.encode (Document.document lines)) = .ok after.disk) := by
  obtain ⟨gathered, hgathered, hcleared⟩ := gatherAll_ends hholds
  refine ⟨gathered.disk, hcleared.spares, ?_⟩
  rw [merge_eq, ends_bind_ok hgathered] at h
  rcases settle_ends scheme target
    (yields.map fun kept => gatheredLines (storedText kept.entries)).flatten gathered with
    ⟨fault, hends⟩ | ⟨lines, disk, hlines, hdisk, hends⟩
  · cases hends.symm.trans h
    exact .inl ⟨_, rfl, rfl⟩
  · cases hends.symm.trans h
    exact .inr ⟨lines, rfl, hlines, hdisk⟩

end Job

/-! ### The lines that are gathered -/

/-- Entries whose `Entry.line`s are `Canonical`, and of which no line is repeated. -/
structure ReadableEntries (entries : List Entry) : Prop where
  each : ∀ entry ∈ entries, Document.Canonical entry.line
  nodup : (entries.map Entry.line).Nodup

namespace ReadableEntries

variable {entries : List Entry}

/-- `ReadableEntries` holds of a sublist. -/
theorem of_sublist {part : List Entry} (h : ReadableEntries entries) (hpart : part.Sublist entries) :
    ReadableEntries part :=
  ⟨fun entry hmem => h.each entry (hpart.subset hmem), h.nodup.sublist (hpart.map _)⟩

theorem canonical (h : ReadableEntries entries) :
    ∀ line ∈ entries.map Entry.line, Document.Canonical line := by
  intro line hmem
  obtain ⟨entry, hentry, rfl⟩ := List.mem_map.mp hmem
  exact h.each entry hentry

/-- `gatheredLines` of what a temporary file stores are the `Entry.line`s, if the entries are
`ReadableEntries`. -/
theorem gathered_stored (h : ReadableEntries entries) :
    gatheredLines (storedText entries) = entries.map Entry.line := by
  cases hempty : entries.isEmpty with
  | true =>
    obtain rfl := List.isEmpty_iff.mp hempty
    rfl
  | false =>
    have hlines : Document.entryLines (Text.unifyBreaks (storedText entries))
        = entries.map Entry.line := by
      rw [storedText, hempty, if_neg (by simp), flatMap_entryText,
        Document.format_lines h.canonical h.nodup,
        Document.entryLines_unifyBreaks_document fun line hmem => (h.canonical line hmem).oneLine,
        Document.entryLines_document_of_canonical h.canonical h.nodup]
    rw [gatheredLines, hlines]
    refine List.filter_eq_self.mpr fun line hmem => ?_
    obtain ⟨entry, -, rfl⟩ := List.mem_map.mp hmem
    exact List.isPrefixOf_iff_prefix.mpr (Document.entryStart_prefix _ _)

end ReadableEntries

end Externalize
