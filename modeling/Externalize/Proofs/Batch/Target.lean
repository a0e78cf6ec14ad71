import Externalize.Proofs.Batch.Sources

/-!
# `Externalize.Proofs.Batch.Target`: what a batch does to a target that is there

The target of a batch may hold something before. A batch of one file adds to it, as extraction from
that file does. A batch of several files does not look at it at all: temporary files are made where
nothing stands, and the merge writes the target over.

`runBatch_target` is the main theorem, for a batch with any result and a target that no file of the
batch is written to (`Clear`). If several files are merged, the target holds the document of their
lines, whatever it held before. Otherwise it retains what it held: it is unchanged if it is no resource
file, and every canonical line of it is still there if it is a text. `runBatch_drops_entry` is a batch
that drops the entry of its target.

Up to the merge every step of a batch of several files leaves the place of the target `Intact`, whatever
comes of it; the steps are put together by the rules of `Job.Keeps`.
-/

set_option autoImplicit false

namespace Externalize

open Disk (SameFolders Spares Wrote)

/-! ### What a file retains -/

namespace Document

/-- `entryLines` of a `document` has the lines of it that are `Canonical`. -/
theorem mem_entryLines_document {lines : List Text} {line : Text} (hmem : line ∈ lines)
    (h : Canonical line) : line ∈ entryLines (document lines) := by
  rw [entryLines_document_eq, List.mem_eraseDups, List.mem_flatMap]
  exact ⟨line, hmem, by simp [entryLines_eq_self_iff.mpr h]⟩

/-- `entryLines` loses no line by what is added behind a `lineBreak`. -/
theorem mem_entryLines_added {old : Text} {line : Text}
    (hmem : line ∈ entryLines (Text.unifyBreaks old)) (more : Text) :
    line ∈ entryLines (Text.unifyBreaks (old ++ (lineBreak ++ more))) := by
  have hbreak : old ++ (lineBreak ++ more) = old ++ '\r' :: '\n' :: more := rfl
  rw [hbreak, Text.unifyBreaks_append_break, entryLines_append]
  exact List.mem_append_left _ hmem

/-- `entryLines` loses no line that is `Canonical` by what `store` adds. -/
theorem mem_entryLines_stored {old : Text} {line : Text}
    (hmem : line ∈ entryLines (Text.unifyBreaks old)) (h : Canonical line) (entries : List Entry) :
    line ∈ entryLines (Text.unifyBreaks (format
      (Text.unifyBreaks (old ++ entries.flatMap Job.entryText)))) := by
  have hwrites : entries.flatMap Job.entryText
      = (entries.map fun entry => (entry.name.shown, entry.value)).flatMap
          fun entry => lineBreak ++ entryLine entry.1 entry.2 := by
    rw [List.flatMap_map]
    rfl
  rw [entryLines_unifyBreaks_format, format, hwrites, entryLines_written]
  exact mem_entryLines_document ((entryLines_prefix_mergedLines old _).subset hmem) h

-- A line that is not canonical can be lost: a mark inside a mark is read as a mark, and that not again.
example :
    let old := "<res<resources>ources>a".toList
    entryLines old = ["<resources>a".toList] ∧ entryLines (format old) = ["a".toList] := by
  decide +kernel

end Document

/-- A file that held `octets` holds `current` now and has not lost what it held. If `looksLikeResource` did
not hold of it, the octets are the same. If it was a text, the `Canonical` ones of its `entryLines` are
still read. -/
structure Retains (octets current : Octets) : Prop where
  unchanged : looksLikeResource octets = false → current = octets
  lines : ∀ old, Utf8.decode octets = .ok old → ∃ new, Utf8.decode current = .ok new ∧
    ∀ line ∈ Document.entryLines (Text.unifyBreaks old), Document.Canonical line →
      line ∈ Document.entryLines (Text.unifyBreaks new)

theorem Retains.refl (octets : Octets) : Retains octets octets :=
  ⟨fun _ => rfl, fun old hold => ⟨old, hold, fun _ hmem _ => hmem⟩⟩

/-- `Retains` for a resource file to which text is added behind a `Document.lineBreak`. -/
theorem Retains.added {octets : Octets} (hresource : looksLikeResource octets = true) (more : Text) :
    Retains octets (octets ++ Utf8.encode (Document.lineBreak ++ more)) := by
  refine ⟨fun hnot => by simp [hnot] at hresource, fun old hold => ?_⟩
  exact ⟨_, Utf8.decode_append _ hold, fun line hmem _ => Document.mem_entryLines_added hmem more⟩

/-- `Retains` for a resource file in which `store` puts entries. -/
theorem Retains.stored {octets : Octets} {old : Text} (hresource : looksLikeResource octets = true)
    (hold : Utf8.decode octets = .ok old) (entries : List Entry) :
    Retains octets (Utf8.encode (Document.format
      (Text.unifyBreaks (old ++ entries.flatMap Job.entryText)))) := by
  refine ⟨fun hnot => by simp [hnot] at hresource, fun old' hold' => ⟨_, Utf8.decode_encode _, ?_⟩⟩
  obtain rfl := Except.ok.inj (hold.symm.trans hold')
  exact fun line hmem hline => Document.mem_entryLines_stored hmem hline entries

/-! ### Files that leave a place alone -/

/-- `extractFile` writes nothing but entries to the place, where a file with those octets stands. If `file`
leads there it has nothing to extract, and neither its `Job.backupPath` nor its `Job.accessorPath` leads
there if it is to be written. -/
structure Clear (disk : Disk) (options : Options) (place : Location) (octets : Octets) (file : Path) :
    Prop where
  source : disk.locate file = .ok place → ∀ kind text, file.kind? = some kind →
    Utf8.decode octets = .ok text → Literal.shown (literals kind text) = []
  backup : options.backup = true → disk.locate (Job.backupPath file) ≠ .ok place
  accessor : options.accessor = true → disk.locate (Job.accessorPath file) ≠ .ok place

section
variable {disk after : Disk} {options : Options} {place : Location} {octets : Octets} {file : Path}
  {count : Int}

/-- `Clear` depends on the folders alone. -/
theorem Clear.of_folders (h : Clear disk options place octets file) (hfolders : SameFolders disk after) :
    Clear after options place octets file :=
  ⟨fun hlocate => h.source ((hfolders.locate_iff _ _).mpr hlocate),
    fun hasked hlocate => h.backup hasked ((hfolders.locate_iff _ _).mpr hlocate),
    fun hasked hlocate => h.accessor hasked ((hfolders.locate_iff _ _).mpr hlocate)⟩

/-- `place` is not the `origin` of a `Trial` on a file that is `Clear` of it. -/
theorem Clear.origin_ne (h : Clear disk options place octets file)
    (hget : disk.get? place = some (.file octets)) (t : Trial disk options (some file) count) :
    place ≠ t.attempt.origin := by
  obtain ⟨path, kind, scheme, ⟨⟩, hkind, hbuilt, a⟩ := t
  rintro rfl
  have hoctets : a.octets = octets := by
    rw [Attempt.origin, a.source.holds, Option.some.injEq, Node.file.injEq] at hget
    exact hget
  -- An attempt has found something, but in the text at the place there is nothing to find.
  have hraws := scan_raws a.scanned
  rw [h.source a.source.locate kind a.text hkind (hoctets ▸ a.decoded)] at hraws
  exact a.found (List.map_eq_nil_iff.mp hraws)

/-- An `Ending` of a `Trial` on a file that is `Clear` of `place` spares it, unless it is the target. -/
theorem Clear.spares (h : Clear disk options place octets file)
    (hget : disk.get? place = some (.file octets)) (t : Trial disk options (some file) count)
    {settled : Except Fault Scan} (hending : t.attempt.Ending options.backup settled after)
    (hplace : place ≠ t.attempt.place) : Spares disk after (· = place) := by
  have horigin := h.origin_ne hget t
  obtain ⟨path, kind, scheme, ⟨⟩, hkind, hbuilt, a⟩ := t
  have haccessor := NameScheme.accessor_of_build hbuilt
  refine hending.spares_paths.mono fun location heq => ?_
  subst heq
  exact ⟨hplace, horigin, h.backup, fun hneeded => h.accessor (haccessor ▸ hneeded.2)⟩

/-- An `Ending` of a `Trial` on a file that is `Clear` of `place` leaves there a file that `Retains` the
octets, if it is the target. -/
theorem Clear.retains (h : Clear disk options place octets file)
    (hget : disk.get? place = some (.file octets)) (hne : octets ≠ [])
    (t : Trial disk options (some file) count) {settled : Except Fault Scan}
    (hending : t.attempt.Ending options.backup settled after) (hplace : place = t.attempt.place) :
    ∃ current, after.get? place = some (.file current) ∧ Retains octets current := by
  have horigin := h.origin_ne hget t
  obtain ⟨path, kind, scheme, ⟨⟩, hkind, hbuilt, a⟩ := t
  have haccessor := NameScheme.accessor_of_build hbuilt
  subst hplace
  have hprevious := a.opens.previous_eq hget
  -- The target opens, so it is taken for a resource file.
  have hresource := a.opens.resource octets hprevious hne
  have haside : options.backup = true → disk.locate (Job.backupPath file) = .ok a.aside →
      a.place ≠ a.aside := fun hasked hlocate heq => h.backup hasked (heq ▸ hlocate)
  rcases hending.result_cases with rfl | ⟨cause, rfl⟩
  · obtain ⟨old, hold, hheld⟩ := hending.exists_stored
      (fun hasked => haside hasked (hending.locate.1 hasked)) horigin
      fun hneeded heq => h.accessor (haccessor ▸ hneeded.2) (heq ▸ hending.locate.2 hneeded)
    rw [hprevious] at hold
    exact ⟨_, hheld, .stored hresource hold _⟩
  · cases hending with
    | broken _ hwrote =>
      rw [hprevious] at hwrote
      exact ⟨_, hwrote.get?_place, .added hresource _⟩
    | putBack _ _ _ _ hsame => exact ⟨octets, (hsame _).trans hget, .refl octets⟩
    | halfDone _ hadmits _ _ hrelinked =>
      obtain ⟨old, hold, hheld⟩ := hrelinked.exists_stored
        (fun hasked => haside hasked (a.locate_aside (hadmits hasked))) horigin
      rw [hprevious] at hold
      exact ⟨_, hheld, .stored hresource hold _⟩

end

/-! ### Several files, whatever comes of them -/

namespace Job

section
variable {disk : Disk} {place : Location} {octets : Octets}

/-- `now` has the folders of `disk`, and the same at `place`. -/
def Intact (disk : Disk) (place : Location) (now : Disk) : Prop :=
  Spares disk now (· = place)

/-- `locate` does not lead the path to `place`. -/
def Elsewhere (disk : Disk) (place : Location) (path : Path) : Prop :=
  disk.locate path ≠ .ok place

/-- `Intact` is kept by what spares all locations but those that a path leads to, if the path leads
`Elsewhere`. -/
theorem Intact.of_spares {now after : Disk} {path : Path} (h : Intact disk place now)
    (hpath : Elsewhere disk place path)
    (hspares : Spares now after fun location => now.locate path ≠ .ok location) :
    Intact disk place after := by
  refine h.trans (hspares.mono fun location heq hlocate => hpath ?_)
  exact (h.folders.locate_iff _ _).mpr (heq ▸ hlocate)

theorem Intact.get? {now : Disk} (h : Intact disk place now)
    (hget : disk.get? place = some (.file octets)) : now.get? place = some (.file octets) :=
  (Spares.get? h place rfl).trans hget

theorem remove_keeps {path : Path} (h : Elsewhere disk place path) :
    Keeps (Intact disk place) (remove path) fun _ => True :=
  fun space hspace => ⟨hspace.of_spares h (remove_spares path space), fun _ _ => trivial⟩

theorem discardTemporary_keeps {path : Path} (h : Elsewhere disk place path) :
    Keeps (Intact disk place) (discardTemporary path) fun _ => True :=
  fun space hspace => ⟨hspace.of_spares h (discardTemporary_spares path space), fun _ _ => trivial⟩

/-- `makeTemporary` keeps `Intact` a place at which a file stands, as it makes its file where nothing
stands. -/
theorem makeTemporary_keeps (hget : disk.get? place = some (.file octets)) (folder : Path)
    (index : Nat) :
    Keeps (Intact disk place) (makeTemporary folder index) (Elsewhere disk place) := by
  intro space hspace
  rcases makeTemporary_ends folder index space with
    ⟨path, free, after, hends, hfree, hwrote, hat⟩ | ⟨fault, hends⟩
  · -- The place is taken, and a temporary file only ever goes to a free one.
    have hne : place ≠ free := by
      rintro rfl
      rw [hspace.get? hget] at hfree
      cases hfree
    have hafter : Intact disk place after.disk :=
      hspace.trans (hwrote.spares.mono fun location heq => heq ▸ hne)
    rw [hends]
    refine ⟨hafter, ?_⟩
    rintro _ ⟨⟩ hlocate
    exact hne (Except.ok.inj (((hafter.folders.locate_iff _ _).mp hlocate).symm.trans hat.locate))
  · rw [hends]
    exact ⟨hspace, by simp⟩

theorem makeTemporaries_keeps (hget : disk.get? place = some (.file octets)) (folder : Path)
    (index : Nat) (files : List Path) {made : List Path}
    (hmade : ∀ path ∈ made, Elsewhere disk place path) :
    Keeps (Intact disk place) (makeTemporaries folder index files made) fun result =>
      ∀ paths, result = .ok paths → ∀ path ∈ paths, Elsewhere disk place path := by
  -- By induction on the files; those that are made already are the accumulator, so they vary.
  induction files generalizing index made with
  | nil =>
    refine .pure ?_
    rintro _ ⟨⟩
    exact hmade
  | cons file files ih =>
    have hattempt : Keeps (Intact disk place)
        (onRefusal (.ok <$> makeTemporary folder index) fun fault => return .error fault)
        fun result : Except DiskFault Path => ∀ path, result = .ok path → Elsewhere disk place path := by
      refine .onRefusal ((makeTemporary_keeps hget folder index).map fun path hpath => ?_)
        fun fault => .pure (by simp)
      rintro _ ⟨⟩
      exact hpath
    refine hattempt.bind fun result hresult => ?_
    cases result with
    | ok path =>
      refine ih (index + 1) fun other hmem => ?_
      rcases List.mem_append.mp hmem with hmem | hmem
      · exact hmade other hmem
      · rw [List.mem_singleton.mp hmem]
        exact hresult path rfl
    | error fault =>
      exact (Keeps.forM fun path hmem => discardTemporary_keeps (hmade path hmem)).bind
        fun _ _ => .pure (by simp)

/-- `extractFile` into a target `Elsewhere` keeps `Intact`. -/
theorem extractFile_keeps {options : Options} {file target : Path}
    (hget : disk.get? place = some (.file octets)) (hclear : Clear disk options place octets file)
    (htarget : Elsewhere disk place target) (counter : Counter) :
    Keeps (Intact disk place) (extractFile { options with target := some target } (some file) counter)
      fun _ => True := by
  intro space hspace
  generalize hends : (extractFile { options with target := some target } (some file) counter).ends space
    = ended
  obtain ⟨result, after⟩ := ended
  refine ⟨?_, fun _ _ => trivial⟩
  rcases extractFile_disk hends with hsame | ⟨t, settled, hending⟩
  · show Intact disk place after.disk
    rw [hsame]
    exact hspace
  · -- `Clear` does not speak of the target, so it carries over to the options with the temporary file.
    have hclear' : Clear space.disk { options with target := some target } place octets file :=
      let moved := hclear.of_folders hspace.folders
      ⟨moved.source, moved.backup, moved.accessor⟩
    refine hspace.trans (hclear'.spares (hspace.get? hget) t hending fun heq => htarget ?_)
    rw [hspace.folders.locate_iff, heq]
    obtain ⟨path, kind, scheme, ⟨⟩, hkind, hbuilt, a⟩ := t
    exact a.opens.locate

/-- `extractEach` into temporary files `Elsewhere` keeps `Intact`. -/
theorem extractEach_keeps {options : Options} (hget : disk.get? place = some (.file octets))
    {pairs : List (Path × Path)}
    (hclear : ∀ pair ∈ pairs, Clear disk options place octets pair.1)
    (hpairs : ∀ pair ∈ pairs, Elsewhere disk place pair.2) (count : Int) :
    Keeps (Intact disk place) (extractEach options count pairs) fun harvest =>
      ∀ path ∈ harvest.temporaries, Elsewhere disk place path := by
  induction pairs generalizing count with
  | nil => exact .pure (by simp)
  | cons pair pairs ih =>
    obtain ⟨file, temporary⟩ := pair
    have hfirst := hpairs (file, temporary) (by simp)
    have hrest := ih (fun pair hmem => hclear pair (by simp [hmem]))
      fun pair hmem => hpairs pair (by simp [hmem])
    refine (Keeps.record _ _ _).bind fun _ _ =>
      (extractFile_keeps hget (hclear (file, temporary) (by simp)) hfirst _).bind fun outcome _ => ?_
    -- The temporary file is kept if something was extracted, and discarded otherwise.
    split
    · refine (hrest outcome.count).bind fun later hlater => .pure fun path hmem => ?_
      rcases List.mem_cons.mp hmem with rfl | hmem
      · exact hfirst
      · exact hlater path hmem
    · exact (discardTemporary_keeps hfirst).bind fun _ _ =>
        (hrest count).bind fun later hlater => .pure hlater

theorem gather_keeps {path : Path} (h : Elsewhere disk place path) :
    Keeps (Intact disk place) (gather path) fun _ => True := by
  have hexists : Keeps (Intact disk place) (pathExists path) fun _ => True :=
    (Keeps.node? path).bind fun _ _ => .pure trivial
  have hlines : Keeps (Intact disk place) (some <$> readLines path) fun _ => True :=
    (Keeps.readLines path).map fun _ _ => trivial
  -- Only the last of the four ways out changes the disk, by taking the file itself away.
  refine hexists.bind fun found _ => ?_
  split
  · exact .pure trivial
  · refine (hlines.tryCatch fun fault => ?_).bind fun text _ => ?_
    · split
      · exact (Keeps.record _ _ _).bind fun _ _ => .pure trivial
      · exact .throw _
    · split
      · exact .pure trivial
      · exact ((remove_keeps h).onRefusal fun _ => .record _ _ _).bind fun _ _ => .pure trivial

/-- `merge` that fails keeps `Intact`: it has written nothing to its target. -/
theorem merge_fault {scheme : NameScheme} {temporaries : List Path} {target : Path}
    {space after : Workspace} {fault : Fault} (hspace : Intact disk place space.disk)
    (htemporaries : ∀ path ∈ temporaries, Elsewhere disk place path)
    (h : (merge scheme temporaries target).ends space = (.error fault, after)) :
    Intact disk place after.disk := by
  have hgather : Keeps (Intact disk place) (temporaries.mapM gather) fun _ => True :=
    .mapM fun path hmem => gather_keeps (htemporaries path hmem)
  rw [merge_eq] at h
  -- The target is written by the very last step, and a merge that came to it does not fail.
  rcases hgather.of_bind hspace h with hkept | ⟨gathered, mid, -, hkept, h⟩
  · exact hkept
  · rcases settle_ends scheme target gathered.flatten mid with
      ⟨fault', hends⟩ | ⟨lines, written, -, -, hends⟩
    · cases hends.symm.trans h
      exact hkept
    · cases hends.symm.trans h

theorem attempted_keeps {α : Type} {job : Job α} {holds : Disk → Prop} {gives : α → Prop}
    (h : Keeps holds job gives) :
    Keeps holds (attempted job) fun result => ∀ a, result = .ok a → gives a := by
  refine .tryCatch (h.map fun a ha => ?_) fun fault => ?_
  · rintro _ ⟨⟩
    exact ha
  · split
    · exact .pure (by simp)
    · exact .throw _

/-- `runSeveral` keeps `Intact`, unless its result is `extracted`. -/
theorem runSeveral_intact {options : Options} {folder first : Path} {files : List Path}
    {space after : Workspace} {result : Except Fault BatchOutcome}
    (hget : space.disk.get? place = some (.file octets))
    (hclear : ∀ file ∈ files, Clear space.disk options place octets file)
    (h : (runSeveral options folder first files).ends space = (result, after)) :
    Intact space.disk place after.disk ∨ ∃ outcome written, result = .ok outcome ∧
      outcome.result = .extracted (batchTarget options first) written := by
  have hscheme : Keeps (Intact space.disk place) (schemeOf options) fun _ => True :=
    .of_disk fun other => by rw [schemeOf_ends]
  have hspace : Intact space.disk place space.disk := .refl _ _
  -- At each step the batch ends early, or goes on with the place intact.
  rcases (attempted_keeps hscheme).of_bind hspace h with hkept | ⟨built, told, -, htold, h⟩
  · exact .inl hkept
  cases built with
  | error problem =>
    cases h
    exact .inl htold
  | ok scheme =>
    rcases (makeTemporaries_keeps hget (batchTarget options first).parent 1 files
      (by simp)).of_bind htold h with hkept | ⟨made, mid, hmade, hmid, h⟩
    · exact .inl hkept
    cases made with
    | error fault =>
      cases h
      exact .inl hmid
    | ok temporaries =>
      have hpairs : ∀ pair ∈ files.zip temporaries, Elsewhere space.disk place pair.2 :=
        fun pair hmem => hmade temporaries rfl pair.2 (List.of_mem_zip hmem).2
      rcases (extractEach_keeps hget (fun pair hmem => hclear pair.1 (List.of_mem_zip hmem).1) hpairs
        0).of_bind hmid h with hkept | ⟨harvest, each, hharvest, heach, h⟩
      · exact .inl hkept
      by_cases hcount : harvest.count ≤ 0
      · rw [if_pos hcount] at h
        rcases (Keeps.forM fun path hmem => discardTemporary_keeps (hharvest path hmem)).of_bind heach h
          with hkept | ⟨_, discarded, -, hdiscarded, h⟩
        · exact .inl hkept
        · cases h
          exact .inl hdiscarded
      · rw [if_neg hcount, ends_bind, attempted, ends_tryCatch, ends_map] at h
        generalize hmerge : (merge scheme harvest.temporaries (batchTarget options first)).ends each
          = ended at h
        obtain ⟨merged, last⟩ := ended
        cases merged with
        | ok written =>
          cases h
          exact .inr ⟨_, written, rfl, rfl⟩
        | error fault =>
          have hlast := merge_fault heach hharvest hmerge
          cases fault <;>
          · cases h
            exact .inl hlast

/-- `merge` that ends well writes the document of the gathered lines to its target. -/
theorem merge_target {yields : List Yield} {scheme : NameScheme} {target : Path}
    {space after : Workspace} {written : Nat} (hspace : Intact disk place space.disk)
    (hlocate : disk.locate target = .ok place) (hget : disk.get? place = some (.file octets))
    (hholds : Holds space.disk yields)
    (htemporaries : ∀ kept ∈ yields, Elsewhere disk place kept.temporary)
    (h : (merge scheme (yields.map Yield.temporary) target).ends space = (.ok written, after)) :
    ∃ lines, scheme.renumber (yields.flatMap fun kept => gatheredLines (storedText kept.entries))
        = .ok lines ∧
      after.disk.get? place = some (.file (Utf8.encode (Document.document lines))) := by
  -- Gathering takes the temporary files away, and none of them is at the place.
  have hnot : place ∉ yields.map Yield.place := by
    intro hmem
    obtain ⟨kept, hkept, hplace⟩ := List.mem_map.mp hmem
    refine htemporaries kept hkept ?_
    rw [hspace.folders.locate_iff, ← hplace]
    exact (hholds.each kept hkept).locate
  obtain ⟨gathered, hspares, ⟨_, hfault, -⟩ | ⟨lines, -, hlines, hwrite⟩⟩ := merge_ends hholds h
  · cases hfault
  · have hgathered : Intact disk place gathered :=
      hspace.trans (hspares.mono fun location heq => heq ▸ hnot)
    obtain ⟨settled, hupdate, hwrote⟩ :=
      Disk.update_file (fun _ => Utf8.encode (Document.document lines))
        ((hgathered.folders.locate_iff _ _).mp hlocate) (hgathered.get? hget)
    obtain rfl := Except.ok.inj (hwrite.symm.trans hupdate)
    rw [List.flatMap_def]
    exact ⟨lines, hlines, hwrote.get?_place⟩

/-- `runSeveral` whose result is `extracted` leaves the document of the gathered lines in its target. -/
theorem runSeveral_merged {options : Options} {folder first : Path} {files : List Path}
    {space after : Workspace} {outcome : BatchOutcome} {written : Nat}
    (hlocate : space.disk.locate (batchTarget options first) = .ok place)
    (hget : space.disk.get? place = some (.file octets))
    (hclear : ∀ file ∈ files, Clear space.disk options place octets file)
    (h : (runSeveral options folder first files).ends space = (.ok outcome, after))
    (hresult : outcome.result = .extracted (batchTarget options first) written) :
    ∃ scheme lines, NameScheme.build options.stem options.ending options.accessor = .ok scheme ∧
      scheme.renumber (outcome.outcomes.flatMap fun file => gatheredLines (storedText file.entries))
        = .ok lines ∧
      after.disk.get? place = some (.file (Utf8.encode (Document.document lines))) := by
  obtain ⟨-, hends⟩ := runSeveral_ends h
  obtain ⟨folder', files', outcomes, result⟩ := outcome
  cases hresult
  generalize after.disk = final at hends ⊢
  cases hends with
  | noTemporaries _ hfailed | unmerged _ _ _ _ _ hfailed =>
    obtain ⟨_, _, hfailed⟩ := hfailed
    cases hfailed
  | @merged scheme temporaries made each last harvest _ hscheme hmake hextract hmerge =>
    obtain ⟨hmade, helsewhere⟩ := makeTemporaries_keeps hget (batchTarget options first).parent 1 files
      (List.forall_mem_nil _) space (.refl _ _)
    rw [hmake] at hmade helsewhere
    obtain ⟨heach, hkept⟩ := extractEach_keeps hget
      (fun pair hmem => hclear pair.1 (List.of_mem_zip hmem).1)
      (fun pair hmem => helsewhere _ rfl temporaries rfl pair.2 (List.of_mem_zip hmem).2) 0 made hmade
    rw [hextract] at heach hkept
    -- What the temporary files hold is known of tasks, not of pairs.
    obtain ⟨tasks, -, hready, hpairs⟩ := exists_ready hmake
    rw [hpairs] at hextract
    obtain ⟨-, -, yields, htemporaries, hholds, -, hentries⟩ :=
      extractEach_holds hscheme hready hextract
    replace hkept := hkept harvest rfl
    rw [htemporaries] at hmerge hkept
    obtain ⟨lines, hlines, hfinal⟩ := merge_target heach hlocate hget hholds
      (fun kept hmem => hkept _ (List.mem_map_of_mem hmem)) hmerge
    rw [hentries (fun entries => gatheredLines (storedText entries)) (by decide +kernel)] at hlines
    exact ⟨scheme, lines, hscheme, hlines, hfinal⟩

/-! ### One file -/

/-- `runSingle` leaves a target that `Retains` its octets. -/
theorem runSingle_retains {options : Options} {folder file : Path} {space after : Workspace}
    {result : Except Fault BatchOutcome}
    (hlocate : space.disk.locate (targetFor options file) = .ok place)
    (hget : space.disk.get? place = some (.file octets)) (hne : octets ≠ [])
    (hclear : Clear space.disk options place octets file)
    (h : (runSingle options folder file).ends space = (result, after)) :
    ∃ current, after.disk.get? place = some (.file current) ∧ Retains octets current := by
  rw [runSingle, ends_bind] at h
  generalize hends : (extractFile options (some file) (.shared 0)).ends space = ended at h
  obtain ⟨single, mid⟩ := ended
  -- After the file nothing but the journal is written.
  have hdisk : after.disk = mid.disk := by
    cases single <;>
    · cases h
      rfl
  rw [hdisk]
  rcases extractFile_disk hends with hsame | ⟨t, settled, hending⟩
  · exact ⟨octets, hsame ▸ hget, .refl octets⟩
  · refine hclear.retains hget hne t hending ?_
    obtain ⟨path, kind, scheme, ⟨⟩, hkind, hbuilt, a⟩ := t
    exact Except.ok.inj (hlocate.symm.trans a.opens.locate)

end

/-! ### All batches -/

/-- The files that `discover` gives, none if it fails. -/
def filesFound (folder : Path) (space : Workspace) : List Path :=
  ((discover folder).ends space).1.toOption.getD []

theorem filesFound_of_sorted {folder : Path} {space : Workspace} {location : Location}
    (hzero : ¬HasZero folder)
    (hfind : (space.disk.find folder).toOption = some (location, .folder))
    (hlisted : space.disk.Listed folder location) :
    filesFound folder space = (space.disk.nodes.filterMap (sourceBelow? location)).map
      fun names => { folder with names := folder.names ++ names } := by
  rw [filesFound, discover_of_sorted hzero hfind hlisted]
  rfl

/-- The resource file of `runBatch` on these files. One file alone has the target that `extractFile` has
outside of a batch. -/
def batchTarget? (options : Options) : List Path → Option Path
  | [] => options.target
  | [file] => some (targetFor options file)
  | first :: _ => some (batchTarget options first)

/-- `discover` keeps every property of the disk. -/
theorem discover_keeps (holds : Disk → Prop) (folder : Path) :
    Keeps holds (discover folder) fun _ => True := by
  refine (Keeps.record _ _ _).bind fun _ _ => (Keeps.node? folder).bind fun node _ => ?_
  have hwarned (message : String) :
      Keeps holds (do record .warning .folder message; return ([] : List Path)) fun _ => True :=
    (Keeps.record _ _ _).bind fun _ _ => .pure trivial
  split
  · exact hwarned _
  · exact hwarned _
  · exact hwarned _
  · have hlook : Keeps holds (look folder (·.locate folder)) fun _ => True :=
      .of_disk fun space => by rw [ends_look]
    have hdisk : Keeps holds disk fun _ => True := .of_disk fun _ => rfl
    refine hlook.bind fun _ _ => hdisk.bind fun _ _ => ?_
    split
    · exact .pure trivial
    · exact .throw _

end Job

/-- `runBatch` found several files and its result is `.extracted` into the target. -/
def Merged (files : List Path) (target : Path) (result : Except Fault BatchOutcome) : Prop :=
  2 ≤ files.length ∧
    ∃ outcome written, result = .ok outcome ∧ outcome.result = .extracted target written

/-- **What `runBatch` does to a target that is there.** Suppose that the target holds octets, and that each
of the `Job.filesFound` is `Clear` of it. If the batch is `Merged`, the target holds the
`Document.document` of the lines that `scheme.renumber` makes of those that were gathered, whatever it held
before. If not, be the result an outcome or a fault, the target `Retains` the octets. -/
theorem runBatch_target {options : Options} {folder target : Path} {space after : Workspace}
    {result : Except Fault BatchOutcome} {place : Location} {octets : Octets}
    (h : (Job.runBatch options folder).ends space = (result, after))
    (htarget : Job.batchTarget? options (Job.filesFound folder space) = some target)
    (hfind : space.disk.find target = .ok (place, .file octets)) (hne : octets ≠ [])
    (hclear : ∀ file ∈ Job.filesFound folder space, Clear space.disk options place octets file) :
    (Merged (Job.filesFound folder space) target result →
      ∃ outcome scheme lines, result = .ok outcome ∧
        NameScheme.build options.stem options.ending options.accessor = .ok scheme ∧
        scheme.renumber (outcome.outcomes.flatMap fun file =>
          gatheredLines (storedText file.entries)) = .ok lines ∧
        after.disk.get? place = some (.file (Utf8.encode (Document.document lines)))) ∧
    (¬Merged (Job.filesFound folder space) target result →
      ∃ current, after.disk.get? place = some (.file current) ∧ Retains octets current) := by
  obtain ⟨hlocate, hget⟩ := Disk.find_eq_ok_iff.mp hfind
  obtain ⟨hdisk, -⟩ := Job.discover_keeps (· = space.disk) folder space rfl
  rw [Job.runBatch, Job.ends_bind] at h
  -- The search is one and the same in the run and in `filesFound`, so its end can be split once.
  unfold Job.filesFound at htarget hclear ⊢
  generalize (Job.discover folder).ends space = ended at h htarget hclear hdisk ⊢
  obtain ⟨found, mid⟩ := ended
  rw [← show mid.disk = space.disk from hdisk] at hlocate hget hclear
  cases found with
  | error fault =>
    cases h
    exact ⟨fun hmerged => absurd hmerged.1 (by simp [Except.toOption]),
      fun _ => ⟨octets, hget, .refl octets⟩⟩
  | ok files =>
    replace h : (Job.extractFiles options folder files).ends mid = (result, after) := h
    simp only [Except.toOption, Option.getD_some] at htarget hclear ⊢
    cases files with
    | nil =>
      cases h
      exact ⟨fun hmerged => absurd hmerged.1 (by simp), fun _ => ⟨octets, hget, .refl octets⟩⟩
    | cons first rest =>
      cases rest with
      | nil =>
        obtain rfl := Option.some.inj htarget
        refine ⟨fun hmerged => absurd hmerged.1 (by simp), fun _ => ?_⟩
        exact Job.runSingle_retains hlocate hget hne (hclear first (by simp)) h
      -- Only here can the batch be `Merged`: there are two files or more.
      | cons second rest =>
        obtain rfl := Option.some.inj htarget
        refine ⟨?_, fun hmerged => ?_⟩
        · rintro ⟨-, outcome, written, rfl, hresult⟩
          obtain ⟨scheme, lines, hlines⟩ := Job.runSeveral_merged hlocate hget hclear h hresult
          exact ⟨outcome, scheme, lines, rfl, hlines⟩
        · rcases Job.runSeveral_intact hget hclear h with hintact | hextracted
          · exact ⟨octets, hintact.get? hget, .refl octets⟩
          · exact absurd ⟨by simp, hextracted⟩ hmerged

/-- A resource file with one entry. -/
def entryBefore : Octets :=
  Utf8.encode "<resources><string name=\"a\">b</string></resources>".toList

/-- `runBatch_target` at one file, with a backup and an accessor class. -/
theorem runBatch_target_one_file :
    let folder : Path := { names := ["p".toList] }
    let target : Path := { names := ["t.xml".toList] }
    let options : Options := { target := some target, backup := true, accessor := true }
    let space : Workspace :=
      { disk :=
          { home := []
            nodes :=
              [(["p".toList], .folder),
                (["p".toList, "A.java".toList], .file (Utf8.encode "x = \"Hello\";".toList)),
                (["t.xml".toList], .file entryBefore)] } }
    ∃ outcome after,
      (Job.runBatch options folder).ends space = (.ok outcome, after) ∧
      outcome.result = .extracted target 1 ∧
      ∃ current, after.disk.get? ["t.xml".toList] = some (.file current) ∧
        Retains entryBefore current := by
  intro folder target options space
  let source : Path := { names := ["p".toList, "A.java".toList] }
  have hfiles : Job.filesFound folder space = [source] := by
    rw [Job.filesFound_of_sorted (by decide) rfl (by decide +kernel)]
    decide +kernel
  have htarget : Job.batchTarget? options (Job.filesFound folder space) = some target := by
    rw [hfiles]
    rfl
  obtain ⟨outcome, hends, hresult⟩ :
      ∃ outcome, (Job.runBatch options folder).ends space
        = (.ok outcome, ((Job.runBatch options folder).ends space).2) ∧
      outcome.result = .extracted target 1 :=
    Job.exists_ends_of_map (by
      rw [Job.runBatch_of_sorted (by decide) rfl (by decide +kernel)]
      decide +kernel)
  -- Neither the source nor what is written beside it is at the target.
  have hclear : ∀ file ∈ [source], Clear space.disk options ["t.xml".toList] entryBefore file := by
    rintro _ (_ | ⟨_, ⟨⟩⟩)
    exact ⟨fun h => absurd (congrArg Except.toOption h) (by decide +kernel),
      fun _ h => absurd (congrArg Except.toOption h) (by decide +kernel),
      fun _ h => absurd (congrArg Except.toOption h) (by decide +kernel)⟩
  obtain ⟨-, hretains⟩ := runBatch_target hends htarget
    (show space.disk.find target = .ok (["t.xml".toList], .file entryBefore) from rfl)
    (by decide +kernel) (hfiles ▸ hclear)
  rw [hfiles] at hretains
  exact ⟨outcome, _, hends, hresult, hretains fun hmerged => absurd hmerged.1 (by decide)⟩

/-- `runBatch` of two files whose target has an entry ends well, and the entry is gone. -/
theorem runBatch_drops_entry :
    let space := twoSources [(["t.xml".toList], .file entryBefore)]
    let job := Job.runBatch { target := some { names := ["t.xml".toList] } } { names := ["p".toList] }
    ∃ outcome after, job.ends space = (.ok outcome, after) ∧
      outcome.status = "extracted" ∧ looksLikeResource entryBefore = true ∧
      Document.entryLines "<resources><string name=\"a\">b</string></resources>".toList
        = ["<string name=\"a\">b</string>".toList] ∧
      after.disk.get? ["t.xml".toList] = some (.file (Utf8.encode (Document.document
        ["<string name=\"extracted_string1\">Hello</string>".toList]))) := by
  intro space job
  obtain ⟨outcome, hends, hstatus⟩ :
      ∃ outcome, job.ends space = (.ok outcome, (job.ends space).2) ∧ outcome.status = "extracted" :=
    Job.exists_ends_of_map (by
      rw [Job.runBatch_of_sorted (by decide) (find_twoSources _) (by decide +kernel)]
      decide +kernel)
  refine ⟨outcome, _, hends, hstatus, by decide +kernel, by decide +kernel, ?_⟩
  rw [Job.runBatch_of_sorted (by decide) (find_twoSources _) (by decide +kernel)]
  decide +kernel

end Externalize
