import Externalize.Proofs.Batch.Relinked

/-!
# `Externalize.Proofs.Batch.Names`: the names of a batch agree with its sources

In a batch of several files every name is given twice: once while the sources are relinked, by a count
that goes on from file to file, and once when the temporary files are merged, by the place of the
line. In between the entries are stored, brought into the canonical layout, read again and renamed.

`runBatch_names_agree` says that the two agree if the templates are `Tame` and the values `Holdable`.
What that means is `BatchOutcome.Agrees`: the entries of the files bear the names from one on, the target
is the document of just these entries, and each source that was extracted holds `relink` of its former
text by the entries of its file (`merged_relinks`). So every reference in a source leads to the line that
holds the literal whose place it took.
-/

set_option autoImplicit false

namespace Externalize

open Disk (SameFolders Spares Wrote)

/-! ### Names that can be read back -/

/-- A value that `IsOneLine`, without the marks that `Document.entryLines` acts on. -/
structure Document.Holdable (value : Text) : Prop where
  oneLine : Text.IsOneLine value
  opening : ¬openingStart <:+: value
  closing : ¬closing <:+: value
  entryEnd : ¬entryEnd <:+: value
  declarationSingle : ¬declarationSingle <:+: value

/-- A value without `<` is `Holdable`, as all the marks begin with it. -/
theorem Document.Holdable.of_notMem {value : Text} (hline : Text.IsOneLine value) (h : '<' ∉ value) :
    Holdable value :=
  { oneLine := hline
    opening := fun hmark => h (hmark.subset (by decide))
    closing := fun hmark => h (hmark.subset (by decide))
    entryEnd := fun hmark => h (hmark.subset (by decide))
    declarationSingle := fun hmark => h (hmark.subset (by decide)) }

/-- A value that is `Holdable` `Survives`. -/
theorem Document.Holdable.survives {value : Text} (h : Holdable value) : Survives value := by
  refine ⟨h.oneLine, h.opening, h.closing, h.declarationSingle, fun blanks _ hmark => ?_⟩
  -- Of the tag that follows the value only the first character counts, so the end is not there.
  have hend : Document.entryEnd = '<' :: Document.entryEnd.drop 1 := by decide
  rw [List.append_assoc] at hmark
  have hwithin := (List.prefix_append Document.entryEnd _).isInfix.trans hmark
  rw [hend] at hwithin
  rcases infix_append_mark (by decide) hwithin with hvalue | hbehind
  · exact h.entryEnd (hend ▸ hvalue)
  · exact absurd hbehind.length_le (by decide)

section

variable {stem ending : Option Points} {accessor : Bool} {scheme : NameScheme} {count : Int}
  {entries : List Entry}

/-- Entries with `NamesFrom` are `ReadableEntries`, if the templates are `Tame` and the values
`Holdable`. -/
theorem NameScheme.NamesFrom.readableEntries (hstem : Tame stem) (hending : Tame ending)
    (h : build stem ending accessor = .ok scheme) (hnames : scheme.NamesFrom count entries)
    (hquote : ∀ entry ∈ entries, '"' ∉ entry.value)
    (hvalues : ∀ entry ∈ entries, Document.Holdable entry.value) : ReadableEntries entries := by
  refine ⟨fun entry hmem => ?_, hnames.nodup_lines hstem hending h⟩
  exact (hnames.canonical_line_iff hstem hending h hmem (hquote entry hmem)).mpr
    (hvalues entry hmem).survives

/-- `renumber` leaves the lines of entries with `NamesFrom` zero as they are, if the templates are
`Tame`. -/
theorem NameScheme.NamesFrom.renumber (hstem : Tame stem) (hending : Tame ending)
    (h : build stem ending accessor = .ok scheme) (hnames : scheme.NamesFrom 0 entries)
    (htexts : ∀ entry ∈ entries, entry.name.text? ≠ none) :
    scheme.renumber (entries.map Entry.line) = .ok (entries.map Entry.line) := by
  refine renumber_entryLines hnames (fun entry hmem => ?_) htexts
  have htame := hnames.tameChar hstem hending h hmem
  refine ⟨fun hc => (htame _ hc).1 (by simp), fun hc => ?_, fun hc => (htame _ hc).1 (by simp)⟩
  exact absurd (htame _ hc).2 (by decide)

end

/-! ### The target of a batch -/

/-- The entries of the outcomes of a batch, in the order of its `files`. -/
def BatchOutcome.entries (outcome : BatchOutcome) : List Entry :=
  outcome.outcomes.flatMap FileOutcome.entries

/-- The path leads to a file with the octets of `text`, or to a device. -/
def Disk.HoldsText (disk : Disk) (path : Path) (text : Text) : Prop :=
  ∃ place, disk.locate path = .ok place ∧
    (disk.get? place = some (.file (Utf8.encode text)) ∨ disk.get? place = some .device)

/-- The target and the sources of a batch agree, by the entries that its `FileOutcome`s report:

- `names`: the entries bear the names from one on, in the order of the files;
- `texts`: no name has halves, so that `shown` loses nothing where it stands for a name;
- `references`: each refers by its name, in the way of the kind of its file;
- `target`: `Job.batchTarget` holds the document of the lines of just these entries;
- `written`: the outcome counts them;
- `sources`: on a tree, each source that was extracted holds `relink` of its former text by the entries of
  its file, if no later write of the batch goes there. -/
structure BatchOutcome.Agrees (outcome : BatchOutcome) (options : Options) (scheme : NameScheme)
    (disk after : Disk) : Prop where
  names : ∀ (index : Nat) (h : index < outcome.entries.length),
    scheme.name (index + 1) = .ok outcome.entries[index].name
  texts : ∀ entry ∈ outcome.entries, entry.name.text? ≠ none
  references : ∀ file ∈ outcome.outcomes, ∀ entry ∈ file.entries,
    ∃ kind, file.result.path?.bind Path.kind? = some kind ∧
      entry.reference = scheme.reference kind entry.name
  target : ∃ first, outcome.files.head? = some first ∧
    outcome.target? = some (Job.batchTarget options first) ∧
    after.HoldsText (Job.batchTarget options first)
      (Document.document (outcome.entries.map Entry.line))
  written : outcome.written = outcome.entries.length
  sources : disk.IsTree → ∀ file ∈ outcome.outcomes, file.result.status = "extracted" →
    ∃ path ∈ outcome.files, file.result.path? = some path ∧
      ∀ target, outcome.target? = some target → Job.LeavesSource disk options target path →
        disk.Relinks after path file.entries

theorem BatchOutcome.exists_of_extracted {outcome : BatchOutcome} (h : outcome.status = "extracted") :
    ∃ target written, outcome.result = .extracted target written := by
  unfold status at h
  split at h
  · exact absurd h (by decide)
  · exact absurd h (by decide)
  · exact ⟨_, _, by assumption⟩
  · exact absurd h (by decide)

namespace Job

/-- `HoldsText` after `write`. -/
theorem holdsText_of_write {disk after : Disk} {path : Path} {text : Text}
    (h : disk.write path (Utf8.encode text) = .ok after) : after.HoldsText path text := by
  have hfolders := Disk.update_sameFolders h
  obtain ⟨place, hlocate, hget⟩ := Disk.update_eq_ok_iff.mp h
  refine ⟨place, (hfolders.locate_iff path place).mp hlocate, ?_⟩
  rcases hget with ⟨hget, rfl⟩ | ⟨octets, hget, rfl⟩ | ⟨hget, rfl⟩
  · exact .inl (Disk.wrote_set _ (by simp [hget])).get?_place
  · exact .inl (Disk.wrote_set _ (by simp [hget])).get?_place
  · exact .inr hget

/-- `merge` of the temporary files of a `Harvest` writes the document of its entries. -/
theorem merge_harvest {stem ending : Option Points} {accessor : Bool} {scheme : NameScheme}
    {harvest : Harvest} {yields : List Yield} {target : Path} {space after : Workspace}
    {written : Nat} (hstem : Tame stem) (hending : Tame ending)
    (hscheme : NameScheme.build stem ending accessor = .ok scheme)
    (hnamed : harvest.NamedFrom scheme 0) (hholds : Holds space.disk yields)
    (hentries : yields.flatMap Yield.entries = harvest.entries)
    (hvalues : ∀ entry ∈ harvest.entries, Document.Holdable entry.value)
    (h : (merge scheme (yields.map Yield.temporary) target).ends space = (.ok written, after)) :
    written = harvest.entries.length ∧
      after.disk.HoldsText target (Document.document (harvest.entries.map Entry.line)) := by
  have hreadable := hnamed.names.readableEntries hstem hending hscheme hnamed.values hvalues
  have hlines : (yields.map fun kept => gatheredLines (storedText kept.entries)).flatten
      = harvest.entries.map Entry.line := by
    rw [← hentries, List.map_flatMap, List.flatMap_def]
    -- Each temporary file holds a part of the entries, and a part is readable as the whole is.
    refine congrArg _ (List.map_congr_left fun kept hmem => ReadableEntries.gathered_stored ?_)
    rw [← hentries] at hreadable
    exact hreadable.of_sublist (List.sublist_flatten_of_mem (List.mem_map_of_mem hmem))
  obtain ⟨gathered, -, ⟨fault, hfault, -⟩ | ⟨lines, hwritten, hrenumber, hwrite⟩⟩ := merge_ends hholds h
  · cases hfault
  · rw [hlines, hnamed.names.renumber hstem hending hscheme hnamed.texts] at hrenumber
    obtain rfl := Except.ok.inj hrenumber
    rw [List.length_map] at hwritten
    exact ⟨Except.ok.inj hwritten, holdsText_of_write hwrite⟩

end Job

/-- **A batch names its entries as its sources refer to them.** Take a `runBatch` of two or more files with
the status `extracted`, under `Tame` templates and with values that are `Holdable`, however many of its
files failed or had nothing to extract. Then `NameScheme.build` gives a scheme, and the outcome `Agrees`
with it, with the disk before and with the disk that is left. -/
theorem runBatch_names_agree {options : Options} {folder : Path} {space after : Workspace}
    {outcome : BatchOutcome} (hstem : Tame options.stem) (hending : Tame options.ending)
    (h : (Job.runBatch options folder).ends space = (.ok outcome, after))
    (hfiles : 2 ≤ outcome.files.length) (hstatus : outcome.status = "extracted")
    (hvalues : ∀ entry ∈ outcome.entries, Document.Holdable entry.value) :
    ∃ scheme, NameScheme.build options.stem options.ending options.accessor = .ok scheme ∧
      outcome.Agrees options scheme space.disk after.disk := by
  obtain ⟨target, written, hresult⟩ := BatchOutcome.exists_of_extracted hstatus
  obtain ⟨found, hdiscover, hdisk, hends⟩ := Job.runBatch_ends h
  rw [← hdisk]
  cases hends with
  | noFiles files _ | single files _ _ _ _ => simp [files] at hfiles
  | several hall hends =>
    obtain ⟨_, files, outcomes, result⟩ := outcome
    obtain rfl : files = _ := hall
    generalize after.disk = disk at hends ⊢
    subst hresult
    -- Of the five ends only the merged one has a target with entries.
    cases hends with
    | noTemporaries _ failed | unmerged _ _ _ _ _ failed =>
      obtain ⟨_, _, hfailed⟩ := failed
      cases hfailed
    | @merged scheme temporaries made each last harvest _ hscheme hmake hextract hmerge =>
      obtain ⟨tasks, -, hready, htasks⟩ := Job.exists_ready hmake
      obtain ⟨-, hnamed, yields, htemporaries, hholds, -, hentries⟩ :=
        Job.extractEach_holds hscheme hready (htasks ▸ hextract)
      obtain ⟨hwritten, htext⟩ := Job.merge_harvest hstem hending hscheme hnamed hholds
        (hentries id rfl) hvalues (htemporaries ▸ hmerge)
      refine ⟨scheme, hscheme, fun index hindex => ?_, hnamed.texts, hnamed.references,
        ⟨_, rfl, rfl, htext⟩, hwritten, fun htree => ?_⟩
      · have hname := hnamed.names.name_getElem index hindex
        rw [Int.zero_add] at hname
        exact hname
      · have hfound := Job.discover_found (hdisk ▸ htree) hdiscover
        rw [← hdisk] at hfound
        intro file hmem hextracted
        obtain ⟨path, hpath, hresult, hrelinks⟩ :=
          Job.merged_relinks hfound hscheme hmake hextract hmerge file hmem hextracted
        refine ⟨path, hpath, hresult, fun target htarget => ?_⟩
        obtain rfl := Option.some.inj htarget
        exact hrelinks

/-- A workspace with a folder of four files: code with two literals, code that is no text, code
without a literal, and markup with one literal. -/
def mixedFolder : Workspace :=
  { disk :=
      { home := []
        nodes :=
          [(["p".toList], .folder),
            (["p".toList, "A.java".toList], .file (Utf8.encode "x = \"One\"; y = \"Two\";".toList)),
            (["p".toList, "B.java".toList], .file [0xFF]),
            (["p".toList, "C.java".toList], .file (Utf8.encode "z = 1;".toList)),
            (["p".toList, "D.xml".toList], .file (Utf8.encode "<a android:text=\"Two\"/>".toList))] } }

/-- `runBatch_names_agree` at the four files of `mixedFolder`, of which one fails and one has nothing to
extract. The disk `IsTree` and each file has `LeavesSource`, as the field `sources` asks for. -/
theorem runBatch_names_agree_mixedFolder :
    let options : Options := { stem := some (Points.ofText "s_".toList) }
    ∃ outcome after,
      (Job.runBatch options { names := ["p".toList] }).ends mixedFolder = (.ok outcome, after) ∧
      outcome.outcomes.map (·.result.status) = ["extracted", "failed", "no-strings", "extracted"] ∧
      outcome.status = "extracted" ∧
      outcome.entries.map Entry.value = ["One".toList, "Two".toList, "Two".toList] ∧
      mixedFolder.disk.IsTree ∧
      (∃ target, outcome.target? = some target ∧
        ∀ path ∈ outcome.files, Job.LeavesSource mixedFolder.disk options target path) ∧
      ∃ scheme, NameScheme.build options.stem options.ending options.accessor = .ok scheme ∧
        outcome.Agrees options scheme mixedFolder.disk after.disk := by
  intro options
  have hfind : (mixedFolder.disk.find { names := ["p".toList] }).toOption
      = some (["p".toList], .folder) := by decide +kernel
  obtain ⟨outcome, hends, hview⟩ :
      ∃ outcome, (Job.runBatch options { names := ["p".toList] }).ends mixedFolder
        = (.ok outcome, ((Job.runBatch options { names := ["p".toList] }).ends mixedFolder).2) ∧
      (outcome.outcomes.map (·.result.status), outcome.status, outcome.entries.map Entry.value,
          outcome.files)
        = (["extracted", "failed", "no-strings", "extracted"], "extracted",
          ["One".toList, "Two".toList, "Two".toList],
          ["A.java", "B.java", "C.java", "D.xml"].map fun name =>
            { names := ["p".toList, name.toList] }) :=
    Job.exists_ends_of_map (by
      rw [Job.runBatch_of_sorted (by decide) hfind (by decide +kernel)]
      decide +kernel)
  simp only [Prod.mk.injEq] at hview
  obtain ⟨houtcomes, hstatus, hvalues, hfiles⟩ := hview
  have hholdable : ∀ entry ∈ outcome.entries, Document.Holdable entry.value := by
    intro entry hmem
    have hvalue : entry.value ∈ ["One".toList, "Two".toList, "Two".toList] :=
      hvalues ▸ List.mem_map_of_mem hmem
    have hclear : ∀ value ∈ ["One".toList, "Two".toList, "Two".toList],
        Text.IsOneLine value ∧ '<' ∉ value := by decide +kernel
    exact .of_notMem (hclear _ hvalue).1 (hclear _ hvalue).2
  obtain ⟨scheme, hscheme, hagrees⟩ := runBatch_names_agree (tame_ofText (by decide))
    (by rintro _ ⟨⟩) hends (by simp [hfiles]) hstatus hholdable
  -- The target lies beside the first file, and is none of the four.
  obtain ⟨first, hfirst, htarget, -⟩ := hagrees.target
  rw [hfiles] at hfirst
  cases hfirst
  have hapart : ∀ path ∈ outcome.files, (mixedFolder.disk.locate path).toOption
      ≠ (mixedFolder.disk.locate
          (Job.batchTarget options { names := ["p".toList, "A.java".toList] })).toOption := by
    rw [hfiles]
    decide +kernel
  refine ⟨outcome, _, hends, houtcomes, hstatus, hvalues, by decide +kernel,
    ⟨_, htarget, fun path hpath => ⟨fun hsame => ?_, by rintro ⟨⟩⟩⟩, scheme, hscheme, hagrees⟩
  exact hapart path hpath (congrArg Except.toOption hsame)

end Externalize
