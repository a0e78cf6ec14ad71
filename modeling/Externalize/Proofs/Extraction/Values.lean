import Externalize.Proofs.Extraction.File
import Externalize.Proofs.Resource.Survival

/-!
# `Externalize.Proofs.Extraction.Values`: which values come through an extraction

A value is written between the tags of its entry as it is, and then the resource file is read again to
be laid out. A literal can hold any character but a quote and a line feed, so it can hold what reading
takes for a tag of the document or for the end of a line.

`extractFile_values_iff` is the main theorem: an extraction into a resource file that was not there
leaves a document that is read as the lines of its entries exactly if all their values survive.
`extractFile_loses_value` is an extraction that ends well and whose value is lost.
-/

set_option autoImplicit false

namespace Externalize

/-- Take a run of `extractFile` under `Tame` templates that ends with `.extracted path target scan`.
Suppose that nothing stood at the `place` of the target, and that neither the backup nor the accessor class
goes there. Then the target holds a text of which `Document.entryLines` reads just the `Entry.line` of each
entry, as the text is and after `Text.unifyBreaks`, exactly if the value of every entry `Survives`. -/
theorem extractFile_values_iff {options : Options} {path? : Option Path} {counter : Counter}
    {space after : Workspace} {outcome : FileOutcome} {path target : Path} {scan : Scan}
    {place : Location}
    (h : (Job.extractFile options path? counter).ends space = (.ok outcome, after))
    (hresult : outcome.result = .extracted path target scan)
    (hstem : Tame options.stem) (hending : Tame options.ending)
    (hplace : space.disk.locate target = .ok place) (habsent : space.disk.get? place = none)
    (hbackup : options.backup = true → space.disk.locate (Job.backupPath path) ≠ .ok place)
    (haccessor : options.accessor = true → space.disk.locate (Job.accessorPath path) ≠ .ok place) :
    ∃ text, after.disk.get? place = some (.file (Utf8.encode text)) ∧
      ∀ read ∈ [text, Text.unifyBreaks text],
        (Document.entryLines read = scan.entries.map Entry.line ↔
          ∀ entry ∈ scan.entries, Document.Survives entry.value) := by
  -- Only a trial that was done to its end has this outcome.
  rcases Job.extractFile_ends h with ⟨-, -, -, hstatus⟩ | ⟨t, ⟨cause, rfl, -⟩ | ⟨rfl, hdone⟩⟩
  · exact absurd (by rw [hresult]; rfl) hstatus
  · cases hresult
  cases hresult
  have haccessor' := NameScheme.accessor_of_build t.built
  obtain rfl := Except.ok.inj (hplace.symm.trans t.attempt.opens.locate)
  have hprevious : t.attempt.previous = none := by
    have hholds := t.attempt.opens.holds
    rw [habsent] at hholds
    exact Option.map_eq_none_iff.mp hholds.symm
  -- Nothing that is written later goes where the entries are stored.
  obtain ⟨hlocate, hlocate'⟩ := hdone.locate
  have haside : options.backup = true → t.attempt.place ≠ t.attempt.aside :=
    fun hasked heq => hbackup hasked (heq ▸ hlocate hasked)
  have horigin : t.attempt.place ≠ t.attempt.origin := by
    intro heq
    rw [heq, Attempt.origin, t.attempt.source.holds] at habsent
    cases habsent
  have hclass : t.attempt.NeedsAccessor → t.attempt.place ≠ t.attempt.accessor :=
    fun hneeded heq => haccessor (haccessor' ▸ hneeded.2) (heq ▸ hlocate' hneeded)
  obtain ⟨old, hold, hstored⟩ := hdone.exists_stored haside horigin hclass
  rw [hprevious] at hold
  obtain rfl : [] = old := Except.ok.inj hold
  refine ⟨_, hstored, fun read hread => ?_⟩
  -- The breaks of a document may be unified before it is read or not; the lines are the same.
  have hsame : Document.entryLines read = Document.entryLines (Document.format
      (Text.unifyBreaks (t.attempt.scan.entries.flatMap Job.entryText))) := by
    rcases List.mem_cons.mp hread with heq | hmem
    · rw [heq, List.nil_append]
    · rw [List.mem_singleton.mp hmem, Document.entryLines_unifyBreaks_format, List.nil_append]
  rw [hsame]
  exact (scan_namesFrom t.attempt.scanned).entryLines_stored_iff hstem hending t.built
    fun entry hmem => t.attempt.quote_notMem_value hmem

/-- A workspace that holds a source and nothing else. -/
def loneSource (text : Text) : Workspace :=
  { disk := { home := [], nodes := [(["A.java".toList], .file (Utf8.encode text))] } }

/-- `extractFile_values_iff` at tags in the values, and at an `entryEnd` that no tag follows; a backup
and an accessor class are written as well. -/
theorem extractFile_values_iff_markup :
    let source : Path := { names := ["A.java".toList] }
    let target : Path := { names := ["t.xml".toList] }
    let space := loneSource "f(\"<b>1 & 2</b>\", \"</string> x\");".toList
    ∃ outcome after scan,
      (Job.extractFile { target := some target, backup := true, accessor := true } (some source)
        .fresh).ends space = (.ok outcome, after) ∧
      outcome.result = .extracted source target scan ∧ scan.entries.length = 2 ∧
      ∃ text, after.disk.get? ["t.xml".toList] = some (.file (Utf8.encode text)) ∧
        ∀ read ∈ [text, Text.unifyBreaks text],
          (Document.entryLines read = scan.entries.map Entry.line ↔
            ∀ entry ∈ scan.entries, Document.Survives entry.value) := by
  intro source target space
  let job := Job.extractFile { target := some target, backup := true, accessor := true } (some source)
    .fresh
  obtain ⟨outcome, hends, hview⟩ :
      ∃ outcome, job.ends space = (.ok outcome, (job.ends space).2) ∧
      (outcome.result.status, outcome.result.path?, outcome.result.target?, outcome.result.written)
        = ("extracted", some source, some target, 2) := Job.exists_ends_of_map (by decide +kernel)
  obtain ⟨result, count⟩ := outcome
  simp only [Prod.mk.injEq] at hview
  obtain ⟨hstatus, hpath, htarget, hwritten⟩ := hview
  obtain ⟨path, target', scan, rfl⟩ := FileResult.status_eq_extracted_iff.mp hstatus
  obtain rfl := Option.some.inj hpath
  obtain rfl := Option.some.inj htarget
  refine ⟨_, _, scan, hends, rfl, hwritten, extractFile_values_iff hends rfl ?_ ?_ rfl ?_ ?_ ?_⟩
  · rintro _ ⟨⟩
  · rintro _ ⟨⟩
  · decide +kernel
  · intro _ hplace
    cases hplace
  · intro _ hplace
    cases hplace

/-- `extractFile` ends well at a value that reads as the tag around all entries, and the entry is left
without its value. -/
theorem extractFile_loses_value :
    let source : Path := { names := ["A.java".toList] }
    let target : Path := { names := ["t.xml".toList] }
    let space := loneSource "w.println(\"<resources>\");".toList
    ∃ outcome after,
      (Job.extractFile { target := some target } (some source) .fresh).ends space
        = (.ok outcome, after) ∧
      outcome.result.status = "extracted" ∧
      outcome.result.scan?.map (fun scan => scan.entries.map Entry.line)
        = some ["<string name=\"extracted_string1\"><resources></string>".toList] ∧
      after.disk.get? ["t.xml".toList] = some (.file (Utf8.encode (Document.document
        ["<string name=\"extracted_string1\"></string>".toList]))) := by
  intro source target space
  let job := Job.extractFile { target := some target } (some source) .fresh
  obtain ⟨outcome, hends, hview⟩ :
      ∃ outcome, job.ends space = (.ok outcome, (job.ends space).2) ∧
      (outcome.result.status, outcome.result.scan?.map fun scan => scan.entries.map Entry.line)
        = ("extracted", some ["<string name=\"extracted_string1\"><resources></string>".toList]) :=
    Job.exists_ends_of_map (by decide +kernel)
  simp only [Prod.mk.injEq] at hview
  exact ⟨outcome, _, hends, hview.1, hview.2, by decide +kernel⟩

end Externalize
