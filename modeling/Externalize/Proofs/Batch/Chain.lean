import Externalize.Proofs.Batch.Each

/-!
# `Externalize.Proofs.Batch.Chain`: extractions with one count

A `Chain` is a sequence of extractions, each of which goes on from the count of the one before. The
files may be any files, on any disk, and each extraction may come to any outcome; only the templates
are the same for all.

`extractFile_numbersFrom` is the step: whatever the outcome, the count goes up by what was written, and
what was written bears the names from one above the count on. `Chain.numbered` is the run: the entries
of the whole chain bear the names from one above the first count on, without a gap, and no two of them
bear the same name if the templates are plain.
-/

set_option autoImplicit false

namespace Externalize

/-! ### The name of a count -/

/-- The name that `NameScheme.name` gives to a count. `accessor` makes no difference to it. -/
def resourceName (stem ending : Option Points) (count : Int) : Except NameFault Points :=
  (NameScheme.build stem ending false).bind (·.name count)

namespace NameScheme

variable {stem ending : Option Points} {accessor : Bool} {scheme : NameScheme}

theorem name_eq_resourceName (h : build stem ending accessor = .ok scheme) (count : Int) :
    scheme.name count = resourceName stem ending count := by
  obtain ⟨plain, hplain⟩ : ∃ plain, build stem ending false = .ok plain := by
    -- Both are built if zero can be named, and the name of zero is the same for both.
    simp only [build] at h ⊢
    have hzero : ∀ accessor, name ⟨completeTemplate stem defaultStem,
        completeTemplate ending defaultEnding, accessor⟩ 0 = name ⟨completeTemplate stem defaultStem,
        completeTemplate ending defaultEnding, false⟩ 0 := fun _ => rfl
    rw [hzero] at h
    cases hname : name ⟨completeTemplate stem defaultStem, completeTemplate ending defaultEnding,
      false⟩ 0 with
    | error fault =>
      rw [hname] at h
      cases h
    | ok zero => exact ⟨_, rfl⟩
  rw [resourceName, hplain, build_eq_ok h, build_eq_ok hplain]
  rfl

/-- The names of entries with `NamesFrom`, by `resourceName` of their counts. -/
theorem NamesFrom.map_name {count : Int} {entries : List Entry}
    (h : build stem ending accessor = .ok scheme) (hnames : scheme.NamesFrom count entries) :
    entries.map (fun entry => .ok entry.name)
      = (List.range entries.length).map fun index =>
          resourceName stem ending (count + (index : Nat) + 1) := by
  refine List.ext_getElem (by simp) fun index hindex _ => ?_
  rw [List.length_map] at hindex
  simp only [List.getElem_map, List.getElem_range]
  rw [← name_eq_resourceName h, hnames.name_getElem index hindex]

end NameScheme

/-- `resourceName` gives no name twice, if both templates are `IsPlainTemplate`. -/
theorem resourceName_injective {stem ending : Option Points} (hstem : IsPlainTemplate stem)
    (hending : IsPlainTemplate ending) {m n : Int} {name : Points}
    (hm : resourceName stem ending m = .ok name) (hn : resourceName stem ending n = .ok name) :
    m = n := by
  unfold resourceName at hm hn
  cases hbuild : NameScheme.build stem ending false with
  | error fault =>
    rw [hbuild] at hm
    cases hm
  | ok scheme =>
    rw [hbuild] at hm hn
    exact NameScheme.shown_name_injective hstem hending hbuild hm hn rfl

/-! ### One extraction -/

/-- The outcome goes on from `start`: its `count` goes up by what was `written`, something is written
exactly if the status is `extracted`, and the names are those of the counts in between. -/
structure FileOutcome.NumbersFrom (outcome : FileOutcome) (stem ending : Option Points) (start : Int) :
    Prop where
  count_eq : outcome.count = start + outcome.result.written
  written_pos_iff : 0 < outcome.result.written ↔ outcome.result.status = "extracted"
  length_entries : outcome.entries.length = outcome.result.written
  names : outcome.entries.map (fun entry => .ok entry.name)
    = (List.range outcome.entries.length).map fun index =>
        resourceName stem ending (start + (index : Nat) + 1)

theorem FileResult.written_of_status {result : FileResult} (h : result.status ≠ "extracted") :
    result.written = 0 := by
  cases result with
  | extracted => exact absurd rfl h
  | _ => rfl

/-- `NumbersFrom` for an outcome that extracted nothing and has the `count` that it went on from. -/
theorem FileOutcome.numbersFrom_of_status {outcome : FileOutcome} {stem ending : Option Points}
    {start : Int} (hcount : outcome.count = start) (hstatus : outcome.result.status ≠ "extracted") :
    outcome.NumbersFrom stem ending start := by
  have hwritten := FileResult.written_of_status hstatus
  have hentries := FileOutcome.entries_of_status hstatus
  exact ⟨by simp [hcount, hwritten], by simp [hwritten, hstatus], by simp [hwritten, hentries],
    by simp [hentries]⟩

/-- `extractFile` gives an outcome that `NumbersFrom` the count that it is given. -/
theorem Job.extractFile_numbersFrom {options : Options} {path? : Option Path} {count : Int}
    {space after : Workspace} {outcome : FileOutcome}
    (h : (extractFile options path? (.shared count)).ends space = (.ok outcome, after)) :
    outcome.NumbersFrom options.stem options.ending count := by
  rcases extractFile_ends h with ⟨-, -, hcount, hstatus⟩ | ⟨t, ⟨cause, rfl, -⟩ | ⟨rfl, -⟩⟩
  · exact FileOutcome.numbersFrom_of_status hcount hstatus
  · exact FileOutcome.numbersFrom_of_status rfl (by simp [FileResult.status])
  · have hfound : 0 < t.attempt.scan.entries.length := List.length_pos_iff.mpr t.attempt.found
    exact ⟨scan_count t.attempt.scanned, iff_of_true hfound rfl, rfl,
      (scan_namesFrom t.attempt.scanned).map_name t.built⟩

/-! ### Chains -/

/-- Runs of `extractFile` under the same templates, each with an outcome, and each with the `count` of the
outcome before. -/
inductive Chain (stem ending : Option Points) : Int → List FileOutcome → Prop
  | nil {start : Int} : Chain stem ending start []
  | cons {start : Int} {options : Options} {path? : Option Path} {space after : Workspace}
      {outcome : FileOutcome} {outcomes : List FileOutcome} (stem_eq : options.stem = stem)
      (ending_eq : options.ending = ending)
      (extract : (Job.extractFile options path? (.shared start)).ends space = (.ok outcome, after))
      (rest : Chain stem ending outcome.count outcomes) :
      Chain stem ending start (outcome :: outcomes)

/-- A `Chain` that begins with a run of `extractFile`, as far as the statuses and counts of its outcomes
are told. The witness evaluates a chain by this. -/
theorem Chain.exists_cons (options : Options) (path? : Option Path) (space : Workspace)
    {start next : Int} {status : String} {told : List (String × Int)}
    (h : ((Job.extractFile options path? (.shared start)).ends space).1.toOption.map
      (fun outcome => (outcome.result.status, outcome.count)) = some (status, next))
    (hrest : ∃ outcomes, Chain options.stem options.ending next outcomes ∧
      outcomes.map (fun outcome => (outcome.result.status, outcome.count)) = told) :
    ∃ outcomes, Chain options.stem options.ending start outcomes ∧
      outcomes.map (fun outcome => (outcome.result.status, outcome.count))
        = (status, next) :: told := by
  obtain ⟨outcome, hends, hview⟩ := Job.exists_ends_of_map h
  obtain ⟨outcomes, hchain, rfl⟩ := hrest
  obtain ⟨rfl, rfl⟩ := Prod.mk.inj hview
  exact ⟨outcome :: outcomes, .cons rfl rfl hends hchain, rfl⟩

/-- The outcomes are numbered without a gap from `start` on. Each outcome is paired with the count that
it went on from: that of the one before, or `start`. -/
structure Numbered (stem ending : Option Points) (start : Int) (outcomes : List FileOutcome) :
    Prop where
  counts : ∀ step ∈ (start :: outcomes.map FileOutcome.count).zip outcomes,
    step.2.count = step.1 + step.2.result.written
  written : ∀ outcome ∈ outcomes,
    (0 < outcome.result.written ↔ outcome.result.status = "extracted")
  last : ∀ final ∈ outcomes.getLast?,
    final.count = start + (outcomes.flatMap FileOutcome.entries).length
  names : (outcomes.flatMap FileOutcome.entries).map (fun entry => .ok entry.name)
    = (List.range (outcomes.flatMap FileOutcome.entries).length).map fun index =>
        resourceName stem ending (start + (index : Nat) + 1)

namespace Numbered

variable {stem ending : Option Points} {start : Int} {outcome : FileOutcome}
  {outcomes : List FileOutcome}

theorem nil : Numbered stem ending start [] :=
  ⟨by simp, by simp, by simp, by simp⟩

/-- `Numbered` for one more outcome in front, if the others go on from its `count`. -/
theorem cons (h : outcome.NumbersFrom stem ending start)
    (hrest : Numbered stem ending outcome.count outcomes) :
    Numbered stem ending start (outcome :: outcomes) := by
  have hstart : outcome.count = start + outcome.entries.length := by
    rw [h.count_eq, h.length_entries]
  refine ⟨?_, ?_, ?_, ?_⟩
  · simp only [List.map_cons, List.zip_cons_cons, List.forall_mem_cons]
    exact ⟨h.count_eq, hrest.counts⟩
  · simp only [List.forall_mem_cons]
    exact ⟨h.written_pos_iff, hrest.written⟩
  · intro final hfinal
    rw [List.flatMap_cons, List.length_append]
    cases outcomes with
    | nil =>
      cases hfinal
      simpa using hstart
    | cons next outcomes =>
      rw [List.getLast?_cons_cons] at hfinal
      rw [hrest.last final hfinal, hstart]
      omega
  · -- The names of the rest are those of the counts behind the entries that are there already.
    have hshift : ∀ index : Nat, outcome.count + index + 1
        = start + (outcome.entries.length + index : Nat) + 1 := fun index => by
      rw [hstart]
      omega
    rw [List.flatMap_cons, List.map_append, h.names, hrest.names, List.length_append,
      List.range_add, List.map_append, List.map_map]
    simp only [hshift, Function.comp_def]

/-- `Numbered` outcomes have entries with different names, if both templates are `IsPlainTemplate`. -/
theorem nodup (h : Numbered stem ending start outcomes) (hstem : IsPlainTemplate stem)
    (hending : IsPlainTemplate ending) :
    ((outcomes.flatMap FileOutcome.entries).map Entry.name).Nodup := by
  have hnames := h.names
  generalize outcomes.flatMap FileOutcome.entries = entries at hnames ⊢
  rw [List.Nodup, List.pairwise_iff_getElem]
  intro first second hfirst hsecond hlt heq
  rw [List.length_map] at hfirst hsecond
  -- The name at each place is that of a count, and equal names have equal counts.
  have hname : ∀ index (hindex : index < entries.length),
      resourceName stem ending (start + (index : Nat) + 1) = .ok entries[index].name := by
    intro index hindex
    have hget := congrArg (·[index]?) hnames
    simpa [List.getElem?_map, List.getElem?_eq_getElem hindex,
      List.getElem?_range hindex] using hget.symm
  rw [List.getElem_map, List.getElem_map] at heq
  have hcount := resourceName_injective hstem hending (hname first hfirst)
    (heq ▸ hname second hsecond)
  omega

end Numbered

/-- **A count that goes on from file to file numbers a whole chain without gaps or repeats.** The outcomes
of a `Chain` are `Numbered` from its `start`, whatever the files are and however their runs ended. If both
templates have `IsPlainTemplate`, no two entries of the chain bear the same name. -/
theorem Chain.numbered {stem ending : Option Points} {start : Int} {outcomes : List FileOutcome}
    (h : Chain stem ending start outcomes) :
    Numbered stem ending start outcomes ∧
      (IsPlainTemplate stem → IsPlainTemplate ending →
        ((outcomes.flatMap FileOutcome.entries).map Entry.name).Nodup) := by
  have hnumbered : Numbered stem ending start outcomes := by
    induction h with
    | nil => exact .nil
    | cons hstem hending hextract _ ih =>
      have hstep := Job.extractFile_numbersFrom hextract
      rw [hstem, hending] at hstep
      exact .cons hstep ih
  exact ⟨hnumbered, hnumbered.nodup⟩

/-- `Chain.numbered` from seven on, through code and markup, over a file that is missing, one that is no
text, one that would go into another source and one without a literal. -/
theorem Chain.numbered_mixed :
    ∃ outcomes, Chain none none 7 outcomes ∧
      outcomes.map (fun outcome => (outcome.result.status, outcome.count))
        = [("extracted", 8), ("not-found", 8), ("failed", 8), ("invalid-target", 8),
          ("no-strings", 8), ("extracted", 10)] ∧
      Numbered none none 7 outcomes ∧
      ((outcomes.flatMap FileOutcome.entries).map Entry.name).Nodup := by
  let file (name : String) : Option Path := some { names := [name.toList] }
  let space := sourceBeside []
    [(["B.java".toList], .file [0xFF]), (["C.java".toList], .file (Utf8.encode "y = 1;".toList)),
      (["D.xml".toList], .file
        (Utf8.encode "<a android:text=\"One\"/><a android:text=\"Two\"/>".toList))]
  obtain ⟨outcomes, hchain, htold⟩ : ∃ outcomes, Chain none none 7 outcomes ∧
      outcomes.map (fun outcome => (outcome.result.status, outcome.count))
        = [("extracted", 8), ("not-found", 8), ("failed", 8), ("invalid-target", 8),
          ("no-strings", 8), ("extracted", 10)] := by
    refine exists_cons { accessor := true } (file "A.java") space (by decide +kernel) ?_
    refine exists_cons {} (file "E.java") space (by decide +kernel) ?_
    refine exists_cons {} (file "B.java") space (by decide +kernel) ?_
    refine exists_cons { target := file "C.java" } (file "D.xml") space (by decide +kernel) ?_
    refine exists_cons {} (file "C.java") space (by decide +kernel) ?_
    refine exists_cons { backup := true } (file "D.xml") space (by decide +kernel) ?_
    exact ⟨[], .nil, rfl⟩
  obtain ⟨hnumbered, hnodup⟩ := hchain.numbered
  exact ⟨outcomes, hchain, htold, hnumbered, hnodup isPlainTemplate_none isPlainTemplate_none⟩

end Externalize
