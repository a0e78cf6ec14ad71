import Externalize.Source.Scan
import Mathlib.Data.List.Induction

/-!
# `Externalize.Proofs.Source.Scan`: the loop of a scan

A scan takes one literal after the other. `Scanning.Tallies` says what its state has to do with the
literals that were taken: the entries have the spellings that stand for the first time among the
literals that are not blank (`firsts`), they are named one after the other (`NamesFrom`), `seen` holds
their spellings, and each counter is the number of what it counts.

* `Scanning.Tallies.step`: a step keeps this.
* `Scanning.Tallies.run`: so does a run of steps.
* `scanning_of_scan`: the result of `scan` is that of a run over all literals of the text.

The facts on the entries of a scan that other modules use come from the last of these.
-/

set_option autoImplicit false

namespace Externalize

/-! ### First and further occurrences -/

/-- A choice by what stands before a place is not changed by what stands behind it. -/
theorem filter_zipIdx_concat {α : Type} (p : α → List α → Bool) (xs : List α) (x : α) :
    ((xs ++ [x]).zipIdx.filter fun (y, place) => p y ((xs ++ [x]).take place)).map Prod.fst
      = (xs.zipIdx.filter fun (y, place) => p y (xs.take place)).map Prod.fst
        ++ if p x xs then [x] else [] := by
  have hbefore : xs.zipIdx.filter (fun (y, place) => p y ((xs ++ [x]).take place))
      = xs.zipIdx.filter fun (y, place) => p y (xs.take place) := by
    refine List.filter_congr ?_
    rintro ⟨y, place⟩ hmem
    have hplace : place < xs.length := List.snd_lt_of_mem_zipIdx hmem
    simp only [List.take_append_of_le_length (Nat.le_of_lt hplace)]
  rw [List.zipIdx_append, List.filter_append, hbefore, List.map_append]
  cases hx : p x xs with
  | true => simp [hx]
  | false => simp [hx]

section
variable {α : Type} [DecidableEq α]

/-- The members of a list at the places where they stand for the first time. -/
def firsts (xs : List α) : List α :=
  (xs.zipIdx.filter fun (x, place) => x ∉ xs.take place).map Prod.fst

/-- The members of a list at the places where they do not stand for the first time. -/
def repeats (xs : List α) : List α :=
  (xs.zipIdx.filter fun (x, place) => x ∈ xs.take place).map Prod.fst

/-- `firsts` takes one more member `x` unless it stands in the list already. -/
theorem firsts_concat (xs : List α) (x : α) :
    firsts (xs ++ [x]) = firsts xs ++ if x ∉ xs then [x] else [] := by
  have hcut := filter_zipIdx_concat (fun y before => decide (y ∉ before)) xs x
  simp only [decide_eq_true_eq] at hcut
  exact hcut

/-- `repeats` takes one more member `x` if it stands in the list already. -/
theorem repeats_concat (xs : List α) (x : α) :
    repeats (xs ++ [x]) = repeats xs ++ if x ∈ xs then [x] else [] := by
  have hcut := filter_zipIdx_concat (fun y before => decide (y ∈ before)) xs x
  simp only [decide_eq_true_eq] at hcut
  exact hcut

@[simp]
theorem mem_firsts {xs : List α} {x : α} : x ∈ firsts xs ↔ x ∈ xs := by
  induction xs using List.reverseRecOn with
  | nil => rfl
  | append_singleton xs y ih =>
    rw [firsts_concat, List.mem_append, List.mem_append, ih]
    by_cases hy : y ∈ xs
    · simp only [hy, not_true_eq_false, if_false, List.not_mem_nil, List.mem_singleton, or_false]
      exact ⟨.inl, fun h => h.elim id fun heq => heq ▸ hy⟩
    · simp only [hy, not_false_eq_true, if_true]

theorem nodup_firsts (xs : List α) : (firsts xs).Nodup := by
  induction xs using List.reverseRecOn with
  | nil => exact List.nodup_nil
  | append_singleton xs y ih =>
    rw [firsts_concat]
    by_cases hy : y ∈ xs
    · simpa [hy] using ih
    · rw [if_pos hy, List.nodup_append]
      refine ⟨ih, by simp, fun x hx other hother heq => hy ?_⟩
      rwa [← List.mem_singleton.mp hother, ← heq, ← mem_firsts]

/-- `firsts` of a list begins the `firsts` of a longer one. -/
theorem firsts_prefix_append (xs ys : List α) : firsts xs <+: firsts (xs ++ ys) := by
  induction ys using List.reverseRecOn with
  | nil => simp
  | append_singleton ys y ih =>
    rw [← List.append_assoc, firsts_concat]
    exact ih.trans (List.prefix_append _ _)

end

/-! ### Names one after the other -/

/-- The entries bear the names that `scheme.name` gives to `count + 1` and the counts behind it. -/
def NameScheme.NamesFrom (scheme : NameScheme) : Int → List Entry → Prop
  | _, [] => True
  | count, entry :: rest =>
    scheme.name (count + 1) = .ok entry.name ∧ scheme.NamesFrom (count + 1) rest

namespace NameScheme

variable {scheme : NameScheme} {kind : Kind}

theorem namesFrom_append (count : Int) (entries more : List Entry) :
    scheme.NamesFrom count (entries ++ more) ↔
      scheme.NamesFrom count entries ∧ scheme.NamesFrom (count + entries.length) more := by
  induction entries generalizing count with
  | nil => simp [NamesFrom]
  | cons entry entries ih =>
    simp only [List.cons_append, NamesFrom, ih, List.length_cons, and_assoc]
    rw [show count + 1 + (entries.length : Int) = count + (entries.length + 1 : Nat) by
      push_cast; omega]

/-- The name of the entry at `index` is that of `count + index + 1`. -/
theorem NamesFrom.name_getElem {count : Int} {entries : List Entry}
    (h : scheme.NamesFrom count entries) (index : Nat) (hindex : index < entries.length) :
    scheme.name (count + index + 1) = .ok entries[index].name := by
  induction entries generalizing count index with
  | nil => simp at hindex
  | cons first entries ih =>
    cases index with
    | zero => simpa using h.1
    | succ index =>
      have hrest := ih h.2 index (by simpa using hindex)
      rwa [show count + 1 + (index : Int) + 1 = count + (index + 1 : Nat) + 1 by
        push_cast; omega] at hrest

/-- Each entry with `NamesFrom` has a name that `scheme.name` gives. -/
theorem NamesFrom.exists_count {count : Int} {entries : List Entry}
    (h : scheme.NamesFrom count entries) {entry : Entry} (hmem : entry ∈ entries) :
    ∃ number, scheme.name number = .ok entry.name := by
  obtain ⟨index, hindex, rfl⟩ := List.getElem_of_mem hmem
  exact ⟨_, h.name_getElem index hindex⟩

end NameScheme

/-! ### The sides that literals fall on -/

namespace Literal

/-- The literals that are not blank: `strip` leaves something of their value. -/
def shown (found : List Literal) : List Literal :=
  found.filter fun literal => literal.value.strip ≠ []

/-- The literals that are blank: `strip` leaves nothing of their value. -/
def blanks (found : List Literal) : List Literal :=
  found.filter fun literal => literal.value.strip = []

theorem shown_concat (found : List Literal) (literal : Literal) :
    shown (found ++ [literal])
      = shown found ++ if literal.value.strip ≠ [] then [literal] else [] := by
  by_cases h : literal.value.strip = []
  · simp [shown, h]
  · simp [shown, h]

theorem blanks_concat (found : List Literal) (literal : Literal) :
    blanks (found ++ [literal])
      = blanks found ++ if literal.value.strip = [] then [literal] else [] := by
  by_cases h : literal.value.strip = []
  · simp [blanks, h]
  · simp [blanks, h]

end Literal

/-! ### One literal after the other -/

/-- The fields of the state that `Scanning.step` has reached from `count` on, told by the literals that
were `taken`. -/
structure Scanning.Tallies (state : Scanning) (scheme : NameScheme) (kind : Kind) (count : Int)
    (taken : List Literal) : Prop where
  ofKind : state.result.kind = kind
  /-- A spelling was seen if it is that of a literal that is not blank. -/
  seen : ∀ raw, raw ∈ state.seen ↔ raw ∈ (Literal.shown taken).map Literal.raw
  /-- The entries have the spellings that stand for the first time, in order. -/
  raws : state.result.entries.map Entry.raw = firsts ((Literal.shown taken).map Literal.raw)
  named : scheme.NamesFrom count state.result.entries
  references : ∀ entry ∈ state.result.entries, entry.reference = scheme.reference kind entry.name
  reached : state.result.count = count + state.result.entries.length
  found : state.result.found = taken.length
  blanks : state.result.blanks = (Literal.blanks taken).length
  duplicates : state.result.duplicates
    = (repeats ((Literal.shown taken).map Literal.raw)).length
  total : state.result.found
    = state.result.blanks + state.result.duplicates + state.result.entries.length

namespace Scanning

section
variable {scheme : NameScheme} {kind : Kind} {count : Int} {state next : Scanning}
  {literal : Literal} {taken rest : List Literal}

/-- `step` passes over a blank literal and over one whose `raw` was `seen`, and it names any other. -/
theorem step_cases (h : state.step scheme literal = .ok next) :
    (literal.value.strip = [] ∧ next = state.settle .blank) ∨
    (literal.value.strip ≠ [] ∧ literal.raw ∈ state.seen ∧ next = state.settle .duplicate) ∨
    (literal.value.strip ≠ [] ∧ literal.raw ∉ state.seen ∧
      ∃ name, scheme.name (state.result.count + 1) = .ok name ∧
        next = state.settle (.entry
          ⟨name, literal.raw, scheme.reference state.result.kind name⟩)) := by
  simp only [step, judge, ← Text.strip_eq_nil_iff] at h
  split at h
  · rename_i hblank
    exact .inl ⟨hblank, (Except.ok.inj h).symm⟩
  · rename_i hshown
    split at h
    · rename_i hseen
      exact .inr (.inl ⟨hshown, hseen, (Except.ok.inj h).symm⟩)
    · rename_i hnew
      split at h
      · cases h
      · rename_i name hname
        exact .inr (.inr ⟨hshown, hnew, name, hname, (Except.ok.inj h).symm⟩)

/-- `step` fails only if `scheme.name` fails for the next count. -/
theorem step_fails {fault : NameFault} (h : state.step scheme literal = .error fault) :
    literal.value.strip ≠ [] ∧ literal.raw ∉ state.seen ∧
      scheme.name (state.result.count + 1) = .error fault := by
  simp only [step, judge, ← Text.strip_eq_nil_iff] at h
  split at h
  · cases h
  · rename_i hshown
    split at h
    · cases h
    · rename_i hnew
      split at h
      · rename_i fault' hname
        obtain rfl : fault' = fault := Except.error.inj h
        exact ⟨hshown, hnew, hname⟩
      · cases h

theorem tallies_start (scheme : NameScheme) (kind : Kind) (count : Int) :
    (start kind count).Tallies scheme kind count [] :=
  { ofKind := rfl
    seen := fun _ => Iff.rfl
    raws := rfl
    named := trivial
    references := fun _ hmem => absurd hmem List.not_mem_nil
    reached := (Int.add_zero count).symm
    found := rfl
    blanks := rfl
    duplicates := rfl
    total := rfl }

/-- `settle .blank` raises `found` and `blanks`. -/
theorem Tallies.settle_blank (h : state.Tallies scheme kind count taken)
    (hblank : literal.value.strip = []) :
    (state.settle .blank).Tallies scheme kind count (taken ++ [literal]) := by
  have hshown : Literal.shown (taken ++ [literal]) = Literal.shown taken := by
    rw [Literal.shown_concat, if_neg (not_not_intro hblank), List.append_nil]
  have hblanks : Literal.blanks (taken ++ [literal]) = Literal.blanks taken ++ [literal] := by
    rw [Literal.blanks_concat, if_pos hblank]
  refine
    { ofKind := h.ofKind, seen := hshown ▸ h.seen, raws := hshown ▸ h.raws, named := h.named
      references := h.references, reached := h.reached, found := ?_, blanks := ?_
      duplicates := hshown ▸ h.duplicates, total := ?_ }
  · simp [settle, h.found]
  · simp [settle, hblanks, h.blanks]
  · have htotal := h.total
    simp only [settle]
    omega

/-- `settle .duplicate` raises `found` and `duplicates`. -/
theorem Tallies.settle_duplicate (h : state.Tallies scheme kind count taken)
    (hshown : literal.value.strip ≠ []) (hseen : literal.raw ∈ state.seen) :
    (state.settle .duplicate).Tallies scheme kind count (taken ++ [literal]) := by
  have hraws : (Literal.shown (taken ++ [literal])).map Literal.raw
      = (Literal.shown taken).map Literal.raw ++ [literal.raw] := by
    rw [Literal.shown_concat, if_pos hshown, List.map_append, List.map_singleton]
  have hblanks : Literal.blanks (taken ++ [literal]) = Literal.blanks taken := by
    rw [Literal.blanks_concat, if_neg hshown, List.append_nil]
  have hraw := (h.seen literal.raw).mp hseen
  refine
    { ofKind := h.ofKind, seen := ?_, raws := ?_, named := h.named, references := h.references
      reached := h.reached, found := ?_, blanks := hblanks ▸ h.blanks, duplicates := ?_
      total := ?_ }
  · intro raw
    rw [hraws, List.mem_append, List.mem_singleton, ← h.seen raw]
    exact ⟨.inl, fun hor => hor.elim id fun heq => heq ▸ hseen⟩
  · rw [hraws, firsts_concat, if_neg (not_not_intro hraw), List.append_nil]
    exact h.raws
  · simp [settle, h.found]
  · rw [hraws, repeats_concat, if_pos hraw]
    simp [settle, h.duplicates]
  · have htotal := h.total
    simp only [settle]
    omega

/-- `settle (.entry _)` adds the last of the `entries`, under the name of the next count. -/
theorem Tallies.settle_entry {name : Points} (h : state.Tallies scheme kind count taken)
    (hshown : literal.value.strip ≠ []) (hnew : literal.raw ∉ state.seen)
    (hname : scheme.name (state.result.count + 1) = .ok name) :
    (state.settle (.entry ⟨name, literal.raw, scheme.reference state.result.kind name⟩)).Tallies
      scheme kind count (taken ++ [literal]) := by
  have hraws : (Literal.shown (taken ++ [literal])).map Literal.raw
      = (Literal.shown taken).map Literal.raw ++ [literal.raw] := by
    rw [Literal.shown_concat, if_pos hshown, List.map_append, List.map_singleton]
  have hblanks : Literal.blanks (taken ++ [literal]) = Literal.blanks taken := by
    rw [Literal.blanks_concat, if_neg hshown, List.append_nil]
  -- The `seen` spellings are those of the shown literals, so a new spelling is a first occurrence.
  have hraw : literal.raw ∉ (Literal.shown taken).map Literal.raw :=
    fun hmem => hnew ((h.seen _).mpr hmem)
  refine
    { ofKind := h.ofKind, seen := ?_, raws := ?_, named := ?_, references := ?_, reached := ?_
      found := ?_, blanks := hblanks ▸ h.blanks, duplicates := ?_, total := ?_ }
  · intro raw
    rw [hraws, List.mem_append, List.mem_singleton, ← h.seen raw]
    exact List.mem_cons.trans or_comm
  · rw [hraws, firsts_concat, if_pos hraw]
    simp [settle, h.raws]
  · refine (NameScheme.namesFrom_append _ _ _).mpr ⟨h.named, ?_, trivial⟩
    rw [← h.reached]
    exact hname
  · intro entry hmem
    rcases List.mem_append.mp hmem with hold | hlast
    · exact h.references entry hold
    · rw [List.mem_singleton.mp hlast, h.ofKind]
  · simp only [settle, List.length_append, List.length_singleton, h.reached]
    omega
  · simp [settle, h.found]
  · rw [hraws, repeats_concat, if_neg hraw, List.append_nil]
    exact h.duplicates
  · have htotal := h.total
    simp only [settle, List.length_append, List.length_singleton]
    omega

/-- `step` keeps `Tallies`: its literal is taken. -/
theorem Tallies.step (h : state.Tallies scheme kind count taken)
    (hstep : state.step scheme literal = .ok next) :
    next.Tallies scheme kind count (taken ++ [literal]) := by
  rcases step_cases hstep with ⟨hblank, rfl⟩ | ⟨hshown, hseen, rfl⟩ | ⟨hshown, hnew, name, hname, rfl⟩
  · exact h.settle_blank hblank
  · exact h.settle_duplicate hshown hseen
  · exact h.settle_entry hshown hnew hname

/-- `foldlM` of `step` keeps `Tallies`: all its literals are taken. -/
theorem Tallies.run (h : state.Tallies scheme kind count taken)
    (hrun : rest.foldlM (Scanning.step scheme) state = .ok next) :
    next.Tallies scheme kind count (taken ++ rest) := by
  induction rest generalizing state taken with
  | nil =>
    obtain rfl : state = next := Except.ok.inj hrun
    rwa [List.append_nil]
  | cons literal rest ih =>
    rw [List.foldlM_cons] at hrun
    cases hstep : state.step scheme literal with
    | error fault =>
      rw [hstep] at hrun
      cases hrun
    | ok mid =>
      rw [hstep] at hrun
      have hrest := ih (h.step hstep) hrun
      rwa [List.append_assoc, List.singleton_append] at hrest

/-- `foldlM` of `step` fails only if `scheme.name` fails for a literal that stands for the first time. -/
theorem Tallies.run_fails {fault : NameFault} (h : state.Tallies scheme kind count taken)
    (hrun : rest.foldlM (Scanning.step scheme) state = .error fault) :
    ∃ index < (firsts ((Literal.shown (taken ++ rest)).map Literal.raw)).length,
      scheme.name (count + 1 + index) = .error fault := by
  induction rest generalizing state taken with
  | nil => cases hrun
  | cons literal rest ih =>
    rw [List.foldlM_cons] at hrun
    cases hstep : state.step scheme literal with
    | error fault' =>
      rw [hstep] at hrun
      obtain rfl : fault' = fault := Except.error.inj hrun
      obtain ⟨hshown, hnew, hname⟩ := step_fails hstep
      -- The literal would have been the next entry.
      have hraw : literal.raw ∉ (Literal.shown taken).map Literal.raw :=
        fun hmem => hnew ((h.seen _).mpr hmem)
      have hall : (Literal.shown (taken ++ literal :: rest)).map Literal.raw
          = ((Literal.shown taken).map Literal.raw ++ [literal.raw])
            ++ (Literal.shown rest).map Literal.raw := by
        simp [Literal.shown, hshown]
      have hlength : state.result.entries.length + 1
          = (firsts ((Literal.shown taken).map Literal.raw ++ [literal.raw])).length := by
        rw [firsts_concat, if_pos hraw, ← h.raws, List.length_append, List.length_map,
          List.length_singleton]
      refine ⟨state.result.entries.length, ?_, ?_⟩
      · rw [hall, ← Nat.add_one_le_iff, hlength]
        exact (firsts_prefix_append _ _).length_le
      · rw [Int.add_right_comm, ← h.reached]
        exact hname
    | ok mid =>
      rw [hstep] at hrun
      have hrest := ih (h.step hstep) hrun
      rwa [List.append_assoc, List.singleton_append] at hrest

end

end Scanning

/-! ### The entries of a scan -/

section
variable {scheme : NameScheme} {kind : Kind} {text : Text} {count : Int} {result : Scan}

/-- The result of a `scan` is that of a state with `Tallies` of all the `literals` of the text. -/
theorem scanning_of_scan (h : scan scheme kind text count = .ok result) :
    ∃ state : Scanning, state.result = result ∧
      state.Tallies scheme kind count (literals kind text) := by
  unfold scan at h
  cases hrun : (literals kind text).foldlM (Scanning.step scheme) (.start kind count) with
  | error fault =>
    rw [hrun] at h
    cases h
  | ok state =>
    rw [hrun] at h
    exact ⟨state, Except.ok.inj h, (Scanning.tallies_start scheme kind count).run hrun⟩

/-- `scan` fails only if `scheme.name` fails for a literal that stands for the first time. -/
theorem exists_name_of_scan_error {fault : NameFault}
    (h : scan scheme kind text count = .error fault) :
    ∃ index < (firsts ((Literal.shown (literals kind text)).map Literal.raw)).length,
      scheme.name (count + 1 + index) = .error fault := by
  unfold scan at h
  cases hrun : (literals kind text).foldlM (Scanning.step scheme) (.start kind count) with
  | error fault' =>
    rw [hrun] at h
    obtain rfl : fault' = fault := Except.error.inj h
    exact (Scanning.tallies_start scheme kind count).run_fails hrun
  | ok state =>
    rw [hrun] at h
    cases h

/-- A view of the `entries` that is `some entries` comes from a `scan` that ends well. The witnesses
evaluate a `scan` by this view. -/
theorem exists_scan_of_entries {entries : List Entry}
    (h : (scan scheme kind text count).toOption.map Scan.entries = some entries) :
    ∃ result, scan scheme kind text count = .ok result ∧ result.entries = entries := by
  generalize scan scheme kind text count = ended at h ⊢
  cases ended with
  | error fault => cases h
  | ok result => exact ⟨result, rfl, Option.some.inj h⟩

theorem scan_kind (h : scan scheme kind text count = .ok result) : result.kind = kind := by
  obtain ⟨state, rfl, htallies⟩ := scanning_of_scan h
  exact htallies.ofKind

theorem scan_namesFrom (h : scan scheme kind text count = .ok result) :
    scheme.NamesFrom count result.entries := by
  obtain ⟨state, rfl, htallies⟩ := scanning_of_scan h
  exact htallies.named

theorem scan_reference (h : scan scheme kind text count = .ok result) {entry : Entry}
    (hmem : entry ∈ result.entries) : entry.reference = scheme.reference kind entry.name := by
  obtain ⟨state, rfl, htallies⟩ := scanning_of_scan h
  exact htallies.references entry hmem

theorem scan_raws (h : scan scheme kind text count = .ok result) :
    result.entries.map Entry.raw = firsts ((Literal.shown (literals kind text)).map Literal.raw) := by
  obtain ⟨state, rfl, htallies⟩ := scanning_of_scan h
  exact htallies.raws

theorem scan_count (h : scan scheme kind text count = .ok result) :
    result.count = count + result.entries.length := by
  obtain ⟨state, rfl, htallies⟩ := scanning_of_scan h
  exact htallies.reached

/-- No two entries of a `scan` have the same `raw`. -/
theorem nodup_raws_of_scan (h : scan scheme kind text count = .ok result) :
    (result.entries.map Entry.raw).Nodup := by
  rw [scan_raws h]
  exact nodup_firsts _

/-- `scan` of a text whose literals are all `isAllBlank` gives no entries, under every scheme. -/
theorem scan_of_isAllBlank (h : ∀ literal ∈ literals kind text, literal.value.isAllBlank = true)
    (scheme : NameScheme) (count : Int) :
    ∃ result, scan scheme kind text count = .ok result ∧ result.entries = [] := by
  have hnone : Literal.shown (literals kind text) = [] :=
    List.filter_eq_nil_iff.mpr fun literal hmem => by
      simp [Text.strip_eq_nil_iff, h literal hmem]
  cases hscan : scan scheme kind text count with
  | error fault =>
    obtain ⟨index, hindex, -⟩ := exists_name_of_scan_error hscan
    rw [hnone] at hindex
    exact absurd hindex (Nat.not_lt_zero index)
  | ok result =>
    have hraws := scan_raws hscan
    rw [hnone] at hraws
    exact ⟨result, rfl, List.map_eq_nil_iff.mp hraws⟩

/-- The `raw`s of the entries of a `scan` are those of the literals that are not `isAllBlank`. -/
theorem mem_raws_of_scan (h : scan scheme kind text count = .ok result) (raw : Text) :
    raw ∈ result.entries.map Entry.raw ↔
      ∃ literal ∈ literals kind text, literal.value.isAllBlank = false ∧ literal.raw = raw := by
  rw [scan_raws h, mem_firsts]
  simp [Literal.shown, Text.strip_eq_nil_iff, and_assoc]

end

end Externalize
