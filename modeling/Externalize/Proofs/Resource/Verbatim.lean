import Externalize.Proofs.Naming
import Externalize.Proofs.Resource.Renumber

/-!
# `Externalize.Proofs.Resource.Verbatim`: which names come through renumbering

Renumbering reads the new name attribute as a replacement, while the sources refer to the name as it is.
A backslash in a name has a meaning in a replacement unless it stands before a character that is no
letter, no digit and no backslash. `renameLine_entryLine_iff` says for one line, and
`renumber_entryLines_iff` for all, that the names come through as they are exactly if they are verbatim.
In particular nothing else can go wrong: the values may hold what looks like a name attribute, and the
old names any character but a quote and a line feed.
-/

set_option autoImplicit false

namespace Externalize

/-! ### One line -/

/-- `attributeText` of the old name has two quotes, and so does not fit in what follows the first quote
of another name attribute. -/
theorem attributeText_not_infix_append {name : Points} (h : Point.char '"' ∉ name) (old : Text) :
    ¬Points.ofText (attributeText old) <:+: name ++ Points.ofText ['"', '>'] := by
  intro hinfix
  have hcount := hinfix.sublist.count_le (Point.char '"')
  simp only [attributeText, Points.ofText, List.map_append, List.count_append,
    List.count_eq_zero_of_not_mem h] at hcount
  have hfront : List.count (Point.char '"') (['n', 'a', 'm', 'e', '=', '"'].map Point.char) = 1 := by
    decide
  have hend : List.count (Point.char '"') (['"', '>'].map Point.char) = 1 := by decide
  omega

/-- `renameLine` of an `entryLine` gives the line of the new name exactly if the name `IsVerbatim`. -/
theorem renameLine_entryLine_iff {old : Text} {name : Points} (hold : '"' ∉ old) (hfeed : '\n' ∉ old)
    (hquote : Point.char '"' ∉ name) (value : Text) :
    renameLine name (Document.entryLine old value) = .ok (Document.entryPoints name value) ↔
      Replacement.IsVerbatim name := by
  refine ⟨fun h => ?_, fun h => renameLine_entryLine hold hfeed h value⟩
  rw [renameLine_entryLine_eq hold hfeed] at h
  obtain ⟨given, hparts, hline⟩ := Replacement.exists_of_map_ok h
  -- What stands around the attribute is the same, so the attribute came out as it went in.
  rw [entryPoints_eq_nameAttribute] at hline
  have hsame := List.append_cancel_left (List.append_cancel_right hline)
  have hgiven := Replacement.partsFrom_of_parts hparts
  rw [tokens_nameAttribute, Replacement.partsFrom_plain_append] at hgiven
  obtain ⟨behind, hbehind, rfl⟩ := Replacement.exists_of_map_ok hgiven
  rw [nameAttribute_eq, Replacement.expand, List.flatMap_append] at hsame
  have hexpand : Replacement.expand behind (attributeText old) = name ++ Points.ofText ['"', '>'] :=
    (List.append_cancel_left hsame).symm
  have hkept :=
    Replacement.isKept_of_expand_eq hbehind (attributeText_not_infix_append hquote old) hexpand
  exact (Replacement.isKept_tokens_append_iff (by decide) (by decide) name).mp hkept

/-! ### All lines -/

namespace NameScheme

/-- The lines are the `Document.entryPoints` of the values under the names of `count + 1` and the counts
behind it. -/
def LinesFrom (scheme : NameScheme) : Nat → List Text → List Points → Prop
  | _, [], lines => lines = []
  | count, value :: values, lines =>
    ∃ name more, scheme.name (count + 1) = .ok name ∧
      lines = Document.entryPoints name value :: more ∧ scheme.LinesFrom (count + 1) values more

variable {scheme : NameScheme}

/-- `renumberFrom` goes line by line, and the first fault ends it. -/
theorem renumberFrom_cons_eq_ok_iff {count : Nat} {line : Text} {rest : List Text}
    {lines : List Points} :
    scheme.renumberFrom count (line :: rest) = .ok lines ↔
      ∃ name renamed more, scheme.name (count + 1) = .ok name ∧
        renameLine name line = .ok renamed ∧
        scheme.renumberFrom (count + 1) rest = .ok more ∧ lines = renamed :: more := by
  rw [renumberFrom]
  constructor
  · intro h
    split at h
    · cases h
    · rename_i name hname
      split at h
      · cases h
      · rename_i renamed hrenamed
        obtain ⟨more, hmore, rfl⟩ := Replacement.exists_of_map_ok h
        exact ⟨name, renamed, more, hname, hrenamed, hmore, rfl⟩
  · rintro ⟨name, renamed, more, hname, hrenamed, hmore, rfl⟩
    simp only [hname, hrenamed, hmore, Except.map]

/-- `renumberFrom` gives the `LinesFrom` of the values exactly if each count has a name and that name
`IsVerbatim`. -/
theorem renumberFrom_entryLines_iff {count : Nat} {entries : List (Text × Text)}
    (hquote : ∀ index < entries.length, ∀ name,
      scheme.name ((count + index : Nat) + 1) = .ok name → Point.char '"' ∉ name)
    (hold : ∀ entry ∈ entries, '"' ∉ entry.1 ∧ '\n' ∉ entry.1) :
    (∃ lines, scheme.renumberFrom count
          (entries.map fun (old, value) => Document.entryLine old value) = .ok lines ∧
        scheme.LinesFrom count (entries.map Prod.snd) lines) ↔
      ∀ index < entries.length, ∃ name, scheme.name ((count + index : Nat) + 1) = .ok name ∧
        Replacement.IsVerbatim name := by
  induction entries generalizing count with
  | nil => simp [renumberFrom, LinesFrom]
  | cons entry entries ih =>
    obtain ⟨old, value⟩ := entry
    -- The counts of the rest begin one higher, so that its index is one lower.
    have hplace : ∀ index, count + 1 + index = count + (index + 1) := by omega
    have hrest := @ih (count + 1)
      (fun index hindex name hname => hquote (index + 1) (by simpa using hindex) name
        (hplace index ▸ hname))
      fun entry hmem => hold entry (List.mem_cons_of_mem _ hmem)
    have hline := fun name (hname : scheme.name (count + 1) = .ok name) =>
      renameLine_entryLine_iff (hold (old, value) List.mem_cons_self).1
        (hold (old, value) List.mem_cons_self).2 (hquote 0 (by simp) name hname) value
    constructor
    · rintro ⟨lines, hlines, name, more, hname, hfirst, hmore⟩ index hindex
      obtain ⟨name', renamed, more', hname', hrenamed, hmore', rfl⟩ :=
        renumberFrom_cons_eq_ok_iff.mp hlines
      obtain rfl : name' = name := Except.ok.inj (hname'.symm.trans hname)
      obtain ⟨rfl, rfl⟩ := List.cons.inj hfirst
      cases index with
      | zero => exact ⟨name', hname, (hline name' hname).mp hrenamed⟩
      | succ index =>
        rw [← hplace]
        exact hrest.mp ⟨more', hmore', hmore⟩ index (by simpa using hindex)
    · intro h
      obtain ⟨name, hname, hverbatim⟩ := h 0 (by simp)
      obtain ⟨more, hmore, hvalues⟩ := hrest.mpr fun index hindex =>
        hplace index ▸ h (index + 1) (by simpa using hindex)
      exact ⟨_, renumberFrom_cons_eq_ok_iff.mpr
        ⟨name, _, more, hname, (hline name hname).mpr hverbatim, hmore, rfl⟩,
        name, more, hname, rfl, hvalues⟩

/-- Take entry lines whose old names hold no quote and no line feed, and a scheme whose names for the
counts from one on hold no quote. Then `scheme.renumbered` gives the lines of the values under these names
(`LinesFrom`) exactly if every count has a name and each of the names `IsVerbatim`. -/
theorem renumber_entryLines_iff {entries : List (Text × Text)}
    (hquote : ∀ index < entries.length, ∀ name,
      scheme.name (index + 1) = .ok name → Point.char '"' ∉ name)
    (hold : ∀ entry ∈ entries, '"' ∉ entry.1 ∧ '\n' ∉ entry.1) :
    (∃ lines, scheme.renumbered (entries.map fun (old, value) => Document.entryLine old value)
          = .ok lines ∧
        scheme.LinesFrom 0 (entries.map Prod.snd) lines) ↔
      ∀ index < entries.length, ∃ name, scheme.name (index + 1) = .ok name ∧
        Replacement.IsVerbatim name := by
  have hcounts := @renumberFrom_entryLines_iff scheme 0 entries
  simp only [Nat.zero_add] at hcounts
  exact hcounts hquote hold

/-- The scheme of names that begin with `a`, a backslash and an underscore. -/
def keptStem : NameScheme :=
  { stem := Points.ofText "a\\_%s".toList, ending := Points.ofText "%s".toList, accessor := false }

/-- An entry whose old name has a backslash, and one whose value looks like a name attribute. -/
def keptEntries : List (Text × Text) :=
  [("z\\n9".toList, "A".toList), ("q".toList, "name=\"x\">\n".toList)]

/-- `renumber_entryLines_iff` at `keptStem`: a backslash before an underscore comes through in both
lines. -/
theorem renumber_entryLines_iff_kept :
    build (some (Points.ofText "a\\_".toList)) none false = .ok keptStem ∧
      (∀ index < keptEntries.length, ∀ name,
        keptStem.name (index + 1) = .ok name → Point.char '"' ∉ name) ∧
      (∀ entry ∈ keptEntries, '"' ∉ entry.1 ∧ '\n' ∉ entry.1) ∧
      ∃ lines, keptStem.renumbered
          (keptEntries.map fun (old, value) => Document.entryLine old value) = .ok lines ∧
        keptStem.LinesFrom 0 (keptEntries.map Prod.snd) lines := by
  have hbuild : build (some (Points.ofText "a\\_".toList)) none false = .ok keptStem := rfl
  have hstem : IsPlainTemplate (some (Points.ofText "a\\_".toList)) :=
    isPlainTemplate_some (by decide)
  have hquote : ∀ index < keptEntries.length, ∀ name,
      keptStem.name (index + 1) = .ok name → Point.char '"' ∉ name :=
    fun index _ name hname hmem =>
      notMem_name hstem isPlainTemplate_none hbuild hname (by decide) (by decide) (by decide)
        (Points.mem_shown hmem)
  have hold : ∀ entry ∈ keptEntries, '"' ∉ entry.1 ∧ '\n' ∉ entry.1 := by decide
  refine ⟨hbuild, hquote, hold, (renumber_entryLines_iff hquote hold).mpr ?_⟩
  intro index hindex
  match index, hindex with
  | 0, _ => exact ⟨Points.ofText "a\\_1".toList, rfl, by decide⟩
  | 1, _ => exact ⟨Points.ofText "a\\_2".toList, rfl, by decide⟩

/-- The scheme of names that begin with `a`, a backslash and the letter `n`. -/
def readStem : NameScheme :=
  { stem := Points.ofText "a\\n%s".toList, ending := Points.ofText "%s".toList, accessor := false }

/-- `readStem` has no name with a quote, but `renumbered` reads a backslash and the letter behind it as
a line feed. -/
theorem renumber_reads_backslash :
    build (some (Points.ofText "a\\n".toList)) none false = .ok readStem ∧
      (∀ number name, readStem.name number = .ok name → Point.char '"' ∉ name) ∧
      readStem.name 1 = .ok (Points.ofText "a\\n1".toList) ∧
      readStem.renumbered [Document.entryLine "z9".toList "A".toList]
        = .ok [Points.ofText (Document.entryLine "a\n1".toList "A".toList)] ∧
      readStem.renumbered [Document.entryLine "z9".toList "A".toList]
        ≠ .ok [Points.ofText (Document.entryLine "a\\n1".toList "A".toList)] := by
  have hbuild : build (some (Points.ofText "a\\n".toList)) none false = .ok readStem := rfl
  have hstem : IsPlainTemplate (some (Points.ofText "a\\n".toList)) :=
    isPlainTemplate_some (by decide)
  have hlines : readStem.renumbered [Document.entryLine "z9".toList "A".toList]
      = .ok [Points.ofText (Document.entryLine "a\n1".toList "A".toList)] := rfl
  refine ⟨hbuild, ?_, rfl, hlines, ?_⟩
  · intro number name hname hmem
    exact notMem_name hstem isPlainTemplate_none hbuild hname (by decide) (by decide) (by decide)
      (Points.mem_shown hmem)
  · rw [hlines]
    intro heq
    exact absurd (Except.ok.inj heq) (by decide)

end NameScheme

end Externalize
