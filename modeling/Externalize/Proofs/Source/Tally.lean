import Externalize.Proofs.Source.Scan

/-!
# `Externalize.Proofs.Source.Tally`: what a scan keeps and what it counts

Every literal of a text falls on one of three sides: it is blank, or it repeats an earlier one that is
not blank, or it becomes an entry. `Scan.Tallies` says this of the result of `scan`: the spellings of
the `entries` are those that stand for the first time (`firsts`), the entries are named one after the
other, and each of `found`, `blanks`, `duplicates` and `count` is the number of what it counts. It comes
from the invariant of the loop, `Scanning.Tallies`.

`scan_eq_ok_iff_tallies` says that these facts leave nothing open. A scan ends with a result exactly if
they hold of it, so that it ends without one only if a name is wanting.
-/

set_option autoImplicit false

namespace Externalize

/-! ### The result of a scan -/

attribute [ext] Entry Scan

/-- What stands in the fields of the result of a `scan` of the text from `count` on. The literals that
count are those that are `Literal.shown`, and of these the first of each spelling. -/
structure Scan.Tallies (result : Scan) (scheme : NameScheme) (kind : Kind) (text : Text)
    (count : Int) : Prop where
  ofKind : result.kind = kind
  /-- The entries have the spellings that stand for the first time, in order. -/
  raws : result.entries.map Entry.raw
    = firsts ((Literal.shown (literals kind text)).map Literal.raw)
  distinct : (result.entries.map Entry.raw).Nodup
  notBlank : ∀ entry ∈ result.entries, entry.value.strip ≠ []
  /-- They are named from one above the count on. -/
  named : ∀ (index : Nat) (h : index < result.entries.length),
    scheme.name (count + 1 + index) = .ok result.entries[index].name
  references : ∀ entry ∈ result.entries, entry.reference = scheme.reference kind entry.name
  reached : result.count = count + result.entries.length
  found : result.found = (literals kind text).length
  blanks : result.blanks = (Literal.blanks (literals kind text)).length
  duplicates : result.duplicates
    = (repeats ((Literal.shown (literals kind text)).map Literal.raw)).length
  total : result.found = result.blanks + result.duplicates + result.entries.length

section
variable {scheme : NameScheme} {kind : Kind} {text : Text} {count : Int} {result : Scan}

/-- A result of `scan` has the `Tallies` of the text. -/
theorem Scan.tallies_of_scan (h : scan scheme kind text count = .ok result) :
    result.Tallies scheme kind text count := by
  obtain ⟨state, rfl, htallies⟩ := scanning_of_scan h
  refine
    { ofKind := htallies.ofKind
      raws := htallies.raws
      distinct := nodup_raws_of_scan h
      notBlank := ?_
      named := ?_
      references := htallies.references
      reached := htallies.reached
      found := htallies.found
      blanks := htallies.blanks
      duplicates := htallies.duplicates
      total := htallies.total }
  -- An entry has the spelling of a literal that is not blank.
  · intro entry hmem
    obtain ⟨literal, -, hblank, hraw⟩ :=
      (mem_raws_of_scan h entry.raw).mp (List.mem_map_of_mem hmem)
    have hvalue : entry.value = literal.value := congrArg unquoted hraw.symm
    rw [hvalue, ne_eq, Text.strip_eq_nil_iff, hblank]
    exact Bool.false_ne_true
  · intro index hindex
    rw [Int.add_right_comm]
    exact htallies.named.name_getElem index hindex

/-- Two results with the `Tallies` of one text are equal. -/
theorem Scan.Tallies.unique {other : Scan} (h : result.Tallies scheme kind text count)
    (h' : other.Tallies scheme kind text count) : result = other := by
  have hraws := h.raws.trans h'.raws.symm
  have hlength : result.entries.length = other.entries.length := by
    simpa using congrArg List.length hraws
  have hentries : result.entries = other.entries := by
    refine List.ext_getElem hlength fun index hindex hindex' => ?_
    have hname : result.entries[index].name = other.entries[index].name :=
      Except.ok.inj ((h.named index hindex).symm.trans (h'.named index hindex'))
    have hraw : result.entries[index].raw = other.entries[index].raw := by
      have hat := congrArg (fun raws => raws[index]?) hraws
      simpa [hindex, hindex'] using hat
    have hreference := h.references _ (List.getElem_mem hindex)
    have hreference' := h'.references _ (List.getElem_mem hindex')
    exact Entry.ext hname hraw (by rw [hreference, hreference', hname])
  refine Scan.ext ?_ hentries ?_ ?_ ?_ ?_
  · rw [h.ofKind, h'.ofKind]
  · rw [h.found, h'.found]
  · rw [h.duplicates, h'.duplicates]
  · rw [h.blanks, h'.blanks]
  · rw [h.reached, h'.reached, hlength]

/-- `scan` ends with a result exactly if the result has the `Tallies` of the text. -/
theorem scan_eq_ok_iff_tallies (scheme : NameScheme) (kind : Kind) (text : Text) (count : Int)
    (result : Scan) :
    scan scheme kind text count = .ok result ↔ result.Tallies scheme kind text count := by
  refine ⟨Scan.tallies_of_scan, fun h => ?_⟩
  cases hscan : scan scheme kind text count with
  | ok other => rw [(Scan.tallies_of_scan hscan).unique h]
  | error fault =>
    -- A scan that fails wants the name of one of the entries.
    obtain ⟨index, hindex, hname⟩ := exists_name_of_scan_error hscan
    rw [← h.raws, List.length_map] at hindex
    rw [h.named index hindex] at hname
    cases hname

end

end Externalize
