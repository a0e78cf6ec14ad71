import Externalize.Extraction.File
import Externalize.Proofs.Resource.Writer

/-!
# `Externalize.Proofs.Extraction.Store`: what adding entries does to a resource file

`Stores` says when the adding of the entries of a scan comes to its end: every name can be written, and
what the file held before is text. `Job.store_ends` tells the three ends apart. If the file does not open
nothing changes. If it opens and the adding comes to its end, the file holds the old text and the new
entries in the canonical layout. Otherwise a break, and maybe more, stays behind what the file held
before, and nothing takes it away.
-/

set_option autoImplicit false

namespace Externalize

/-- `store` ends well where the target `Opens`: no name has halves, and the file held text. -/
def Stores (entries : List Entry) (previous : Option Octets) : Prop :=
  (∀ entry ∈ entries, entry.name.text? ≠ none) ∧
    ∃ old, Utf8.decode (previous.getD []) = .ok old

namespace Job

open Disk (Wrote Opens)

/-- The `Entry.line` of an entry with the `Document.lineBreak` before it. -/
def entryText (entry : Entry) : Text :=
  Document.lineBreak ++ Document.entryLine entry.name.shown entry.value

/-- The name and the value of an entry as `store` gives them to the writer. -/
def written (entry : Entry) : Points × Points :=
  (entry.name, ↑entry.value)

theorem flatMap_written (entries : List Entry) :
    (entries.map written).flatMap Writer.entryText = entries.flatMap entryText := by
  rw [List.flatMap_map]
  congr 1
  funext entry
  simp only [Writer.entryText, written, entryText, Document.shown_entryPoints, Points.shown_ofText]

/-- `Writer.Legible` holds of what is `written` exactly if no name has halves. -/
theorem legible_written_iff (entries : List Entry) :
    Writer.Legible (entries.map written) ↔ ∀ entry ∈ entries, entry.name.text? ≠ none := by
  simp [Writer.Legible, written, Document.entryPoints_text?_eq_none_iff]

theorem encode_lineBreak_ne (more : Text) : Utf8.encode (Document.lineBreak ++ more) ≠ [] :=
  List.cons_ne_nil _ _

/-- `entryText` of entries begins with a `Document.lineBreak`. -/
theorem exists_entryText {entries : List Entry} (hne : entries ≠ []) :
    ∃ more, entries.flatMap entryText = Document.lineBreak ++ more := by
  obtain ⟨entry, entries, rfl⟩ := List.exists_cons_of_ne_nil hne
  exact ⟨Document.entryLine entry.name.shown entry.value ++ entries.flatMap entryText, by
    simp [entryText]⟩

/-- `Utf8.decode` fails on octets that are no text, also with `entryText` behind them. -/
theorem decode_added_ne {octets : Octets} (hnot : ¬∃ old, Utf8.decode octets = .ok old)
    {entries : List Entry} (hne : entries ≠ []) (text : Text) :
    Utf8.decode (octets ++ Utf8.encode (entries.flatMap entryText)) ≠ .ok text := by
  obtain ⟨more, hmore⟩ := exists_entryText hne
  cases hdecode : Utf8.decode octets with
  | ok old => exact absurd ⟨old, hdecode⟩ hnot
  | error fault =>
    have hbreak : Utf8.encode (entries.flatMap entryText) = 0x0D :: Utf8.encode ('\n' :: more) := by
      rw [hmore]
      rfl
    have hsmall : (0x0D : UInt8) < 0x80 := by decide
    obtain ⟨fault', hfault⟩ := Utf8.decode_append_error _ hsmall hdecode
    rw [hbreak, hfault]
    simp

/-- `store` has three ends. The target does not `Opens`, and nothing changes. It opens and `Stores`
holds, and the entries are stored. It opens and `Stores` does not hold, and something is left behind. -/
theorem store_ends (target : Path) {entries : List Entry} (hne : entries ≠ []) (space : Workspace) :
    ((¬∃ place previous, space.disk.Opens target place previous) ∧
      ∃ fault, (store target entries).ends space = (.error fault, space)) ∨
    ∃ place previous, space.disk.Opens target place previous ∧
      ((∃ old after, Stores entries previous ∧ Utf8.decode (previous.getD []) = .ok old ∧
          (store target entries).ends space = (.ok (), after) ∧
          Wrote space.disk after.disk place (Utf8.encode (Document.format
            (Text.unifyBreaks (old ++ entries.flatMap entryText))))) ∨
        (∃ cause after more, ¬Stores entries previous ∧
          (store target entries).ends space = (.error (.interruption cause), after) ∧
          Wrote space.disk after.disk place
            (previous.getD [] ++ Utf8.encode (Document.lineBreak ++ more)))) := by
  by_cases hopens : ∃ place previous, space.disk.Opens target place previous
  · obtain ⟨place, previous, hopens⟩ := hopens
    refine .inr ⟨place, previous, hopens, ?_⟩
    by_cases hnames : ∀ entry ∈ entries, entry.name.text? ≠ none
    · have htext := (legible_written_iff entries).mpr hnames
      cases hdecode : Utf8.decode (previous.getD []) with
      | ok old =>
        have hadded := Utf8.decode_append (entries.flatMap entryText) hdecode
        rw [← flatMap_written] at hadded
        obtain ⟨after, hafter, hwrote⟩ := Writer.session_of_text hopens htext hadded
        rw [flatMap_written] at hwrote
        exact .inl ⟨old, after, ⟨hnames, old, hdecode⟩, rfl, hafter, hwrote⟩
      | error fault =>
        -- Saving reads all of the file again, and the old part spoils the whole.
        have hnot : ¬∃ old, Utf8.decode (previous.getD []) = .ok old := by simp [hdecode]
        cases hadded : Utf8.decode
            (previous.getD [] ++ Utf8.encode (entries.flatMap entryText)) with
        | ok text => exact absurd hadded (decode_added_ne hnot hne text)
        | error fault' =>
          rw [← flatMap_written] at hadded
          obtain ⟨after, hafter, hwrote⟩ := Writer.session_of_octets hopens htext hadded
          obtain ⟨more, hmore⟩ := exists_entryText hne
          rw [flatMap_written, hmore] at hwrote
          exact .inr ⟨_, after, more, fun hstores => hnot (hdecode ▸ hstores.2), hafter, hwrote⟩
    · have hhalves : ¬Writer.Legible (entries.map written) :=
        fun h => hnames ((legible_written_iff entries).mp h)
      obtain ⟨halves, more, after, hafter, hwrote⟩ := Writer.session_of_halves hopens hhalves
      exact .inr ⟨_, after, more, fun hstores => hnames hstores.1, hafter, hwrote⟩
  · exact .inl ⟨hopens, Writer.session_of_refused hopens _⟩

end Job

end Externalize
