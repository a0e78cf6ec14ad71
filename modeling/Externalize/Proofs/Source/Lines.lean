import Externalize.Proofs.Source.Weight
import Externalize.Proofs.Text.Line

/-!
# `Externalize.Proofs.Source.Lines`: relinking works on each line alone

A literal lies in one line, and so does its link if the name does. Replacing the one by the other
therefore never looks past a line feed and never makes one: it is `LineLocal`. That is kept when such
maps are put one after the other, so relinking, which takes the entries in order, is line-local as a
whole (`relink_lineLocal`), though it goes over the text again and again with spellings that come from
all of it.

What a line-local map makes of a text is told by its lines: `LineLocal.splitOn`, `LineLocal.count`.
-/

set_option autoImplicit false

namespace Externalize

namespace Text

/-- The map `f` makes of a text what it makes of each of its lines alone. -/
structure LineLocal (f : Text → Text) : Prop where
  append : ∀ line rest, f (line ++ '\n' :: rest) = f line ++ '\n' :: f rest
  oneLine : ∀ line, '\n' ∉ line → '\n' ∉ f line

namespace LineLocal

variable {f g : Text → Text}

protected theorem id : LineLocal id :=
  ⟨fun _ _ => rfl, fun _ h => h⟩

theorem comp (hg : LineLocal g) (hf : LineLocal f) : LineLocal (g ∘ f) where
  append line rest := by
    rw [Function.comp_apply, hf.append, hg.append]
    rfl
  oneLine line h := hg.oneLine _ (hf.oneLine _ h)

/-- `splitOn` a line feed commutes with a map that is `LineLocal`. -/
theorem splitOn (hf : LineLocal f) (text : Text) :
    (f text).splitOn '\n' = (text.splitOn '\n').map f := by
  induction text using lineInduction with
  | line line h =>
    rw [List.splitOn_eq_singleton h, List.splitOn_eq_singleton (hf.oneLine _ h)]
    rfl
  | feed line rest h ih =>
    rw [hf.append, List.splitOn_append_cons_self_of_not_mem (hf.oneLine _ h), ih,
      List.splitOn_append_cons_self_of_not_mem h, List.map_cons]

/-- A map that is `LineLocal` keeps the number of line feeds. -/
theorem count (hf : LineLocal f) (text : Text) : (f text).count '\n' = text.count '\n' := by
  induction text using lineInduction with
  | line line h => rw [List.count_eq_zero.mpr h, List.count_eq_zero.mpr (hf.oneLine _ h)]
  | feed line rest h ih =>
    rw [hf.append, List.count_append, List.count_append, List.count_cons_self, List.count_cons_self, ih,
      List.count_eq_zero.mpr h, List.count_eq_zero.mpr (hf.oneLine _ h)]

end LineLocal

/-- A character of `replaceHits` was in the text, or is one of `new`. -/
theorem mem_replaceHits {rule : Rule} {new text : Text} {c : Char}
    (h : c ∈ replaceHits rule new text) : c ∈ text ∨ c ∈ new := by
  obtain ⟨part, hpart, hc⟩ := List.mem_flatMap.mp h
  cases part with
  | plain d =>
    refine .inl ?_
    rw [← flatMap_text_segments rule text]
    exact List.mem_flatMap.mpr ⟨_, hpart, hc⟩
  | hit found => exact .inr hc

/-- `replaceAll` is `LineLocal`, if neither text holds a line feed. -/
theorem replaceAll_lineLocal {raw link : Text} (hne : raw ≠ []) (hraw : '\n' ∉ raw)
    (hlink : '\n' ∉ link) : LineLocal (replaceAll raw link) where
  append line rest := replaceAll_append_mark hne hraw link line rest
  oneLine line h := by
    obtain ⟨first, raw, rfl⟩ := List.exists_cons_of_ne_nil hne
    exact fun hmem => (mem_replaceHits hmem).elim h hlink

end Text

/-! ### Entries in one line -/

/-- `shown` of a name without the character `c` does not hold it, unless `c` is `Point.replacement`. -/
theorem Points.notMem_shown {points : Points} {c : Char} (hc : c ≠ Point.replacement)
    (h : Point.char c ∉ points) : c ∉ points.shown := by
  intro hmem
  obtain ⟨point, hpoint, hshown⟩ := List.mem_map.mp hmem
  cases point with
  | char d => exact h (by rwa [show d = c from hshown] at hpoint)
  | half n => exact hc hshown.symm

/-- A `reference` has a line feed only if its name has one. -/
theorem NameScheme.lineFeed_notMem_reference (scheme : NameScheme) (kind : Kind) {name : Points}
    (h : Point.char '\n' ∉ name) : '\n' ∉ scheme.reference kind name := by
  have hshown := Points.notMem_shown (by decide) h
  cases kind with
  | markup =>
    have hstart : '\n' ∉ "@string/".toList := by decide
    exact List.not_mem_append hstart hshown
  | code =>
    have hcall : '\n' ∉ (if scheme.accessor then "ExtractedString.getString("
        else "getResources().getString(").toList := by
      split <;> decide
    have hmark : '\n' ∉ "R.string.".toList := by decide
    rw [reference_code]
    exact List.not_mem_append (List.not_mem_append (List.not_mem_append hcall hmark) hshown) (by decide)

/-- The `raw` of the entry holds a quote, and neither `raw` nor `link` holds a line feed. -/
structure Entry.InLine (kind : Kind) (entry : Entry) : Prop where
  quoted : '"' ∈ entry.raw
  raw : '\n' ∉ entry.raw
  link : '\n' ∉ entry.link kind

section
variable {scheme : NameScheme} {kind : Kind} {text : Text} {count : Int} {result : Scan}

theorem inLine_of_scan (h : scan scheme kind text count = .ok result) {entry : Entry}
    (hmem : entry ∈ result.entries) (hname : Point.char '\n' ∉ entry.name) : entry.InLine kind := by
  obtain ⟨literal, hliteral, -, hraw⟩ :=
    (mem_raws_of_scan h entry.raw).mp (List.mem_map_of_mem hmem)
  obtain ⟨value, hquoted, -, hfeed, -⟩ := exists_value_of_mem_literals hliteral
  have href : '\n' ∉ entry.reference :=
    scan_reference h hmem ▸ scheme.lineFeed_notMem_reference kind hname
  refine ⟨?_, ?_, ?_⟩
  · rw [← hraw, hquoted]
    exact List.mem_cons_self
  · rw [← hraw, hquoted]
    simpa [Externalize.quoted] using hfeed
  · cases kind with
    | code => exact href
    | markup => simpa [Entry.link] using href

/-- `relink` is `LineLocal`, if its entries are `InLine`. -/
theorem relink_lineLocal {entries : List Entry} (h : ∀ entry ∈ entries, entry.InLine kind) :
    Text.LineLocal (relink kind entries) := by
  induction entries with
  | nil => exact .id
  | cons entry entries ih =>
    obtain ⟨hquoted, hraw, hlink⟩ := h entry (by simp)
    have hrest := ih fun other hother => h other (by simp [hother])
    exact hrest.comp (Text.replaceAll_lineLocal (List.ne_nil_of_mem hquoted) hraw hlink)

/-- `relink` leaves a text without quotes as it is. -/
theorem relink_of_notMem {entries : List Entry} (h : ∀ entry ∈ entries, '"' ∈ entry.raw)
    {text : Text} (htext : '"' ∉ text) : relink kind entries text = text := by
  induction entries with
  | nil => rfl
  | cons entry entries ih =>
    have hquote := h entry (by simp)
    rw [relink_cons, Text.replaceAll_of_not_infix _ (List.ne_nil_of_mem hquote) fun hwithin =>
      htext (hwithin.subset hquote), ih fun other hother => h other (by simp [hother])]

end

/-- Take a `scan` with no line feed in the names of its entries. `relink` keeps the number of line feeds of
the text, and makes of each line what it makes of that line alone. A line without a quote stays as it is. -/
theorem relink_each_line {scheme : NameScheme} {kind : Kind} {text : Text} {count : Int}
    {result : Scan} (hscan : scan scheme kind text count = .ok result)
    (hnames : ∀ entry ∈ result.entries, Point.char '\n' ∉ entry.name) :
    (relink kind result.entries text).count '\n' = text.count '\n' ∧
      (relink kind result.entries text).splitOn '\n'
        = (text.splitOn '\n').map (relink kind result.entries) ∧
      ∀ (place : Nat) (line : Text), (text.splitOn '\n')[place]? = some line → '"' ∉ line →
        ((relink kind result.entries text).splitOn '\n')[place]? = some line := by
  have hinline : ∀ entry ∈ result.entries, entry.InLine kind := fun entry hmem =>
    inLine_of_scan hscan hmem (hnames entry hmem)
  have hlocal := relink_lineLocal hinline
  refine ⟨hlocal.count text, hlocal.splitOn text, fun place line hline hquote => ?_⟩
  rw [hlocal.splitOn, List.getElem?_map, hline, Option.map_some,
    relink_of_notMem (fun entry hmem => (hinline entry hmem).quoted) hquote]

/-- `relink_each_line` at a literal that stands on two lines, and at one with a carriage return in it.
The line between them keeps its own carriage return. -/
theorem relink_each_line_with_returns :
    let text := "a(\"x\");\r\nb = 1;\r\nc(\"x\", \"y\rz\");".toList
    let entries : List Entry :=
      [⟨Points.ofText "extracted_string1".toList, "\"x\"".toList,
          "getResources().getString(R.string.extracted_string1)".toList⟩,
        ⟨Points.ofText "extracted_string2".toList, "\"y\rz\"".toList,
          "getResources().getString(R.string.extracted_string2)".toList⟩]
    ∃ scheme result, NameScheme.build none none false = .ok scheme ∧
      scan scheme .code text 0 = .ok result ∧ result.entries = entries ∧
      (∀ entry ∈ entries, Point.char '\n' ∉ entry.name) ∧
      (relink .code entries text).count '\n' = 2 ∧
      (relink .code entries text).splitOn '\n'
        = [relink .code entries "a(\"x\");\r".toList, "b = 1;\r".toList,
          relink .code entries "c(\"x\", \"y\rz\");".toList] := by
  intro text entries
  have hbuild : NameScheme.build none none false
      = .ok ⟨NameScheme.defaultStem, NameScheme.defaultEnding, false⟩ := rfl
  obtain ⟨result, hscan, hentries⟩ : ∃ result,
      scan ⟨NameScheme.defaultStem, NameScheme.defaultEnding, false⟩ .code text 0 = .ok result ∧
        result.entries = entries := exists_scan_of_entries (by decide +kernel)
  have hnames : ∀ entry ∈ entries, Point.char '\n' ∉ entry.name := by decide +kernel
  obtain ⟨hcount, hlines, -⟩ := relink_each_line hscan (hentries ▸ hnames)
  have htext : text.splitOn '\n'
      = ["a(\"x\");\r".toList, "b = 1;\r".toList, "c(\"x\", \"y\rz\");".toList] := by
    decide +kernel
  have hplain : relink .code entries "b = 1;\r".toList = "b = 1;\r".toList := by decide +kernel
  rw [hentries] at hcount hlines
  rw [htext, List.map_cons, List.map_cons, List.map_cons, List.map_nil, hplain] at hlines
  exact ⟨_, result, hbuild, hscan, hentries, hnames, hcount.trans (by decide +kernel), hlines⟩

end Externalize
