import Externalize.Proofs.Resource.Canonical

/-!
# `Externalize.Proofs.Resource.RoundTrip`: documents that are read and written again

Writing lines as a document and reading the document again gives the lines back exactly if they are
canonical and none is repeated: `entryLines_document_eq_self_iff`.

Laying out a text is the same the other way round. The lines that are read of any text are stripped
(`strip_of_mem_entryLines`) and have no entry end before another tag
(`not_boundary_of_mem_entryLines`), so of what makes a line canonical only the tags and declarations
are open. These are dropped in one pass each, and what a pass leaves may close up to another mark. A
text that is laid out stays as it is exactly if this happened in none of its lines:
`format_format_eq_iff`. In `format_nested_opening_ne` it happened.
-/

set_option autoImplicit false

namespace Externalize

namespace Text

/-! ### Stripping -/

/-- `strip` takes something away at the two ends only. -/
theorem strip_infix (text : Text) : strip text <:+: text := by
  have hback : strip text <+: text.dropWhile isBlank := by
    rw [← List.reverse_suffix, strip, stripWhere, List.reverse_reverse]
    exact List.dropWhile_suffix _
  exact hback.isInfix.trans (List.dropWhile_suffix _).isInfix

/-- `strip` of what `strip` gave changes nothing. -/
theorem strip_strip (text : Text) : strip (strip text) = strip text := by
  cases hback : (text.dropWhile isBlank).reverse.dropWhile isBlank with
  | nil =>
    have hnil : strip text = [] := by rw [strip, stripWhere, hback]; rfl
    rw [hnil]
    rfl
  | cons last rest =>
    have hstrip : strip text = (last :: rest).reverse := by rw [strip, stripWhere, hback]
    have hlast : isBlank last = false := by
      have hhead := List.head?_dropWhile_not isBlank (text.dropWhile isBlank).reverse
      simpa [hback] using hhead
    -- The first character that is left is the first that is not blank from the front.
    obtain ⟨behind, hbehind⟩ : strip text <+: text.dropWhile isBlank := by
      rw [hstrip, ← List.reverse_suffix, List.reverse_reverse, ← hback]
      exact List.dropWhile_suffix _
    obtain ⟨first, others, hfirst⟩ : ∃ first others, strip text = first :: others :=
      List.exists_cons_of_ne_nil (by simp [hstrip])
    have hblank : isBlank first = false := by
      have hhead := List.head?_dropWhile_not isBlank text
      rw [← hbehind, hfirst] at hhead
      simpa using hhead
    have hhead : (strip text).head? = some first := by rw [hfirst]; rfl
    have hend : (strip text).getLast? = some last := by rw [hstrip]; simp
    exact strip_of_ends hhead hend hblank hlast

/-! ### Where a walk found nothing -/

/-- `rule` does not match where `segments` has a `plain` character. -/
theorem rule_eq_none_of_segments {rule : Rule} {front text : Text} {parts : List Segment}
    (h : segments rule (front ++ text) = front.map .plain ++ parts) {before tail : Text} {c : Char}
    (hfront : front = before ++ c :: tail) : rule (c :: tail ++ text) = none := by
  induction front generalizing before with
  | nil => simp at hfront
  | cons d front ih =>
    cases hrule : rule (d :: (front ++ text)) with
    | some more =>
      rw [List.cons_append, segments_cons_of_some hrule] at h
      simp at h
    | none =>
      rw [List.cons_append, segments_cons_of_none hrule, List.map_cons, List.cons_append] at h
      cases before with
      | nil =>
        obtain ⟨rfl, rfl⟩ := List.cons.inj hfront
        exact hrule
      | cons e before => exact ih (List.cons.inj h).2 (List.cons.inj hfront).2

/-! ### Lines with two-character breaks -/

/-- `lines` of a line and a two-character break: the line is the first one. -/
theorem lines_append_break {line : Text} (h : IsOneLine line) (rest : Text) :
    lines (line ++ '\r' :: '\n' :: rest) = line :: lines rest := by
  have hdone := linesFrom_done rest [] [] [line]
  rw [lines, linesFrom_append h, linesFrom]
  simpa [lines] using hdone

/-- `lines` tells parts with two-character breaks between them apart again, if each `IsOneLine`. -/
theorem lines_parts {first : Text} {parts : List Text}
    (h : ∀ part ∈ first :: parts, IsOneLine part ∧ part ≠ []) :
    lines (first ++ parts.flatMap fun part => '\r' :: '\n' :: part) = first :: parts := by
  induction parts generalizing first with
  | nil =>
    obtain ⟨hone, hne⟩ := h first (by simp)
    rw [List.flatMap_nil, List.append_nil, lines_of_isOneLine hone hne]
  | cons part parts ih =>
    have hrest := ih fun other hmem => h other (List.mem_cons_of_mem _ hmem)
    rw [List.flatMap_cons, List.cons_append, List.cons_append,
      lines_append_break (h first (by simp)).1, hrest]

end Text

namespace Document

open Text (IsOneLine)

/-! ### Documents that are alike -/

/-- `lines` of a `document`: the `declaration` and the `framed` lines, if each `IsOneLine`. -/
theorem lines_document {lines : List Text} (h : ∀ line ∈ lines, IsOneLine line) :
    (document lines).lines = declaration :: framed lines := by
  rw [document_eq]
  refine Text.lines_parts fun part hmem => ?_
  simp only [framed, List.mem_cons, List.mem_append, List.mem_map, List.not_mem_nil, or_false] at hmem
  rcases hmem with rfl | (rfl | ⟨line, hline, rfl⟩) | rfl
  · exact ⟨by decide +kernel, by decide⟩
  · exact ⟨by decide +kernel, by decide⟩
  · exact ⟨Text.isOneLine_append.mpr ⟨by decide, h line hline⟩, by simp [indent]⟩
  · exact ⟨by decide +kernel, by decide⟩

/-- `document` of different lines gives different texts, if each line `IsOneLine`. -/
theorem document_injective {lines others : List Text} (h : ∀ line ∈ lines, IsOneLine line)
    (h' : ∀ line ∈ others, IsOneLine line) (heq : document lines = document others) :
    lines = others := by
  have hlines := congrArg Text.lines heq
  rw [lines_document h, lines_document h', List.cons.injEq] at hlines
  have hframed := List.append_cancel_left (List.append_cancel_right hlines.2)
  exact (List.map_inj_right fun _ _ => List.append_cancel_left).mp hframed

/-! ### Lines that come back -/

/-- Lines that `entryLines` gives back of their `document` are `Canonical`. -/
theorem canonical_of_entryLines_document {lines : List Text}
    (h : entryLines (document lines) = lines) : ∀ line ∈ lines, Canonical line := by
  have hne : ∀ line ∈ lines, line ≠ [] := fun line hmem =>
    (of_mem_entryLines (h.symm ▸ hmem : line ∈ entryLines (document lines))).1
  refine canonical_of_weight hne ?_
  -- The lines are what is read of each, less the repeats, so they weigh no more than that.
  rw [entryLines_document_eq] at h
  calc weight lines = weight (lines.flatMap entryLines).eraseDups := by rw [h]
    _ ≤ weight (lines.flatMap entryLines) := weight_le_of_sublist (eraseDups_sublist _)

/-- **`entryLines` of a `document` gives the lines back exactly if each is `Canonical` and none is
repeated.** -/
theorem entryLines_document_eq_self_iff (lines : List Text) :
    entryLines (document lines) = lines ↔ lines.Nodup ∧ ∀ line ∈ lines, Canonical line := by
  constructor
  · intro h
    have hnodup := entryLines_nodup (document lines)
    rw [h] at hnodup
    exact ⟨hnodup, canonical_of_entryLines_document h⟩
  · rintro ⟨hnodup, hcanonical⟩
    exact entryLines_document_of_canonical hcanonical hnodup

-- A line with an end of its entry is given back, unless a tag follows there.
example :
    entryLines (document ["a</string> b".toList, "<resources".toList])
        = ["a</string> b".toList, "<resources".toList] ∧
      entryLines (document ["a</string> <b".toList]) = ["a</string>".toList, "<b".toList] := by
  decide +kernel

/-! ### What is read of any text -/

/-- A match of `boundaryRule` is `entryEnd` and blanks. -/
theorem boundaryRule_eq_some {c : Char} {rest : Text} {more : Nat}
    (h : boundaryRule (c :: rest) = some more) :
    ∃ blanks : Text, (∀ b ∈ blanks, isBlank b = true) ∧ c :: rest.take more = entryEnd ++ blanks := by
  unfold boundaryRule at h
  split at h
  · rename_i hp
    obtain ⟨after, hafter⟩ := List.isPrefixOf_iff_prefix.mp hp
    rw [← hafter] at h
    simp only [List.drop_left, Text.drop_length_takeWhile] at h
    split at h
    · refine ⟨after.takeWhile isBlank, List.all_eq_true.mp List.all_takeWhile, ?_⟩
      have hpos : 0 < entryEnd.length := by decide
      have hlength : more + 1 = (entryEnd ++ after.takeWhile isBlank).length := by
        rw [List.length_append, ← Option.some.inj h]
        omega
      have hstart : entryEnd ++ after.takeWhile isBlank <+: c :: rest := by
        rw [← hafter, List.prefix_append_right_inj]
        exact List.takeWhile_prefix _
      rw [← List.take_succ_cons, hlength]
      exact (List.prefix_iff_eq_take.mp hstart).symm
    · cases h
  · cases h

/-- No `entryEnd` with a tag behind it stands in one of the `pieces` of a line. -/
theorem not_boundary_of_mem_pieces {line piece : Text} (hpiece : piece ∈ pieces line) {blanks : Text}
    (hblank : ∀ b ∈ blanks, isBlank b = true) : ¬(entryEnd ++ blanks ++ ['<']) <:+: piece := by
  -- Behind a match the walk goes on with the rest of the line, so the induction is on the length.
  induction hn : line.length using Nat.strongRecOn generalizing line with
  | ind n ih =>
    subst hn
    by_cases hnone : ∀ c rest, (c :: rest) <:+ line → boundaryRule (c :: rest) = none
    · rw [pieces_of_none hnone, List.mem_singleton] at hpiece
      exact hpiece ▸ boundaryRule_none_iff.mp hnone blanks hblank
    · have hsome : ∃ c rest, (c :: rest) <:+ line ∧ boundaryRule (c :: rest) ≠ none := by
        simpa using hnone
      obtain ⟨front, c, rest, more, rfl, hmore, hsegments⟩ := Text.exists_leftmost hsome
      rw [pieces_of_leftmost hsegments] at hpiece
      rcases List.mem_cons.mp hpiece with rfl | hpiece
      · -- The match itself has one tag only.
        have hhit : ¬(entryEnd ++ blanks ++ ['<']) <:+: c :: rest.take more := by
          obtain ⟨found, hfound, hhit⟩ := boundaryRule_eq_some hmore
          intro hwithin
          have hcount := hwithin.sublist.count_le '<'
          have hopen : '<' ∉ found := fun hmem => absurd (hfound _ hmem) (by decide)
          have hend : entryEnd.count '<' = 1 := by decide
          rw [hhit, List.count_append, List.count_append, List.count_append,
            List.count_eq_zero.mpr hopen, hend, List.count_singleton_self] at hcount
          omega
        rintro ⟨before, after, hwithin⟩
        rw [List.append_assoc, List.append_eq_append_iff] at hwithin
        rcases hwithin with ⟨tail, hfront, hneedle⟩ | ⟨inner, -, hneedle⟩
        · cases tail with
          | nil => exact hhit ⟨[], after, hneedle⟩
          | cons d tail =>
            -- It begins before the match, which is the leftmost one.
            have hrule := Text.rule_eq_none_of_segments hsegments hfront
            refine boundaryRule_eq_none_iff.mp hrule blanks hblank ?_
            refine (List.prefix_append _ after).trans (hneedle ▸ ?_)
            exact List.prefix_append_right_inj _ |>.mpr
              (List.cons_prefix_cons.mpr ⟨rfl, List.take_prefix _ _⟩)
        · exact hhit ⟨inner, after, by rw [hneedle, List.append_assoc]⟩
      · exact ih (rest.drop more).length (by simp; omega) hpiece rfl

/-- No `entryEnd` with a tag behind it stands in one of the `entryLines`. -/
theorem not_boundary_of_mem_entryLines {text line : Text} (h : line ∈ entryLines text)
    {blanks : Text} (hblank : ∀ b ∈ blanks, isBlank b = true) :
    ¬(entryEnd ++ blanks ++ ['<']) <:+: line := by
  rw [entryLines_eq_keptLines, List.mem_eraseDups] at h
  obtain ⟨whole, -, hline⟩ := List.mem_flatMap.mp h
  obtain ⟨piece, hpiece, rfl⟩ := List.mem_map.mp (List.mem_filter.mp hline).1
  exact fun hwithin => not_boundary_of_mem_pieces hpiece hblank (hwithin.trans (Text.strip_infix piece))

/-- `strip` leaves each of the `entryLines` as it is. -/
theorem strip_of_mem_entryLines {text line : Text} (h : line ∈ entryLines text) :
    line.strip = line := by
  rw [entryLines_eq_keptLines, List.mem_eraseDups] at h
  obtain ⟨whole, -, hline⟩ := List.mem_flatMap.mp h
  obtain ⟨piece, -, rfl⟩ := List.mem_map.mp (List.mem_filter.mp hline).1
  exact Text.strip_strip piece

/-- One of the `entryLines` is `Canonical` exactly if `bare` leaves it as it is. -/
theorem canonical_iff_of_mem_entryLines {text line : Text} (h : line ∈ entryLines text) :
    Canonical line ↔ bare line = line := by
  obtain ⟨hne, hone⟩ := of_mem_entryLines h
  rw [bare_eq_self_iff]
  constructor
  · intro hcanonical
    exact ⟨fun between _ => hcanonical.opening between, hcanonical.closing, hcanonical.declaration,
      hcanonical.declarationSingle⟩
  · rintro ⟨hopening, hclosing, hdouble, hsingle⟩
    refine ⟨hne, strip_of_mem_entryLines h, hone, fun between hwithin => ?_, hclosing, hdouble, hsingle,
      fun blanks hblank => not_boundary_of_mem_entryLines h hblank⟩
    have hfeed : '\n' ∉ between := fun hmem =>
      absurd (hone '\n' (hwithin.subset (by simp [hmem]))) (by decide)
    exact hopening between hfeed hwithin

/-! ### Laying out again -/

/-- **`format` of what `format` gave changes nothing exactly if no mark is left in the `entryLines`**, that
is if `bare` leaves each of them as it is. -/
theorem format_format_eq_iff (text : Text) :
    format (format text) = format text ↔ ∀ line ∈ entryLines text, bare line = line := by
  have hone : ∀ text, ∀ line ∈ entryLines text, IsOneLine line :=
    fun text line hmem => (of_mem_entryLines hmem).2
  have hcanonical : (∀ line ∈ entryLines text, bare line = line) ↔
      ∀ line ∈ entryLines text, Canonical line :=
    forall₂_congr fun line hmem => (canonical_iff_of_mem_entryLines hmem).symm
  rw [hcanonical]
  constructor
  · intro h
    exact canonical_of_entryLines_document (document_injective (hone _) (hone _) h)
  · intro h
    exact congrArg document (entryLines_document_of_canonical h (entryLines_nodup text))

/-- `format` twice is not `format` once at an opening tag within an opening tag: once the inner one is
dropped the outer one closes up, and `bare` drops it from the text that is laid out. -/
theorem format_nested_opening_ne :
    let text := "x<res<resources>ources>y".toList
    format text = document ["x<resources>y".toList] ∧
      format (format text) = document ["xy".toList] ∧ format (format text) ≠ format text := by
  decide +kernel

end Document

end Externalize
