import Externalize.Proofs.Resource.Union

/-!
# `Externalize.Proofs.Resource.Canonical`: lines that a document gives back

The lines that are read of a text are the text with parts left out (`flatten_keptLines_sublist`). So a
line that is read as itself cannot lose anything on the way, and `entryLines_eq_self_iff` says which
lines these are: a `Canonical` line has no blanks at its ends, no breaks, and none of the marks that
reading acts on.

* `entryLines_document_eq`: a document of any lines is read as the union of what is read of each, so
  canonical lines come back as they are (`entryLines_document_of_canonical`).
* `canonical_of_weight`: lines that weigh no more than what is read of them are canonical. Reading a
  line makes it lighter in any other case, which is why nothing that is lost in one reading can come
  back in another.
* `entryLines_format_iff`: lines that are written below each other, laid out and read again are the
  same lines exactly if all of them are canonical.
-/

set_option autoImplicit false

namespace Externalize.Document

open Text (IsOneLine)

/-! ### What is read is part of the text -/

theorem bare_sublist (text : Text) : (bare text).Sublist text := by
  rw [bare_eq]
  exact (Text.replaceAll_nil_sublist (by decide) _).trans <|
    (Text.replaceAll_nil_sublist (by decide) _).trans <|
    (Text.replaceAll_nil_sublist (by decide) _).trans (Text.replaceHits_nil_sublist _ _)

theorem flatten_map_strip_sublist (parts : List Text) :
    (parts.map Text.strip).flatten.Sublist parts.flatten := by
  induction parts with
  | nil => exact .refl _
  | cons part parts ih => exact (Text.strip_sublist part).append ih

theorem flatten_keptOf_sublist (line : Text) : (keptOf line).flatten.Sublist line := by
  have hstrip := flatten_map_strip_sublist (pieces line)
  rw [flatten_pieces] at hstrip
  rwa [keptOf, List.flatten_filter_not_isEmpty]

theorem flatten_flatMap_keptOf_sublist (lines : List Text) :
    (lines.flatMap keptOf).flatten.Sublist lines.flatten := by
  induction lines with
  | nil => exact .refl _
  | cons line lines ih =>
    rw [List.flatMap_cons, List.flatten_append, List.flatten_cons]
    exact (flatten_keptOf_sublist line).append ih

/-- `keptLines`, put together, are a sublist of the text. -/
theorem flatten_keptLines_sublist (text : Text) : (keptLines text).flatten.Sublist text := by
  have hbreaks : (bare text).lines.flatten.Sublist (bare text) := by
    rw [Text.flatten_lines]
    exact List.filter_sublist
  exact (flatten_flatMap_keptOf_sublist _).trans (hbreaks.trans (bare_sublist text))

/-- Each of the `keptLines` is not empty and `IsOneLine`. -/
theorem of_mem_keptLines {text line : Text} (h : line ∈ keptLines text) :
    line ≠ [] ∧ IsOneLine line := by
  obtain ⟨whole, hwhole, hline⟩ := List.mem_flatMap.mp h
  obtain ⟨hstripped, hne⟩ := List.mem_filter.mp hline
  obtain ⟨piece, hpiece, rfl⟩ := List.mem_map.mp hstripped
  refine ⟨by simpa using hne, fun c hc => ?_⟩
  -- What is stripped is from a piece, and the piece from a line.
  have hmem : c ∈ (pieces whole).flatten :=
    List.mem_flatten.mpr ⟨piece, hpiece, (Text.strip_sublist piece).subset hc⟩
  rw [flatten_pieces] at hmem
  exact Text.isOneLine_of_mem_lines hwhole c hmem

theorem of_mem_entryLines {text line : Text} (h : line ∈ entryLines text) :
    line ≠ [] ∧ IsOneLine line := by
  rw [entryLines_eq_keptLines, List.mem_eraseDups] at h
  exact of_mem_keptLines h

/-! ### Canonical lines -/

/-- A line that `entryLines` reads as it is: not empty, without blanks at its ends and without breaks,
and with none of the marks that `bare` and `pieces` act on. -/
structure Canonical (line : Text) : Prop where
  ne_nil : line ≠ []
  stripped : line.strip = line
  oneLine : IsOneLine line
  opening : ∀ between, ¬(openingStart ++ between ++ ['>']) <:+: line
  closing : ¬Document.closing <:+: line
  declaration : ¬Document.declaration <:+: line
  declarationSingle : ¬Document.declarationSingle <:+: line
  boundary : ∀ blanks, (∀ c ∈ blanks, isBlank c = true) →
    ¬(entryEnd ++ blanks ++ ['<']) <:+: line

/-- `bare` leaves exactly the texts as they are that hold no declaration and no tag. -/
theorem bare_eq_self_iff {text : Text} :
    bare text = text ↔
      (∀ between, '\n' ∉ between → ¬(openingStart ++ between ++ ['>']) <:+: text) ∧
        ¬closing <:+: text ∧ ¬declaration <:+: text ∧ ¬declarationSingle <:+: text := by
  rw [← Text.enclosed_none_iff (by decide) (by simp), ← Text.replaceHits_nil_eq_iff,
    ← Text.replaceAll_nil_eq_iff (by decide), ← Text.replaceAll_nil_eq_iff (by decide),
    ← Text.replaceAll_nil_eq_iff (by decide)]
  constructor
  · intro h
    -- Each of the four steps leaves a part of what it gets, so none of them drops anything.
    rw [bare_eq] at h
    have hopening := Text.replaceHits_nil_sublist openingRule text
    have hclosing := Text.replaceAll_nil_sublist (show closing ≠ [] by decide)
      (Text.replaceHits openingRule [] text)
    have hdouble := Text.replaceAll_nil_sublist (show declaration ≠ [] by decide)
      (Text.replaceAll closing [] (Text.replaceHits openingRule [] text))
    have hsingle := Text.replaceAll_nil_sublist (show declarationSingle ≠ [] by decide)
      (Text.replaceAll declaration [] (Text.replaceAll closing []
        (Text.replaceHits openingRule [] text)))
    rw [h] at hsingle
    have hfirst := hopening.eq_of_length_le (hsingle.trans (hdouble.trans hclosing)).length_le
    rw [hfirst] at hclosing hdouble hsingle h
    have hsecond := hclosing.eq_of_length_le (hsingle.trans hdouble).length_le
    rw [hsecond] at hdouble hsingle h
    have hthird := hdouble.eq_of_length_le hsingle.length_le
    rw [hthird] at h
    exact ⟨hfirst, hsecond, hthird, h⟩
  · rintro ⟨hfirst, hsecond, hthird, hfourth⟩
    rw [bare_eq]
    have hrule : Text.replaceHits openingRule [] text = text := hfirst
    rw [hrule, hsecond, hthird, hfourth]

/-- `boundaryRule` matches in a line exactly if `entryEnd` stands in it and, maybe behind blanks, a
`<`. -/
theorem boundaryRule_none_iff {line : Text} :
    (∀ c rest, (c :: rest) <:+ line → boundaryRule (c :: rest) = none) ↔
      ∀ blanks, (∀ c ∈ blanks, isBlank c = true) → ¬(entryEnd ++ blanks ++ ['<']) <:+: line := by
  constructor
  · rintro h blanks hblank ⟨front, rest, hrest⟩
    obtain ⟨c, tail, hcons⟩ :=
      List.exists_cons_of_ne_nil (show entryEnd ++ blanks ++ ['<'] ++ rest ≠ [] by simp)
    have hnone := h c tail ⟨front, by rw [← hcons, ← hrest]; simp⟩
    rw [← hcons] at hnone
    exact boundaryRule_eq_none_iff.mp hnone blanks hblank (List.prefix_append _ _)
  · intro h c rest hsuffix
    refine boundaryRule_eq_none_iff.mpr fun blanks hblank hstart => ?_
    exact h blanks hblank (hstart.isInfix.trans hsuffix.isInfix)

/-- `pieces` of a line in which `boundaryRule` matches nowhere: the line. -/
theorem pieces_of_none {line : Text}
    (h : ∀ c rest, (c :: rest) <:+ line → boundaryRule (c :: rest) = none) :
    pieces line = [line] := by
  have hplain := piecesFrom_plain_append line [] []
  rw [List.append_nil] at hplain
  rw [pieces, Text.segments_of_none h, hplain]
  simp [piecesFrom]

/-- `boundaryRule` does not match a whole text: something is left behind it. -/
theorem boundaryRule_within {text : Text} {more : Nat} (h : boundaryRule text = some more) :
    more + 1 < text.length := by
  unfold boundaryRule at h
  split at h
  · rename_i hp
    obtain ⟨after, rfl⟩ := List.isPrefixOf_iff_prefix.mp hp
    simp only [List.drop_left, Text.drop_length_takeWhile] at h
    split at h
    · rename_i rest hbehind
      have hsplit := congrArg List.length
        (List.takeWhile_append_dropWhile (p := isBlank) (l := after))
      have hpos : 0 < entryEnd.length := by decide
      rw [hbehind] at hsplit
      simp only [List.length_append, List.length_cons, Option.some.injEq] at hsplit h ⊢
      omega
    · simp at h
  · simp at h

/-- The first of the `pieces` of a line goes up to the first match of `boundaryRule`. -/
theorem pieces_of_leftmost {front rest : Text} {c : Char} {more : Nat}
    (h : Text.segments boundaryRule (front ++ c :: rest) = front.map .plain
      ++ .hit (c :: rest.take more) :: Text.segments boundaryRule (rest.drop more)) :
    pieces (front ++ c :: rest) = (front ++ c :: rest.take more) :: pieces (rest.drop more) := by
  rw [pieces, h, piecesFrom_plain_append, piecesFrom]
  simp [pieces]

/-- `pieces` of a line in which `boundaryRule` matches are all shorter than the line. -/
theorem length_lt_of_mem_pieces {line piece : Text}
    (h : ∃ c rest, (c :: rest) <:+ line ∧ boundaryRule (c :: rest) ≠ none)
    (hmem : piece ∈ pieces line) : piece.length < line.length := by
  obtain ⟨front, c, rest, more, rfl, hmore, hsegments⟩ := Text.exists_leftmost h
  have hwithin := boundaryRule_within hmore
  rw [pieces_of_leftmost hsegments] at hmem
  rcases List.mem_cons.mp hmem with rfl | hmem
  · simp only [List.length_append, List.length_cons, List.length_take] at hwithin ⊢
    omega
  · have hpart : piece.length ≤ (pieces (rest.drop more)).flatten.length :=
      (List.sublist_flatten_of_mem hmem).length_le
    rw [flatten_pieces] at hpart
    simp only [List.length_append, List.length_cons, List.length_drop] at hwithin hpart ⊢
    omega

/-- `keptLines` of a line that is `Canonical`: the line. -/
theorem Canonical.keptLines_eq {line : Text} (h : Canonical line) : keptLines line = [line] := by
  have hbare : bare line = line := bare_eq_self_iff.mpr
    ⟨fun between _ => h.opening between, h.closing, h.declaration, h.declarationSingle⟩
  have hne : line.isEmpty = false := by simpa using h.ne_nil
  rw [keptLines, hbare, Text.lines_of_isOneLine h.oneLine h.ne_nil, List.flatMap_singleton, keptOf,
    pieces_of_none (boundaryRule_none_iff.mpr h.boundary), List.map_singleton, h.stripped,
    List.filter_cons_of_pos (by simp [hne]), List.filter_nil]

/-- A line that is among its own `keptLines` is `Canonical`. -/
theorem canonical_of_mem_keptLines {line : Text} (h : line ∈ keptLines line) : Canonical line := by
  obtain ⟨hne, hone⟩ := of_mem_keptLines h
  -- The line is part of its own lines without tags, and these are part of the line.
  have hpart : line.Sublist ((bare line).lines.flatMap keptOf).flatten := List.sublist_flatten_of_mem h
  have hkept := flatten_flatMap_keptOf_sublist (bare line).lines
  have hlines : (bare line).lines.flatten.Sublist (bare line) := by
    rw [Text.flatten_lines]
    exact List.filter_sublist
  have hbare : bare line = line :=
    (bare_sublist line).eq_of_length_le (hpart.trans (hkept.trans hlines)).length_le
  obtain ⟨hopening, hclosing, hdouble, hsingle⟩ := bare_eq_self_iff.mp hbare
  -- So the line is one of its own pieces, with nothing to strip, and then there is no other piece.
  rw [keptLines, hbare, Text.lines_of_isOneLine hone hne, List.flatMap_singleton, keptOf] at h
  obtain ⟨piece, hpiece, hstrip⟩ := List.mem_map.mp (List.mem_filter.mp h).1
  have hlong : line.length ≤ piece.length := hstrip ▸ (Text.strip_sublist piece).length_le
  have hboundary : ∀ c rest, (c :: rest) <:+ line → boundaryRule (c :: rest) = none := by
    intro c rest hsuffix
    refine Classical.byContradiction fun hrule => ?_
    have hshort := length_lt_of_mem_pieces ⟨c, rest, hsuffix, hrule⟩ hpiece
    omega
  rw [pieces_of_none hboundary, List.mem_singleton] at hpiece
  refine ⟨hne, hpiece ▸ hstrip, hone, fun between hwithin => ?_, hclosing, hdouble, hsingle,
    boundaryRule_none_iff.mp hboundary⟩
  have hfeed : '\n' ∉ between := fun hmem =>
    absurd (hone '\n' (hwithin.subset (by simp [hmem]))) (by decide)
  exact hopening between hfeed hwithin

/-- `entryLines` of a line is the line alone exactly if it is `Canonical`. -/
theorem entryLines_eq_self_iff {line : Text} : entryLines line = [line] ↔ Canonical line := by
  rw [entryLines_eq_keptLines]
  constructor
  · intro h
    refine canonical_of_mem_keptLines (List.mem_eraseDups.mp ?_)
    rw [h]
    exact List.mem_singleton_self line
  · intro h
    rw [h.keptLines_eq]
    rfl

/-! ### Documents -/

/-- `keptLines` goes through the two sides of a two-character break apart. -/
theorem keptLines_append_break (text rest : Text) :
    keptLines (text ++ '\r' :: '\n' :: rest) = keptLines text ++ keptLines rest := by
  have hsplit : text ++ '\r' :: '\n' :: rest = (text ++ ['\r']) ++ '\n' :: rest := by simp
  have habove : keptLines (text ++ ['\r']) = keptLines text := by
    rw [keptLines, bare_append_return, Text.flatMap_lines_append_return keptOf_nil]
    rfl
  rw [hsplit, keptLines_append, habove]

theorem keptLines_parts (first : Text) (parts : List Text) :
    keptLines (first ++ parts.flatMap fun part => '\r' :: '\n' :: part)
      = (first :: parts).flatMap keptLines := by
  induction parts generalizing first with
  | nil => simp
  | cons part parts ih =>
    rw [List.flatMap_cons, List.cons_append, List.cons_append, keptLines_append_break, ih]
    rfl

/-- `keptLines` does not see the `indent` of a line. -/
theorem keptLines_indent (text : Text) : keptLines (indent ++ text) = keptLines text := by
  have hblank : ∀ c ∈ indent, isBlank c = true := List.all_eq_true.mp (by decide)
  have hone : IsOneLine indent := by decide
  rw [keptLines, bare_append (by decide), Text.lines, Text.linesFrom_append hone]
  exact Text.flatMap_linesFrom_before keptOf_nil (keptOf_append hblank) (bare text) [] []

/-- `entryLines` of a `document`: the union of the `entryLines` of its lines. -/
theorem entryLines_document_eq (lines : List Text) :
    entryLines (document lines) = (lines.flatMap entryLines).eraseDups := by
  have hlines : entryLines = fun text => (keptLines text).eraseDups :=
    funext entryLines_eq_keptLines
  have hframe : keptLines declaration = [] ∧ keptLines (openingStart ++ ['>']) = [] ∧
      keptLines closing = [] := by decide +kernel
  rw [entryLines_eq_keptLines, document_eq, keptLines_parts, framed, hlines,
    eraseDups_flatMap_eraseDups]
  simp only [List.flatMap_cons, List.flatMap_append, List.flatMap_nil, hframe, List.nil_append,
    List.append_nil, List.flatMap_map, keptLines_indent]

/-- `entryLines` of a `document` does not see whether its breaks are unified, if each of its lines
`IsOneLine`. -/
theorem entryLines_unifyBreaks_document {lines : List Text} (h : ∀ line ∈ lines, IsOneLine line) :
    entryLines (Text.unifyBreaks (document lines)) = entryLines (document lines) := by
  have hframed : ∀ line ∈ framed lines, '\r' ∉ line := by
    intro line hmem
    simp only [framed, List.mem_append, List.mem_singleton, List.mem_map] at hmem
    rcases hmem with (rfl | ⟨line, hline, rfl⟩) | rfl
    · decide
    · exact (Text.isOneLine_append.mpr ⟨by decide, h line hline⟩).return_notMem
    · decide
  rw [entryLines_eq_keptLines, entryLines_eq_keptLines, document_eq,
    Text.unifyBreaks_lines (by decide) hframed, keptLines_below, keptLines_parts]

/-- `entryLines` of what `format` gives does not see whether its breaks are unified. -/
theorem entryLines_unifyBreaks_format (text : Text) :
    entryLines (Text.unifyBreaks (format text)) = entryLines (format text) :=
  entryLines_unifyBreaks_document fun _ hmem => (of_mem_entryLines hmem).2

/-! ### Lines that come back -/

/-- `entryLines` of lines that are `Canonical` and not repeated gives the lines. -/
theorem flatMap_entryLines_of_canonical {lines : List Text} (h : ∀ line ∈ lines, Canonical line)
    (hnodup : lines.Nodup) : (lines.flatMap entryLines).eraseDups = lines := by
  have hself : ∀ lines : List Text, (∀ line ∈ lines, Canonical line) →
      lines.flatMap entryLines = lines := by
    intro lines hlines
    induction lines with
    | nil => rfl
    | cons line lines ih =>
      rw [List.flatMap_cons, entryLines_eq_self_iff.mpr (hlines line (by simp)),
        ih fun other hmem => hlines other (by simp [hmem])]
      rfl
  rw [hself lines h, eraseDups_of_nodup hnodup]

/-- `entryLines` of the `document` of lines that are `Canonical` and not repeated gives the lines. -/
theorem entryLines_document_of_canonical {lines : List Text} (h : ∀ line ∈ lines, Canonical line)
    (hnodup : lines.Nodup) : entryLines (document lines) = lines := by
  rw [entryLines_document_eq, flatMap_entryLines_of_canonical h hnodup]

/-- The weight of lines: two for each character, less one for each line. `entryLines` lowers it for
every line that is not `Canonical`. -/
def weight : List Text → Nat
  | [] => 0
  | line :: lines => (2 * line.length - 1) + weight lines

theorem weight_cons (line : Text) (lines : List Text) :
    weight (line :: lines) = (2 * line.length - 1) + weight lines := rfl

theorem weight_append (lines others : List Text) :
    weight (lines ++ others) = weight lines + weight others := by
  induction lines with
  | nil => simp [weight]
  | cons line lines ih => rw [List.cons_append, weight_cons, weight_cons, ih, Nat.add_assoc]

theorem weight_le_of_sublist {lines others : List Text} (h : lines.Sublist others) :
    weight lines ≤ weight others := by
  induction h with
  | slnil => exact Nat.le_refl _
  | cons line _ ih => rw [weight_cons]; omega
  | cons_cons line _ ih => rw [weight_cons, weight_cons]; omega

/-- `weight` of lines that are not empty, by their characters and their number. -/
theorem weight_add_length {lines : List Text} (h : ∀ line ∈ lines, line ≠ []) :
    weight lines + lines.length = 2 * lines.flatten.length := by
  induction lines with
  | nil => rfl
  | cons line lines ih =>
    have hpos := List.length_pos_iff.mpr (h line (by simp))
    have hrest := ih fun other hmem => h other (by simp [hmem])
    rw [weight_cons, List.flatten_cons, List.length_append, List.length_cons]
    omega

/-- `entryLines` of a line has at most the `weight` of the line, and less unless the line is
`Canonical`. -/
theorem weight_entryLines {line : Text} (hne : line ≠ []) :
    weight (entryLines line) ≤ 2 * line.length - 1 ∧
      (2 * line.length - 1 ≤ weight (entryLines line) → Canonical line) := by
  have hpos := List.length_pos_iff.mpr hne
  have hrepeats : weight (entryLines line) ≤ weight (keptLines line) := by
    rw [entryLines_eq_keptLines]
    exact weight_le_of_sublist (eraseDups_sublist _)
  have hweight := weight_add_length fun other (h : other ∈ keptLines line) => (of_mem_keptLines h).1
  have hpart := flatten_keptLines_sublist line
  have hlength := hpart.length_le
  -- Two lines or more have at most the characters of the one, and weigh less by one each.
  match hkept : keptLines line with
  | [] =>
    rw [hkept] at hrepeats
    have hnone : weight [] = 0 := rfl
    exact ⟨by omega, fun h => absurd h (by omega)⟩
  | [kept] =>
    rw [hkept, List.flatten_singleton] at hpart hlength
    rw [hkept, weight_cons] at hrepeats
    have hnone : weight [] = 0 := rfl
    refine ⟨by omega, fun h => canonical_of_mem_keptLines ?_⟩
    rw [hkept, hpart.eq_of_length_le (by omega)]
    exact List.mem_singleton_self line
  | first :: second :: others =>
    rw [hkept, List.length_cons, List.length_cons] at hweight
    rw [hkept] at hlength hrepeats
    exact ⟨by omega, fun h => absurd h (by omega)⟩

theorem weight_flatMap_entryLines {lines : List Text} (hne : ∀ line ∈ lines, line ≠ []) :
    weight (lines.flatMap entryLines) ≤ weight lines := by
  induction lines with
  | nil => exact Nat.le_refl _
  | cons line lines ih =>
    have hline := (weight_entryLines (hne line (by simp))).1
    have hrest := ih fun other hmem => hne other (by simp [hmem])
    rw [List.flatMap_cons, weight_append, weight_cons]
    omega

/-- Lines whose `weight` is at most that of their `entryLines` are `Canonical`. -/
theorem canonical_of_weight {lines : List Text} (hne : ∀ line ∈ lines, line ≠ [])
    (h : weight lines ≤ weight (lines.flatMap entryLines)) : ∀ line ∈ lines, Canonical line := by
  induction lines with
  | nil => simp
  | cons line lines ih =>
    obtain ⟨hline, hcanonical⟩ := weight_entryLines (hne line (by simp))
    have hne' : ∀ other ∈ lines, other ≠ [] := fun other hmem => hne other (by simp [hmem])
    have hrest := weight_flatMap_entryLines hne'
    rw [List.flatMap_cons, weight_append, weight_cons] at h
    -- Neither the line nor the rest can make up for what the other loses.
    rintro other (_ | ⟨_, hmem⟩)
    · exact hcanonical (by omega)
    · exact ih hne' (by omega) other hmem

theorem weight_map_unifyBreaks (lines : List Text) :
    weight (lines.map Text.unifyBreaks) ≤ weight lines := by
  induction lines with
  | nil => exact Nat.le_refl _
  | cons line lines ih =>
    have hline := Text.length_unifyBreaks line
    rw [List.map_cons, weight_cons, weight_cons]
    omega

/-! ### Lines that are written, laid out and read again -/

/-- `entryLines` of lines behind a `lineBreak` each: the union of their `entryLines`. -/
theorem entryLines_lines (lines : List Text) :
    entryLines (Text.unifyBreaks (lines.flatMap (lineBreak ++ ·)))
      = ((lines.map Text.unifyBreaks).flatMap entryLines).eraseDups := by
  have hparts := Text.unifyBreaks_parts [] lines
  have hread := entryLines_below_eq [] (lines.map Text.unifyBreaks)
  rw [List.flatMap_cons] at hread
  exact (congrArg entryLines hparts).trans hread

/-- `format` of lines behind a `lineBreak` each is their `document`, if they are `Canonical` and not
repeated. -/
theorem format_lines {lines : List Text} (h : ∀ line ∈ lines, Canonical line)
    (hnodup : lines.Nodup) :
    format (Text.unifyBreaks (lines.flatMap (lineBreak ++ ·))) = document lines := by
  have hbreaks : lines.map Text.unifyBreaks = lines :=
    (List.map_congr_left fun line hmem =>
      Text.unifyBreaks_of_notMem (h line hmem).oneLine.return_notMem).trans lines.map_id
  rw [format, entryLines_lines, hbreaks, flatMap_entryLines_of_canonical h hnodup]

/-- `entryLines` of what `format` makes of lines behind a `lineBreak` each gives the lines exactly if
all of them are `Canonical`. -/
theorem entryLines_format_iff {lines : List Text} (hne : ∀ line ∈ lines, line ≠ [])
    (hnodup : lines.Nodup) :
    entryLines (format (Text.unifyBreaks (lines.flatMap (lineBreak ++ ·)))) = lines ↔
      ∀ line ∈ lines, Canonical line := by
  constructor
  · intro h
    rw [format, entryLines_document_eq, entryLines_lines] at h
    -- From the lines over what was laid out to what is read again the weight never goes up, and at
    -- the end it is what it was.
    have hread := weight_le_of_sublist (eraseDups_sublist
      (((lines.map Text.unifyBreaks).flatMap entryLines).eraseDups.flatMap entryLines))
    rw [h] at hread
    have hlaid : weight (((lines.map Text.unifyBreaks).flatMap entryLines).eraseDups.flatMap entryLines)
        ≤ weight ((lines.map Text.unifyBreaks).flatMap entryLines).eraseDups := by
      refine weight_flatMap_entryLines fun line hmem => ?_
      obtain ⟨text, -, hline⟩ := List.mem_flatMap.mp (List.mem_eraseDups.mp hmem)
      exact (of_mem_entryLines hline).1
    have hrepeats := weight_le_of_sublist
      (eraseDups_sublist ((lines.map Text.unifyBreaks).flatMap entryLines))
    have hbreaks := weight_map_unifyBreaks lines
    have hcanonical := canonical_of_weight (fun line hmem => ?_)
      (show weight (lines.map Text.unifyBreaks) ≤ _ by omega)
    · intro line hmem
      have hline := hcanonical _ (List.mem_map_of_mem hmem)
      rwa [Text.unifyBreaks_of_isOneLine hline.oneLine] at hline
    · obtain ⟨text, htext, rfl⟩ := List.mem_map.mp hmem
      exact Text.unifyBreaksFrom_ne_nil (.inl (hne text htext))
  · intro h
    rw [format_lines h hnodup, entryLines_document_of_canonical h hnodup]

end Externalize.Document
