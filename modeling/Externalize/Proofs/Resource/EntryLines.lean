import Externalize.Proofs.Text.Line
import Externalize.Proofs.Text.Segments
import Externalize.Resource.Document

/-!
# `Externalize.Proofs.Resource.EntryLines`: how a resource document is read

Reading drops the declarations and the tags around the entries, cuts the rest into lines, cuts a line
where one entry ends and another tag begins, and strips the pieces. Each of these steps works on the
two sides of a break alone, and blanks at the head of a line are nothing to it.

* `bare_append_mark`: what is dropped on the two sides of a break.
* `keptOf_append`: blanks before a line make no difference to what is kept of it.
* `entryLine_eq`, `document_eq`: an entry line and a document, part by part.
-/

set_option autoImplicit false

namespace Externalize.Document

/-! ### The pieces of a line -/

/-- What `entryLines` keeps of one line without tags: its `pieces`, stripped, as far as they are not
empty. -/
def keptOf (line : Text) : List Text :=
  ((pieces line).map Text.strip).filter fun piece => !piece.isEmpty

theorem keptOf_nil : keptOf [] = [] := rfl

theorem entryLines_eq (text : Text) :
    entryLines text = ((bare text).lines.flatMap keptOf).eraseDups := by
  unfold entryLines keptOf
  rw [List.map_flatMap, List.filter_flatMap]

theorem piecesFrom_plain_append (text current : Text) (parts : List Segment) :
    piecesFrom (text.map .plain ++ parts) current = piecesFrom parts (text.reverse ++ current) := by
  induction text generalizing current with
  | nil => rfl
  | cons c text ih => simp [piecesFrom, ih]

theorem flatten_piecesFrom (parts : List Segment) (current : Text) :
    (piecesFrom parts current).flatten = current.reverse ++ parts.flatMap Segment.text := by
  induction parts generalizing current with
  | nil => simp [piecesFrom]
  | cons part parts ih =>
    cases part with
    | plain c => simp [piecesFrom, ih, Segment.text]
    | hit found => simp [piecesFrom, ih, Segment.text]

/-- The `pieces` of a line spell the line. -/
theorem flatten_pieces (line : Text) : (pieces line).flatten = line := by
  rw [pieces, flatten_piecesFrom, Text.flatMap_text_segments]
  rfl

/-- `piecesFrom` puts what stands `before` a line in the first of its pieces. -/
theorem piecesFrom_append (parts : List Segment) (current before : Text) :
    ∃ piece others, piecesFrom parts current = piece :: others ∧
      piecesFrom parts (current ++ before.reverse) = (before ++ piece) :: others := by
  induction parts generalizing current with
  | nil => exact ⟨_, _, rfl, by simp [piecesFrom]⟩
  | cons part parts ih =>
    cases part with
    | plain c => exact ih (c :: current)
    | hit found => exact ⟨_, _, rfl, by simp [piecesFrom]⟩

/-- `boundaryRule` matches a text exactly if it begins with `entryEnd` and, maybe behind blanks, a `<`. -/
theorem boundaryRule_eq_none_iff {text : Text} :
    boundaryRule text = none ↔ ∀ blanks, (∀ c ∈ blanks, isBlank c = true) →
      ¬(entryEnd ++ blanks ++ ['<']) <+: text := by
  unfold boundaryRule
  split
  · rename_i hp
    obtain ⟨after, rfl⟩ := List.isPrefixOf_iff_prefix.mp hp
    simp only [List.drop_left, Text.drop_length_takeWhile]
    -- Behind the end, the rule looks at the first character that is no blank.
    constructor
    · rintro h blanks hblank ⟨rest, hrest⟩
      rw [List.append_assoc, List.append_assoc, List.append_cancel_left_eq] at hrest
      have hbehind : after.dropWhile isBlank = '<' :: rest := by
        rw [← hrest, List.dropWhile_append_of_pos hblank]
        rfl
      rw [hbehind] at h
      simp at h
    · intro h
      split
      · rename_i rest hbehind
        refine absurd ⟨rest, ?_⟩ (h (after.takeWhile isBlank)
          (List.all_eq_true.mp List.all_takeWhile))
        have hsplit := List.takeWhile_append_dropWhile (p := isBlank) (l := after)
        rw [hbehind] at hsplit
        rw [List.append_assoc, List.append_assoc]
        exact congrArg _ hsplit
      · rfl
  · rename_i hp
    refine iff_of_true rfl fun blanks _ hstart => hp (List.isPrefixOf_iff_prefix.mpr ?_)
    rw [List.append_assoc] at hstart
    exact (List.prefix_append _ _).trans hstart

/-- `keptOf` does not see blanks before a line. -/
theorem keptOf_append {blanks : Text} (h : ∀ c ∈ blanks, isBlank c = true) (line : Text) :
    keptOf (blanks ++ line) = keptOf line := by
  -- No entry ends at a blank, so the blanks go to the first piece, and stripping drops them there.
  have hnone : ∀ c ∈ blanks, ∀ rest, boundaryRule (c :: rest) = none := by
    intro c hc rest
    refine boundaryRule_eq_none_iff.mpr fun others _ hstart => ?_
    have hfirst : '<' = c := (List.cons_prefix_cons.mp hstart).1
    exact absurd (h c hc) (hfirst ▸ by decide)
  obtain ⟨piece, others, hpieces, hlonger⟩ :=
    piecesFrom_append (Text.segments boundaryRule line) [] blanks
  have hline : pieces line = piece :: others := hpieces
  have hwhole : pieces (blanks ++ line) = (blanks ++ piece) :: others := by
    rw [pieces, Text.segments_append_of_none hnone, piecesFrom_plain_append, List.append_nil]
    exact hlonger
  rw [keptOf, keptOf, hwhole, hline, List.map_cons, List.map_cons, Text.strip_append_of_blank h]

/-! ### Tags -/

theorem bare_eq (text : Text) :
    bare text = Text.replaceAll declarationSingle [] (Text.replaceAll declaration []
      (Text.replaceAll closing [] (Text.replaceHits openingRule [] text))) := rfl

/-- `bare` goes through the two sides of a `mark` apart, if the mark is in no tag and no tag that was
opened before it is closed behind it. -/
theorem bare_append_mark {mark : Char} {rest : Text}
    (hmark : mark ∉ openingStart ++ ['>'] ++ closing ++ declaration ++ declarationSingle)
    (htail : ∀ before, Text.distanceInLine? ['>'] before (mark :: rest) = none) (line : Text) :
    bare (line ++ mark :: rest) = bare line ++ mark :: bare rest := by
  simp only [List.mem_append, not_or] at hmark
  obtain ⟨⟨⟨⟨hstart, hend⟩, hclosing⟩, hdouble⟩, hsingle⟩ := hmark
  -- The opening tag is the only one of the four whose length is not fixed, so it alone needs `htail`.
  have hopening : openingRule.Ignores (mark :: rest) :=
    Text.enclosed_ignores hstart (by simp) hend htail
  have hhead : openingRule (mark :: rest) = none := by
    rw [openingRule, Text.enclosed, if_neg]
    intro hp
    have hfirst : '<' = mark := (List.cons_prefix_cons.mp (List.isPrefixOf_iff_prefix.mp hp)).1
    exact hstart (hfirst ▸ by decide)
  rw [bare_eq, Text.replaceHits_append hopening hhead,
    Text.replaceAll_append_mark (by decide) hclosing,
    Text.replaceAll_append_mark (by decide) hdouble,
    Text.replaceAll_append_mark (by decide) hsingle]
  rfl

theorem bare_append_lineFeed (line rest : Text) :
    bare (line ++ '\n' :: rest) = bare line ++ '\n' :: bare rest :=
  bare_append_mark (by decide) (fun _ => rfl) line

theorem bare_append_return (line : Text) : bare (line ++ ['\r']) = bare line ++ ['\r'] :=
  bare_append_mark (by decide) (fun _ => rfl) line

/-- `bare` drops nothing from a stretch in which no tag begins. -/
theorem bare_append {stretch : Text} (h : '<' ∉ stretch) (text : Text) :
    bare (stretch ++ text) = stretch ++ bare text := by
  have hnone : ∀ c ∈ stretch, ∀ rest, openingRule (c :: rest) = none := by
    intro c hc rest
    rw [openingRule, Text.enclosed, if_neg]
    intro hp
    have hfirst : '<' = c := (List.cons_prefix_cons.mp (List.isPrefixOf_iff_prefix.mp hp)).1
    exact h (hfirst ▸ hc)
  have hdrop : ∀ needle : Text, needle.head? = some '<' → ∀ text,
      Text.replaceAll needle [] (stretch ++ text) = stretch ++ Text.replaceAll needle [] text := by
    intro needle hneedle text
    obtain ⟨needle, rfl⟩ := List.head?_eq_some_iff.mp hneedle
    exact Text.replaceAll_append_of_not_mem needle [] text h
  rw [bare_eq, Text.replaceHits_append_of_none hnone, hdrop _ (by decide), hdrop _ (by decide),
    hdrop _ (by decide)]
  rfl

/-! ### Entry lines and documents, part by part -/

/-- What stands between the first character of an `entryLine` and the name, character by character. -/
def entryHead : Text := ['s', 't', 'r', 'i', 'n', 'g', ' ', 'n', 'a', 'm', 'e', '=', '"']

/-- An `entryLine` up to `entryEnd`. -/
def entryFront (name value : Text) : Text :=
  '<' :: (entryHead ++ name ++ ['"', '>'] ++ value)

theorem entryLine_eq (name value : Text) :
    entryLine name value = entryFront name value ++ entryEnd := by
  have hhead : "<string name=\"".toList = '<' :: entryHead := by decide
  have hmiddle : "\">".toList = ['"', '>'] := by decide
  unfold entryLine entryFront
  rw [hhead, hmiddle, List.cons_append, List.cons_append, List.cons_append]

/-- An `entryLine`, cut behind the quote that ends the name. -/
theorem entryLine_eq_name (name value : Text) :
    entryLine name value = '<' :: entryHead ++ (name ++ '"' :: ('>' :: value ++ entryEnd)) := by
  rw [entryLine_eq, entryFront]
  simp only [List.cons_append, List.append_assoc, List.nil_append]

theorem entryStart_prefix (name value : Text) : entryStart <+: entryLine name value := by
  have hhead : '<' :: entryHead = entryStart ++ entryHead.drop 6 := by decide
  rw [entryLine_eq_name, hhead, List.append_assoc]
  exact List.prefix_append _ _

/-- The name of an entry can be read off its `entryLine`. -/
theorem entryLine_name_eq {name name' value value' : Text} (hname : '"' ∉ name) (hname' : '"' ∉ name')
    (h : entryLine name value = entryLine name' value') : name = name' := by
  rw [entryLine_eq_name, entryLine_eq_name] at h
  have hrest := List.append_cancel_left h
  have hstart : (name ++ ['"']) <+: (name' ++ '"' :: ('>' :: value' ++ entryEnd)) := by
    rw [← hrest]
    exact ⟨'>' :: value ++ entryEnd, by simp⟩
  exact (append_mark_prefix_iff hname hname').mp hstart

/-- The lines of a `document` below the `declaration`. -/
def framed (lines : List Text) : List Text :=
  [openingStart ++ ['>']] ++ lines.map (indent ++ ·) ++ [closing]

theorem document_eq (lines : List Text) :
    document lines = declaration ++ (framed lines).flatMap fun line => '\r' :: '\n' :: line := by
  simp [document, framed, lineBreak, List.flatMap_map]

end Externalize.Document
