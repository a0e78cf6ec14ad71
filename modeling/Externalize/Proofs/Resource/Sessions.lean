import Externalize.Proofs.Resource.Canonical

/-!
# `Externalize.Proofs.Resource.Sessions`: a resource file is recognised after every session

A session opens a writer, adds entries and saves. A file is recognised by what stands in its first
octets, and a save lays out all of the file anew, so what must be kept up is that the first line of
the document begins an entry.

* `keptLines_entryStart`: of a text that begins an entry the first line that is read begins one. No
  tag that is dropped and no end of an entry begins like an entry does, a line goes on until a break,
  and the start of an entry has no blanks at its ends.
* `looksLikeResource_document`: a document whose first line begins an entry is recognised, whatever
  stands behind that, unless it is too big.
* `Writer.session_ends`, `Writer.sessions_ends`: one `Writer.session` and any number of them.
-/

set_option autoImplicit false

namespace Externalize

namespace Text

/-- `linesFrom` goes on with the `current` line until the next break. -/
theorem exists_linesFrom {current : Text} (h : current ≠ []) (text : Text) :
    ∃ more others, linesFrom text current [] = (current.reverse ++ more) :: others := by
  have hdone : ∀ rest, linesFrom rest [] [current.reverse] = current.reverse :: lines rest :=
    fun rest => linesFrom_done rest [] [] [current.reverse]
  induction text generalizing current with
  | nil => exact ⟨[], [], by simp [linesFrom, h]⟩
  | cons c rest ih =>
    by_cases hpair : c = '\r' ∧ ∃ rest', rest = '\n' :: rest'
    · obtain ⟨rfl, rest', rfl⟩ := hpair
      exact ⟨[], lines rest', by rw [List.append_nil, linesFrom, hdone]⟩
    · rw [linesFrom.eq_3 _ _ _ _ fun rest' hc hrest => hpair ⟨hc, rest', hrest⟩]
      split
      · exact ⟨[], lines rest, by rw [List.append_nil, hdone]⟩
      · obtain ⟨more, others, heq⟩ := ih (List.cons_ne_nil c current)
          fun rest => linesFrom_done rest [] [] [(c :: current).reverse]
        exact ⟨c :: more, others, by simp [heq]⟩

theorem exists_lines_append {line : Text} (h : IsOneLine line) (hne : line ≠ []) (rest : Text) :
    ∃ more others, lines (line ++ rest) = (line ++ more) :: others := by
  obtain ⟨more, others, heq⟩ := exists_linesFrom (List.reverse_ne_nil_iff.mpr hne) rest
  refine ⟨more, others, ?_⟩
  rw [lines, linesFrom_append h, List.append_nil, heq, List.reverse_reverse]

/-- `strip` keeps a `front` that has no blanks at its ends. -/
theorem prefix_strip_append {front : Text} {first last : Char} (hfirst : front.head? = some first)
    (hlast : front.getLast? = some last) (hfirst' : isBlank first = false)
    (hlast' : isBlank last = false) (rest : Text) : front <+: strip (front ++ rest) := by
  have hfront : (front ++ rest).dropWhile isBlank = front ++ rest := by
    obtain ⟨tail, rfl⟩ := List.head?_eq_some_iff.mp hfirst
    rw [List.cons_append, List.dropWhile_cons_of_neg (by simp [hfirst'])]
  have hback : front.reverse.dropWhile isBlank = front.reverse := by
    rw [← List.head?_reverse] at hlast
    obtain ⟨tail, htail⟩ := List.head?_eq_some_iff.mp hlast
    rw [htail, List.dropWhile_cons_of_neg (by simp [hlast'])]
  rw [strip, stripWhere, hfront, List.reverse_append, List.dropWhile_append]
  split
  · simp only [hback, List.reverse_reverse, List.prefix_rfl]
  · rw [List.reverse_append, List.reverse_reverse]
    exact List.prefix_append _ _

/-- `unifyBreaks` keeps a `front` without carriage returns. -/
theorem unifyBreaks_append {front : Text} (h : '\r' ∉ front) (rest : Text) :
    unifyBreaks (front ++ rest) = front ++ unifyBreaks rest := by
  have hdone := unifyBreaksFrom_done rest [] front.reverse
  rw [List.nil_append, List.reverse_reverse] at hdone
  rw [unifyBreaks, unifyBreaksFrom_append h, List.append_nil, hdone]
  rfl

theorem occursIn_iff {needle text : Text} : occursIn needle text = true ↔ needle <:+: text := by
  induction text with
  | nil => simp [occursIn]
  | cons c text ih =>
    rw [occursIn, Bool.or_eq_true, List.isPrefixOf_iff_prefix, ih, List.infix_cons_iff]

end Text

namespace Document

open Text (IsOneLine)

/-! ### The first line that is read -/

/-- `entryStart`, character by character. -/
theorem entryStart_eq : entryStart = '<' :: 's' :: ['t', 'r', 'i', 'n', 'g'] := by decide

/-- `segments` of a rule that wants a tag of another name passes over `entryStart`. -/
theorem segments_entryStart {rule : Rule} {second : Char} {needle : Text}
    (hrule : ∀ text, rule text ≠ none → '<' :: second :: needle <+: text) (hsecond : second ≠ 's')
    (rest : Text) :
    Text.segments rule (entryStart ++ rest) = entryStart.map .plain ++ Text.segments rule rest := by
  have hhead : ∀ text, rule ('<' :: 's' :: text) = none := by
    intro text
    refine Classical.byContradiction fun hsome => hsecond ?_
    exact (List.cons_prefix_cons.mp (List.cons_prefix_cons.mp (hrule _ hsome)).2).1
  have htail : ∀ c ∈ ['s', 't', 'r', 'i', 'n', 'g'], ∀ text, rule (c :: text) = none := by
    intro c hc text
    refine Classical.byContradiction fun hsome => ?_
    obtain rfl := (List.cons_prefix_cons.mp (hrule _ hsome)).1
    exact absurd hc (by decide)
  rw [entryStart_eq, List.cons_append, List.cons_append, Text.segments_cons_of_none (hhead _),
    ← List.cons_append, Text.segments_append_of_none htail]
  rfl

theorem replaceHits_entryStart {rule : Rule} {second : Char} {needle : Text}
    (hrule : ∀ text, rule text ≠ none → '<' :: second :: needle <+: text) (hsecond : second ≠ 's')
    (rest : Text) :
    Text.replaceHits rule [] (entryStart ++ rest) = entryStart ++ Text.replaceHits rule [] rest := by
  rw [Text.replaceHits, segments_entryStart hrule hsecond, List.flatMap_append, List.flatMap_map]
  exact congrArg (· ++ _) (List.flatMap_singleton' entryStart)

/-- `bare` drops nothing of `entryStart`. -/
theorem bare_entryStart (rest : Text) : bare (entryStart ++ rest) = entryStart ++ bare rest := by
  have hopening : ∀ text, openingRule text ≠ none → openingStart <+: text := by
    intro text hsome
    refine Classical.byContradiction fun hp => hsome ?_
    rw [openingRule, Text.enclosed, if_neg (by simpa using hp)]
  have hdrop : ∀ (second : Char) (needle text : Text), second ≠ 's' →
      Text.replaceAll ('<' :: second :: needle) [] (entryStart ++ text)
        = entryStart ++ Text.replaceAll ('<' :: second :: needle) [] text := by
    intro second needle text hsecond
    have hneedle : ∀ text, Text.literally ('<' :: second :: needle) text ≠ none →
        '<' :: second :: needle <+: text := fun text hsome =>
      Classical.byContradiction fun hp => hsome (Text.literally_eq_none_iff.mpr hp)
    exact replaceHits_entryStart hneedle hsecond text
  have hclosing : closing = '<' :: '/' :: closing.drop 2 := by decide
  have hdouble : declaration = '<' :: '?' :: declaration.drop 2 := by decide
  have hsingle : declarationSingle = '<' :: '?' :: declarationSingle.drop 2 := by decide
  have hstart : openingStart = '<' :: 'r' :: openingStart.drop 2 := by decide
  rw [hstart] at hopening
  rw [bare_eq, bare_eq, replaceHits_entryStart hopening (by decide), hclosing,
    hdrop _ _ _ (by decide), hdouble, hdrop _ _ _ (by decide), hsingle, hdrop _ _ _ (by decide)]

/-- The first of the `pieces` of a line that begins with `entryStart` begins with it. -/
theorem exists_pieces_entryStart (rest : Text) :
    ∃ piece others, pieces (entryStart ++ rest) = (entryStart ++ piece) :: others := by
  have hboundary : ∀ text, boundaryRule text ≠ none → entryEnd <+: text := by
    intro text hsome
    refine Classical.byContradiction fun hp => hsome ?_
    rw [boundaryRule, if_neg (by simpa using hp)]
  have hend : entryEnd = '<' :: '/' :: entryEnd.drop 2 := by decide
  rw [hend] at hboundary
  obtain ⟨piece, others, -, hlonger⟩ :=
    piecesFrom_append (Text.segments boundaryRule rest) [] entryStart
  refine ⟨piece, others, ?_⟩
  rw [pieces, segments_entryStart hboundary (by decide), piecesFrom_plain_append, List.append_nil]
  exact hlonger

/-- The first of the lines begins with `entryStart`. -/
def BeginsEntry (lines : List Text) : Prop :=
  ∃ line others, lines = line :: others ∧ entryStart <+: line

theorem BeginsEntry.append {lines : List Text} (h : BeginsEntry lines) (others : List Text) :
    BeginsEntry (lines ++ others) := by
  obtain ⟨line, rest, rfl, hline⟩ := h
  exact ⟨line, rest ++ others, rfl, hline⟩

theorem BeginsEntry.mono {lines others : List Text} (h : BeginsEntry lines)
    (hwithin : lines <+: others) : BeginsEntry others := by
  obtain ⟨rest, rfl⟩ := hwithin
  exact h.append rest

theorem BeginsEntry.eraseDups {lines : List Text} (h : BeginsEntry lines) :
    BeginsEntry lines.eraseDups := by
  obtain ⟨line, rest, rfl, hline⟩ := h
  exact ⟨line, _, List.eraseDups_cons, hline⟩

theorem keptOf_entryStart (rest : Text) : BeginsEntry (keptOf (entryStart ++ rest)) := by
  obtain ⟨piece, others, hpieces⟩ := exists_pieces_entryStart rest
  have hstrip : entryStart <+: Text.strip (entryStart ++ piece) :=
    Text.prefix_strip_append (show entryStart.head? = some '<' by decide)
      (show entryStart.getLast? = some 'g' by decide) (by decide) (by decide) piece
  have hne : (Text.strip (entryStart ++ piece)).isEmpty = false := by
    rw [List.isEmpty_eq_false_iff]
    intro hnil
    rw [hnil, List.prefix_nil] at hstrip
    exact absurd hstrip (by decide)
  rw [keptOf, hpieces, List.map_cons, List.filter_cons_of_pos (by simp [hne])]
  exact ⟨_, _, rfl, hstrip⟩

/-- `keptLines` of a text that begins with `entryStart` `BeginsEntry`. -/
theorem keptLines_entryStart (rest : Text) : BeginsEntry (keptLines (entryStart ++ rest)) := by
  have hone : IsOneLine entryStart := by decide
  obtain ⟨more, others, hlines⟩ := Text.exists_lines_append hone (by decide) (bare rest)
  rw [keptLines, bare_entryStart, hlines, List.flatMap_cons]
  exact (keptOf_entryStart more).append _

theorem beginsEntry_entryLines {text : Text} (h : entryStart <+: text) :
    BeginsEntry (entryLines text) := by
  obtain ⟨rest, rfl⟩ := h
  rw [entryLines_eq_keptLines]
  exact (keptLines_entryStart rest).eraseDups

/-! ### Documents whose first line begins an entry -/

/-- `entryLines` of a `document` `BeginsEntry`, if its lines do. -/
theorem beginsEntry_document {lines : List Text} (h : BeginsEntry lines)
    (hone : ∀ line ∈ lines, IsOneLine line) :
    BeginsEntry (entryLines (Text.unifyBreaks (document lines))) := by
  rw [entryLines_unifyBreaks_document hone, entryLines_document_eq]
  obtain ⟨line, others, rfl, hline⟩ := h
  exact ((beginsEntry_entryLines hline).append _).eraseDups

/-- `mergedLines` of a new file `BeginsEntry`, if there are any entries. -/
theorem beginsEntry_mergedLines_nil {writes : List (Text × Text)} (hne : writes ≠ []) :
    BeginsEntry (mergedLines [] writes) := by
  obtain ⟨entry, writes, rfl⟩ := List.exists_cons_of_ne_nil hne
  obtain ⟨rest, hrest⟩ := entryStart_prefix entry.1 entry.2
  have hline : entryStart <+: Text.unifyBreaks (entryLine entry.1 entry.2) := by
    rw [← hrest, Text.unifyBreaks_append (by decide)]
    exact List.prefix_append _ _
  have hnothing : entryLines (Text.unifyBreaks []) = [] := by decide +kernel
  rw [mergedLines, hnothing, List.nil_append, List.flatMap_cons]
  exact ((beginsEntry_entryLines hline).append _).eraseDups

theorem isOneLine_of_mem_mergedLines {old line : Text} {writes : List (Text × Text)}
    (h : line ∈ mergedLines old writes) : IsOneLine line := by
  rw [← entryLines_written] at h
  exact (of_mem_entryLines h).2

/-- The octets are the `document` of lines of which the first begins with `entryStart`. -/
def IsLaidOut (octets : Octets) : Prop :=
  ∃ lines, BeginsEntry lines ∧ (∀ line ∈ lines, IsOneLine line) ∧
    octets = Utf8.encode (document lines)

/-- The `document` of the `mergedLines` of nothing, or of a file that `IsLaidOut`, `IsLaidOut` again. -/
theorem isLaidOut_mergedLines {octets : Octets} {writes : List (Text × Text)}
    (h : octets = [] ∨ IsLaidOut octets) (hne : writes ≠ []) :
    ∃ old, Utf8.decode octets = .ok old ∧
      IsLaidOut (Utf8.encode (document (mergedLines old writes))) := by
  rcases h with rfl | ⟨lines, hlines, hone, rfl⟩
  · exact ⟨[], rfl, _, beginsEntry_mergedLines_nil hne, fun _ => isOneLine_of_mem_mergedLines, rfl⟩
  · refine ⟨document lines, Utf8.decode_encode _, _, ?_, fun _ => isOneLine_of_mem_mergedLines, rfl⟩
    exact (beginsEntry_document hlines hone).mono (entryLines_prefix_mergedLines _ _)

end Document

/-- `looksLikeResource` holds of octets with `IsLaidOut`, unless there are `maxResourceSize` of them. -/
theorem looksLikeResource_document {octets : Octets} (h : Document.IsLaidOut octets)
    (hsize : octets.length < maxResourceSize) : looksLikeResource octets = true := by
  obtain ⟨_, ⟨_, others, rfl, rest, rfl⟩, -, rfl⟩ := h
  -- The declaration and the start of the first entry stand at the head, whatever follows.
  let front : Text := Document.declaration ++ Document.lineBreak ++ Document.openingStart ++ ['>']
    ++ Document.lineBreak ++ Document.indent ++ Document.entryStart
  obtain ⟨tail, htail⟩ : ∃ tail,
      Document.document ((Document.entryStart ++ rest) :: others) = front ++ tail :=
    ⟨rest ++ (others.flatMap fun line => Document.lineBreak ++ Document.indent ++ line)
        ++ Document.lineBreak ++ Document.closing, by
      simp only [Document.document, front, List.flatMap_cons, List.append_assoc]⟩
  have hfits : (Utf8.encode front).length ≤ probeSize := by decide +kernel
  have hwide : Utf8.widen (Utf8.encode front) = front := by decide +kernel
  have hhead : front <+: Utf8.widen ((Utf8.encode (front ++ tail)).take probeSize) := by
    rw [Utf8.encode_append, List.take_append, List.take_of_length_le hfits, Utf8.widen,
      List.map_append]
    exact ⟨_, congrArg (· ++ _) hwide.symm⟩
  have hdeclaration : Document.declaration <:+: front :=
    ⟨[], front.drop Document.declaration.length, by decide +kernel⟩
  have hentry : Document.entryStart <:+: front := (List.suffix_append _ _).isInfix
  rw [htail] at hsize ⊢
  simp only [looksLikeResource, List.any_cons, Bool.and_eq_true, Bool.or_eq_true,
    decide_eq_true_eq, Text.occursIn_iff]
  exact ⟨⟨hsize, .inl (hdeclaration.trans hhead.isInfix)⟩, hentry.trans hhead.isInfix⟩

namespace Writer

open Disk (Wrote)

/-! ### Sessions -/

/-- One `session` after the other on one file, each with entries that a file can hold. -/
def sessions (target : Path) : List (List (Text × Text)) → Job Unit
  | [] => return ()
  | writes :: all => do
    session target (writes.map fun entry => (↑entry.1, ↑entry.2))
    sessions target all

theorem sessions_cons {target : Path} {writes : List (Text × Text)} {space mid : Workspace}
    (h : (session target (writes.map fun entry => (↑entry.1, ↑entry.2))).ends space = (.ok (), mid))
    (all : List (List (Text × Text))) :
    (sessions target (writes :: all)).ends space = (sessions target all).ends mid := by
  rw [sessions, Job.ends_bind_ok h]

section
variable {target : Path} {space : Workspace} {place : Location} {previous : Option Octets}

/-- `session` on a file that `Opens` and holds the text `old` leaves the `document` of the
`mergedLines`. -/
theorem session_ends (hopens : space.disk.Opens target place previous) {old : Text}
    (hold : Utf8.decode (previous.getD []) = .ok old) (writes : List (Text × Text)) :
    ∃ after, (session target (writes.map fun entry => (↑entry.1, ↑entry.2))).ends space
        = (.ok (), after) ∧
      Wrote space.disk after.disk place
        (Utf8.encode (Document.document (Document.mergedLines old writes))) := by
  have htext : Legible (writes.map fun entry => (↑entry.1, ↑entry.2)) := by
    rw [Legible, List.forall_mem_map]
    simp [Document.entryPoints_text?_eq_none_iff]
  have hadded : (writes.map fun entry => ((↑entry.1, ↑entry.2) : Points × Points)).flatMap entryText
      = writes.flatMap fun entry => Document.lineBreak ++ Document.entryLine entry.1 entry.2 := by
    rw [List.flatMap_map]
    simp only [entryText, Document.shown_entryPoints, Points.shown_ofText]
  -- What was added is text, so all of the file is text if the old part was.
  have hdecode := Utf8.decode_append
    (writes.flatMap fun entry => Document.lineBreak ++ Document.entryLine entry.1 entry.2) hold
  rw [← hadded] at hdecode
  obtain ⟨after, hafter, hwrote⟩ := session_of_text hopens htext hdecode
  rw [hadded, Document.format, Document.entryLines_written] at hwrote
  exact ⟨after, hafter, hwrote⟩

/-- After each of the `sessions` the file has fewer than `maxResourceSize` octets. -/
def StaysSmall (target : Path) (all : List (List (Text × Text))) (space : Workspace) : Prop :=
  ∀ done, done <+: all → done ≠ [] → ∀ after octets,
    (sessions target done).ends space = (.ok (), after) → after.disk.read target = .ok octets →
      octets.length < maxResourceSize

theorem StaysSmall.mono {all done : List (List (Text × Text))}
    (h : StaysSmall target all space) (hwithin : done <+: all) : StaysSmall target done space :=
  fun before hbefore => h before (hbefore.trans hwithin)

theorem StaysSmall.tail {writes : List (Text × Text)} {all : List (List (Text × Text))}
    {mid : Workspace} (h : StaysSmall target (writes :: all) space)
    (hmid : (session target (writes.map fun entry => (↑entry.1, ↑entry.2))).ends space
      = (.ok (), mid)) : StaysSmall target all mid := by
  intro done hdone _ after octets hafter
  refine h (writes :: done) (List.cons_prefix_cons.mpr ⟨rfl, hdone⟩) (List.cons_ne_nil _ _) after
    octets ?_
  rw [sessions_cons hmid, hafter]

/-- `sessions` end well, and the file that they leave `Opens`. Once `looksLikeResource` holds of it, it
goes on to hold. -/
theorem sessions_ends (hopens : space.disk.Opens target place previous)
    (hheld : previous.getD [] = [] ∨ Document.IsLaidOut (previous.getD []))
    {all : List (List (Text × Text))} (hwrites : ∀ writes ∈ all, writes ≠ [])
    (hsmall : StaysSmall target all space) :
    ∃ after left, (sessions target all).ends space = (.ok (), after) ∧
      after.disk.Opens target place left ∧
      ((all ≠ [] ∨ ∃ octets ∈ previous, looksLikeResource octets = true) →
        ∃ octets ∈ left, looksLikeResource octets = true) := by
  induction all generalizing space previous with
  | nil => exact ⟨space, previous, rfl, hopens, fun h => h.resolve_left (by simp)⟩
  | cons writes all ih =>
    obtain ⟨old, hold, hlaid⟩ := Document.isLaidOut_mergedLines hheld (hwrites writes (by simp))
    obtain ⟨mid, hmid, hwrote⟩ := session_ends hopens hold writes
    have hlocate := (hwrote.folders.locate_iff target place).mp hopens.locate
    -- The first of the sessions is one of those after which the file is small.
    have hlooks := looksLikeResource_document hlaid <|
      hsmall [writes] (List.cons_prefix_cons.mpr ⟨rfl, List.nil_prefix⟩) (by simp) mid _
        (sessions_cons hmid []) (Disk.read_eq_ok_iff.mpr ⟨place, hlocate, .inl hwrote.get?_place⟩)
    have hopens' : mid.disk.Opens target place (some _) :=
      ⟨hopens.noZero, hlocate, hwrote.get?_place, by rintro _ ⟨⟩ -; exact hlooks⟩
    obtain ⟨after, left, hafter, hleft, hstays⟩ :=
      ih hopens' (.inr hlaid) (fun next hmem => hwrites next (by simp [hmem])) (hsmall.tail hmid)
    exact ⟨after, left, (sessions_cons hmid all).trans hafter, hleft,
      fun _ => hstays (.inr ⟨_, rfl, hlooks⟩)⟩

end

/-- A writer never refuses what writers left. Take a target that is new or empty and that `start` accepts,
and any `sessions` of one entry or more each, during which it `StaysSmall`. After any number of these
sessions all have ended well, `Job.isResourceFile` holds of the target if there was one, and `start` opens
it again. -/
theorem recognised_after_sessions {target : Path} {space opened : Workspace} {writer : Writer}
    {all : List (List (Text × Text))} (hstart : (start target).ends space = (.ok writer, opened))
    (hempty : ∀ location octets, space.disk.find target = .ok (location, .file octets) → octets = [])
    (hwrites : ∀ writes ∈ all, writes ≠ []) (hsmall : StaysSmall target all space) :
    ∀ done, done <+: all → ∃ after, (sessions target done).ends space = (.ok (), after) ∧
      (done ≠ [] → (Job.isResourceFile target).ends after = (.ok true, after)) ∧
      ∃ next reopened, (start target).ends after = (.ok next, reopened) := by
  intro done hdone
  obtain ⟨place, previous, hopens, -⟩ := Job.opens_of_start hstart
  have hheld : previous.getD [] = [] := by
    cases previous with
    | none => rfl
    | some octets =>
      exact hempty place octets (Disk.find_eq_ok_iff.mpr ⟨hopens.locate, hopens.holds⟩)
  obtain ⟨after, left, hafter, hleft, hlooks⟩ := sessions_ends hopens (.inl hheld)
    (fun writes hmem => hwrites writes (hdone.subset hmem)) (hsmall.mono hdone)
  obtain ⟨next, reopened, hnext, -⟩ := Job.start_of_opens hleft
  refine ⟨after, hafter, fun hne => ?_, next, reopened, hnext⟩
  obtain ⟨octets, rfl, hoctets⟩ := hlooks (.inl hne)
  have hfind := Disk.find_eq_ok_iff.mpr ⟨hleft.locate, hleft.holds⟩
  rw [Job.isResourceFile_ends (Job.node?_of_find hleft.noZero hfind), Job.recognises, hoctets]

/-- `recognised_after_sessions` at tags and breaks within names and values, from a file that is not
there. -/
theorem recognised_after_sessions_tags :
    let target : Path := { names := ["t.xml".toList] }
    let all := [[("</resources>".toList, "<resources>\r</string> <".toList)],
      [("a".toList, "b".toList), ("<?xml".toList, "\n\n".toList)]]
    let space : Workspace := { disk := { home := [], nodes := [] } }
    (∃ writer opened, (start target).ends space = (.ok writer, opened)) ∧
      (∀ writes ∈ all, writes ≠ []) ∧ StaysSmall target all space ∧
      ∃ after, (sessions target all).ends space = (.ok (), after) ∧
        (Job.isResourceFile target).ends after = (.ok true, after) ∧
        ∃ next reopened, (start target).ends after = (.ok next, reopened) := by
  intro target all space
  obtain ⟨writer, hstart, -⟩ : ∃ writer,
      (start target).ends space = (.ok writer, ((start target).ends space).2) ∧
        writer.path = target := Job.exists_ends_of_map (by decide +kernel)
  have hempty : ∀ location octets,
      space.disk.find target = .ok (location, .file octets) → octets = [] := by
    intro location octets hfind
    have hmissing : (space.disk.find target).toOption = none := by decide +kernel
    simp [hfind, Except.toOption] at hmissing
  have hwrites : ∀ writes ∈ all, writes ≠ [] := by decide
  have hsmall : StaysSmall target all space := by
    intro done hdone _ after octets hafter hread
    have hsizes : ∀ count < 3, (((sessions target (all.take count)).ends space).2.disk.read
        target).toOption.all (fun octets => decide (octets.length < maxResourceSize)) = true := by
      decide +kernel
    have hsize := hsizes done.length (Nat.lt_succ_of_le hdone.length_le)
    rw [← List.prefix_iff_eq_take.mp hdone, hafter, hread] at hsize
    simpa [Except.toOption] using hsize
  obtain ⟨after, hafter, hresource, hnext⟩ :=
    recognised_after_sessions hstart hempty hwrites hsmall all List.prefix_rfl
  exact ⟨⟨_, _, hstart⟩, hwrites, hsmall, after, hafter, hresource (by decide), hnext⟩

end Writer

end Externalize
