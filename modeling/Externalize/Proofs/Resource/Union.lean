import Externalize.Proofs.Resource.EntryLines
import Externalize.Proofs.Resource.Lifecycle

/-!
# `Externalize.Proofs.Resource.Union`: adding to a resource file is a union of lines

A line feed parts what is read above it from what is read below it: neither a tag nor the end of an
entry is recognised across one, so the lines of the whole are the lines of the parts, before
repetitions are dropped (`keptLines_append`).

* `entryLines_append`: below a line feed only the lines that are new count.
* `entryLines_below_eq`: parts below each other are read as the union of their lines.
* `Writer.saves_union`: after any sequence of `write` and a `save` the file holds the union of the lines
  that it had and the lines of the entries. The old lines come first, in their old order. The breaks that
  entries leave which no file can hold make no lines.
-/

set_option autoImplicit false

namespace Externalize

/-! ### First occurrences -/

/-- Induction for `eraseDups`, which goes on with what a filter leaves of the rest. That is no part of
the list, so the induction is on the length. -/
@[elab_as_elim]
theorem filterInduction {α : Type} {motive : List α → Prop} (nil : motive [])
    (cons : ∀ x xs, (∀ p : α → Bool, motive (xs.filter p)) → motive (x :: xs)) (xs : List α) :
    motive xs := by
  induction hn : xs.length using Nat.strongRecOn generalizing xs with
  | ind n ih =>
    subst hn
    cases xs with
    | nil => exact nil
    | cons x xs =>
      exact cons x xs fun p => ih _ (Nat.lt_succ_of_le (List.length_filter_le p xs)) _ rfl

theorem nodup_eraseDups {α : Type} [BEq α] [LawfulBEq α] (xs : List α) : xs.eraseDups.Nodup := by
  induction xs using filterInduction with
  | nil => simp
  | cons x xs ih =>
    rw [List.eraseDups_cons, List.nodup_cons]
    exact ⟨by simp [List.mem_eraseDups], ih _⟩

/-- `eraseDups` commutes with `filter`. -/
theorem filter_eraseDups {α : Type} [BEq α] [LawfulBEq α] (p : α → Bool) (xs : List α) :
    xs.eraseDups.filter p = (xs.filter p).eraseDups := by
  induction xs using filterInduction with
  | nil => simp
  | cons x xs ih =>
    rw [List.eraseDups_cons]
    cases hx : p x with
    | true =>
      rw [List.filter_cons_of_pos hx, List.filter_cons_of_pos hx, List.eraseDups_cons, ih,
        List.filter_filter, List.filter_filter]
      simp only [Bool.and_comm]
    | false =>
      rw [List.filter_cons_of_neg (by simp [hx]), List.filter_cons_of_neg (by simp [hx]), ih,
        List.filter_filter]
      -- What is left out for its likeness to `x` is left out by the choice as well.
      congr 1
      refine List.filter_congr fun y _ => ?_
      by_cases hy : y = x
      · simp [hy, hx]
      · simp [hy]

/-- `eraseDups` leaves a list without repetitions as it is. -/
theorem eraseDups_of_nodup {α : Type} [BEq α] [LawfulBEq α] {xs : List α} (h : xs.Nodup) :
    xs.eraseDups = xs := by
  induction xs with
  | nil => rfl
  | cons x xs ih =>
    obtain ⟨hx, hxs⟩ := List.nodup_cons.mp h
    have hfilter : xs.filter (fun y => !y == x) = xs := by
      refine List.filter_eq_self.mpr fun y hy => ?_
      simpa using fun heq : y = x => hx (heq ▸ hy)
    rw [List.eraseDups_cons, hfilter, ih hxs]

/-- `eraseDups` leaves a sublist. -/
theorem eraseDups_sublist {α : Type} [BEq α] (xs : List α) : xs.eraseDups.Sublist xs := by
  induction xs using filterInduction with
  | nil => simp
  | cons x xs ih =>
    rw [List.eraseDups_cons]
    exact ((ih _).trans List.filter_sublist).cons_cons x

/-- `eraseDups` of two lists: of the second only what is not in the first. -/
theorem eraseDups_append_eq {α : Type} [BEq α] [LawfulBEq α] [DecidableEq α] (xs ys : List α) :
    (xs ++ ys).eraseDups
      = xs.eraseDups ++ ys.eraseDups.filter fun y => decide (y ∉ xs.eraseDups) := by
  rw [List.eraseDups_append, filter_eraseDups, List.removeAll]
  congr 2
  refine List.filter_congr fun y _ => ?_
  simp [List.mem_eraseDups]

theorem eraseDups_prefix {α : Type} [BEq α] [LawfulBEq α] (xs ys : List α) :
    xs.eraseDups <+: (xs ++ ys).eraseDups := by
  rw [List.eraseDups_append]
  exact List.prefix_append _ _

/-- `eraseDups` of the parts makes no difference to `eraseDups` of the whole. -/
theorem eraseDups_flatMap_eraseDups {α β : Type} [BEq β] [LawfulBEq β] [DecidableEq β]
    (f : α → List β) (xs : List α) :
    (xs.flatMap fun x => (f x).eraseDups).eraseDups = (xs.flatMap f).eraseDups := by
  induction xs with
  | nil => rfl
  | cons x xs ih =>
    have honce : (f x).eraseDups.eraseDups = (f x).eraseDups :=
      eraseDups_of_nodup (nodup_eraseDups _)
    rw [List.flatMap_cons, List.flatMap_cons, eraseDups_append_eq, eraseDups_append_eq, ih, honce]

namespace Document

/-! ### The lines of a text in parts -/

/-- The `entryLines` of a text with their repetitions. -/
def keptLines (text : Text) : List Text :=
  (bare text).lines.flatMap keptOf

theorem entryLines_eq_keptLines (text : Text) : entryLines text = (keptLines text).eraseDups :=
  entryLines_eq text

theorem entryLines_nodup (text : Text) : (entryLines text).Nodup := by
  rw [entryLines_eq_keptLines]
  exact nodup_eraseDups _

/-- `keptLines` goes through the two sides of a line feed apart. -/
theorem keptLines_append (text rest : Text) :
    keptLines (text ++ '\n' :: rest) = keptLines text ++ keptLines rest := by
  rw [keptLines, bare_append_lineFeed, Text.flatMap_lines_append keptOf_nil]
  rfl

theorem keptLines_below (first : Text) (parts : List Text) :
    keptLines (first ++ Text.below parts) = (first :: parts).flatMap keptLines := by
  induction parts generalizing first with
  | nil => simp
  | cons part parts ih => rw [Text.below_cons, keptLines_append, ih]; rfl

/-- `entryLines` of a text below another one: of its lines only those that are new. -/
theorem entryLines_append (text rest : Text) :
    entryLines (text ++ '\n' :: rest)
      = entryLines text ++ (entryLines rest).filter fun line => decide (line ∉ entryLines text) := by
  simp only [entryLines_eq_keptLines]
  rw [keptLines_append, eraseDups_append_eq]

/-- `entryLines` of parts with a line feed between them: the union of their lines. -/
theorem entryLines_below_eq (first : Text) (parts : List Text) :
    entryLines (first ++ Text.below parts) = ((first :: parts).flatMap entryLines).eraseDups := by
  have hlines : entryLines = fun text => (keptLines text).eraseDups :=
    funext entryLines_eq_keptLines
  rw [entryLines_eq_keptLines, keptLines_below, hlines, eraseDups_flatMap_eraseDups]

/-! ### The lines of a file that entries are added to -/

/-- The `entryLines` of the `old` text and of the new entries, each name with its value, without
repetitions. -/
def mergedLines (old : Text) (writes : List (Text × Text)) : List Text :=
  (entryLines (Text.unifyBreaks old) ++ writes.flatMap fun entry =>
    entryLines (Text.unifyBreaks (entryLine entry.1 entry.2))).eraseDups

/-- `entryLines` of a text with parts behind it, each below a `lineBreak`: the union of their lines. -/
theorem entryLines_parts (old : Text) (parts : List Text) :
    entryLines (Text.unifyBreaks (old ++ parts.flatMap (lineBreak ++ ·)))
      = (entryLines (Text.unifyBreaks old) ++
          parts.flatMap fun part => entryLines (Text.unifyBreaks part)).eraseDups := by
  have hparts : parts.flatMap (lineBreak ++ ·) = parts.flatMap fun part => '\r' :: '\n' :: part := rfl
  rw [hparts, Text.unifyBreaks_parts, entryLines_below_eq, List.flatMap_cons, List.flatMap_map]

/-- `entryLines` of an `old` text with new entries behind it are the `mergedLines`. -/
theorem entryLines_written (old : Text) (writes : List (Text × Text)) :
    entryLines (Text.unifyBreaks
        (old ++ writes.flatMap fun entry => lineBreak ++ entryLine entry.1 entry.2))
      = mergedLines old writes := by
  have hread := entryLines_parts old (writes.map fun entry => entryLine entry.1 entry.2)
  rw [List.flatMap_map, List.flatMap_map] at hread
  exact hread

/-- The `entryLines` of the `old` text come first in the `mergedLines`. -/
theorem entryLines_prefix_mergedLines (old : Text) (writes : List (Text × Text)) :
    entryLines (Text.unifyBreaks old) <+: mergedLines old writes := by
  have hprefix := eraseDups_prefix (entryLines (Text.unifyBreaks old)) (writes.flatMap fun entry =>
    entryLines (Text.unifyBreaks (entryLine entry.1 entry.2)))
  rwa [eraseDups_of_nodup (entryLines_nodup _)] at hprefix

end Document

/-! ### A writer that adds entries and saves -/

namespace Writer

open Disk (Wrote)

/-- The names and values of the entries that a file can hold: those for which `Points.text?` gives a
text. -/
def writable (writes : List (Points × Points)) : List (Text × Text) :=
  (writes.filter isWritable).map fun entry => (entry.1.shown, entry.2.shown)

/-- What `write` puts behind a break: the line of the entry, or nothing. -/
def lineOf (entry : Points × Points) : Text :=
  if isWritable entry then Document.entryLine entry.1.shown entry.2.shown else []

theorem added_eq (entry : Points × Points) :
    added entry = Utf8.encode (Document.lineBreak ++ lineOf entry) := by
  cases hwritable : isWritable entry with
  | true => rw [added_of_isWritable hwritable, Document.shown_entryPoints, lineOf, if_pos hwritable]
  | false =>
    rw [added_of_not_isWritable hwritable, lineOf, if_neg (by simp [hwritable]), List.append_nil]

theorem flatMap_added_eq (writes : List (Points × Points)) :
    writes.flatMap added = Utf8.encode ((writes.map lineOf).flatMap (Document.lineBreak ++ ·)) := by
  induction writes with
  | nil => rfl
  | cons entry writes ih =>
    rw [List.flatMap_cons, ih, added_eq, List.map_cons, List.flatMap_cons,
      Utf8.encode_append (Document.lineBreak ++ lineOf entry)]

/-- `mergedLines` of the `writable` entries: a break with nothing behind it makes no line. -/
theorem mergedLines_writable (old : Text) (writes : List (Points × Points)) :
    (Document.entryLines (Text.unifyBreaks old) ++ (writes.map lineOf).flatMap fun line =>
        Document.entryLines (Text.unifyBreaks line)).eraseDups
      = Document.mergedLines old (writable writes) := by
  have hlines : ((writes.map lineOf).flatMap fun line => Document.entryLines (Text.unifyBreaks line))
      = (writable writes).flatMap fun entry =>
          Document.entryLines (Text.unifyBreaks (Document.entryLine entry.1 entry.2)) := by
    induction writes with
    | nil => rfl
    | cons entry writes ih =>
      cases hwritable : isWritable entry with
      | true => simpa [writable, lineOf, hwritable] using ih
      | false =>
        have hnone : Document.entryLines (Text.unifyBreaks []) = [] := by decide
        simpa [writable, lineOf, hwritable, hnone] using ih
  rw [hlines, Document.mergedLines]

/-- `Document.entryLines` of two texts with a line feed between them are those of the first, followed by
those of the second that are not among them. So take a writer that `start` gives on a target with the text
`old`. Any number of `write` and then `save` leave the `Document.document` of the `mergedLines` of `old`
and of the entries that are `writable`. These begin with the lines of `old`, and none is repeated. A
`write` raises (`faultOf`) exactly if no file can hold its entry, and `save` does not. -/
theorem saves_union :
    (∀ text rest, Document.entryLines (text ++ '\n' :: rest)
      = Document.entryLines text ++ (Document.entryLines rest).filter fun line =>
          decide (line ∉ Document.entryLines text)) ∧
    ∀ (target : Path) (space opened : Workspace) (writer : Writer),
      (start target).ends space = (.ok writer, opened) →
      ∃ place previous, space.disk.Opens target place previous ∧
        ∀ (old : Text) (writes : List (Points × Points)),
          Utf8.decode (previous.getD []) = .ok old →
          ∃ saved after,
            (writer.performAll ((writes.map fun entry => .write entry.1 entry.2) ++ [.save])).ends
              opened = (.ok (saved, writes.map faultOf ++ [none]), after) ∧
            Wrote space.disk after.disk place
              (Utf8.encode (Document.document (Document.mergedLines old (writable writes)))) ∧
            Document.entryLines (Text.unifyBreaks old)
              <+: Document.mergedLines old (writable writes) ∧
            (Document.mergedLines old (writable writes)).Nodup := by
  refine ⟨Document.entryLines_append, fun target space opened writer hstart => ?_⟩
  obtain ⟨place, previous, hopens, hstarted⟩ := Job.opens_of_start hstart
  refine ⟨place, previous, hopens, fun old writes hold => ?_⟩
  obtain ⟨held, put, mid, hmid, hwrote, hput, -⟩ :=
    performAll_writes hstarted.standsOn hstarted.pending writes
  -- What was added is text, so all of the file is text if the old part was.
  have hdecode := Utf8.decode_append ((writes.map lineOf).flatMap (Document.lineBreak ++ ·)) hold
  rw [← flatMap_added_eq, ← hput] at hdecode
  let now : Writer :=
    { writer with written := writer.written + writes.countP isWritable, pending := some held }
  obtain ⟨after, hafter, hsaved⟩ :=
    (acts (hstarted.standsOn.of_wrote now rfl hwrote)).saves _ hdecode
  rw [Document.format, Document.entryLines_parts, mergedLines_writable] at hsaved
  exact ⟨_, after, performAll_concat hmid hafter, (hstarted.wrote.trans hwrote).trans hsaved,
    Document.entryLines_prefix_mergedLines old _, nodup_eraseDups _⟩

/-- `saves_union` at an entry that the file has already, which is not added a second time, at a value
with a break, which makes two lines, and at an entry that no file can hold, which makes none. -/
theorem saves_union_repeated_entry :
    let target : Path := { names := ["t.xml".toList] }
    let old := "<resources><string name=\"a\">b</string>\r".toList
    let writes : List (Points × Points) :=
      [("a".toList, "b".toList), ([.half 0xD800], "x".toList), ("c".toList, "d\re".toList)]
    let space : Workspace :=
      { disk := { home := [], nodes := [(["t.xml".toList], .file (Utf8.encode old))] } }
    ∃ writer opened saved after,
      (start target).ends space = (.ok writer, opened) ∧
      (writer.performAll ((writes.map fun entry => .write entry.1 entry.2) ++ [.save])).ends opened
        = (.ok (saved, [none, some (.interruption (.halves ⟨14, 0xD800, 1⟩)), none, none]), after) ∧
      Wrote space.disk after.disk ["t.xml".toList] (Utf8.encode (Document.document
        ["<string name=\"a\">b</string>".toList, "<string name=\"c\">d".toList,
          "e</string>".toList])) := by
  intro target old writes space
  have hopens : space.disk.Opens target ["t.xml".toList] (some (Utf8.encode old)) := by
    refine ⟨by decide, rfl, by decide +kernel, ?_⟩
    rintro _ ⟨⟩ -
    decide +kernel
  obtain ⟨writer, hstart, -⟩ : ∃ writer,
      (start target).ends space = (.ok writer, ((start target).ends space).2) ∧
        writer.path = target := Job.exists_ends_of_map (by decide +kernel)
  obtain ⟨place, previous, hopens', hsaves⟩ := saves_union.2 target space _ writer hstart
  obtain ⟨rfl, rfl⟩ := hopens.unique hopens'
  obtain ⟨saved, after, hends, hwrote, -, -⟩ := hsaves old writes (Utf8.decode_encode old)
  have hfaults : writes.map faultOf ++ [none]
      = [none, some (.interruption (.halves ⟨14, 0xD800, 1⟩)), none, none] := by decide +kernel
  have hlines : Document.mergedLines old (writable writes) = ["<string name=\"a\">b</string>".toList,
      "<string name=\"c\">d".toList, "e</string>".toList] := by decide +kernel
  exact ⟨writer, _, saved, after, hstart, hfaults ▸ hends, hlines ▸ hwrote⟩

end Writer

end Externalize
