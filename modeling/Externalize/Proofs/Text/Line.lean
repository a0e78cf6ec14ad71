import Externalize.Text.Blank
import Externalize.Text.Line

/-!
# `Externalize.Proofs.Text.Line`: texts made of lines

`Text.below` puts lines below each other, with a line feed before each. Parts with the usual
two-character breaks between them become such a text when the breaks are unified
(`unifyBreaks_parts`).

A break cuts any text in two that share no line (`flatMap_lines_append`), and cutting into lines drops
the breaks and nothing else (`flatten_lines`). The lines are told apart by a map that gives nothing
for an empty line, since a text whose last character is a break has no empty line behind it.
-/

set_option autoImplicit false

namespace Externalize.Text

/-- The `lines` one below the other, with a line feed before each. -/
def below (lines : List Text) : Text :=
  lines.flatMap fun line => '\n' :: line

@[simp]
theorem below_nil : below [] = [] := rfl

@[simp]
theorem below_cons (line : Text) (lines : List Text) :
    below (line :: lines) = '\n' :: (line ++ below lines) := rfl

/-- Induction over the line feeds: a text is one line, or a line, a line feed and a text. -/
@[elab_as_elim]
theorem lineInduction {motive : Text → Prop} (line : ∀ line, '\n' ∉ line → motive line)
    (feed : ∀ line rest, '\n' ∉ line → motive rest → motive (line ++ '\n' :: rest)) (text : Text) :
    motive text := by
  induction hn : text.length using Nat.strongRecOn generalizing text with
  | ind n ih =>
    subst hn
    by_cases hfeed : '\n' ∈ text
    · obtain ⟨first, rest, rfl, hfirst⟩ := List.eq_append_cons_of_mem hfeed
      exact feed first rest hfirst (ih rest.length (by simp; omega) rest rfl)
    · exact line text hfeed

/-! ### Unified breaks -/

/-- `unifyBreaksFrom` passes over a stretch without a carriage return. -/
theorem unifyBreaksFrom_append {line : Text} (h : '\r' ∉ line) (rest done : Text) :
    unifyBreaksFrom (line ++ rest) done = unifyBreaksFrom rest (line.reverse ++ done) := by
  induction line generalizing done with
  | nil => rfl
  | cons c line ih =>
    have hc : c ≠ '\r' := fun hc => h (by simp [hc])
    have hline : '\r' ∉ line := fun hline => h (by simp [hline])
    -- The clause for an ordinary character: those before it want a carriage return.
    rw [List.cons_append, unifyBreaksFrom.eq_4 _ _ _ (fun _ hr => absurd hr hc) hc, ih hline]
    simp

/-- `unifyBreaks` leaves a text without a carriage return as it is. -/
theorem unifyBreaks_of_notMem {line : Text} (h : '\r' ∉ line) : unifyBreaks line = line := by
  have hline := unifyBreaksFrom_append h [] []
  simpa [unifyBreaks, unifyBreaksFrom] using hline

theorem length_unifyBreaksFrom (text done : Text) :
    (unifyBreaksFrom text done).length ≤ text.length + done.length := by
  fun_induction unifyBreaksFrom text done <;> simp_all <;> omega

/-- `unifyBreaks` makes no text longer. -/
theorem length_unifyBreaks (text : Text) : (unifyBreaks text).length ≤ text.length :=
  length_unifyBreaksFrom text []

theorem unifyBreaksFrom_ne_nil {text done : Text} (h : text ≠ [] ∨ done ≠ []) :
    unifyBreaksFrom text done ≠ [] := by
  fun_induction unifyBreaksFrom text done with
  | case1 done => simpa using h
  | case2 rest done ih => exact ih (.inr (by simp))
  | case3 rest done hfeed ih => exact ih (.inr (by simp))
  | case4 c rest done hpair hreturn ih => exact ih (.inr (by simp))

theorem mem_unifyBreaksFrom {text done : Text} (h : '\r' ∈ text ∨ '\n' ∈ done) :
    '\n' ∈ unifyBreaksFrom text done := by
  fun_induction unifyBreaksFrom text done with
  | case1 done => simpa using h
  | case2 rest done ih => exact ih (.inr (by simp))
  | case3 rest done hfeed ih => exact ih (.inr (by simp))
  | case4 c rest done hpair hreturn ih =>
    rcases h with h | h
    · exact ih (.inl ((List.mem_cons.mp h).resolve_left (Ne.symm hreturn)))
    · exact ih (.inr (by simp [h]))

/-- `unifyBreaksFrom` keeps what is `done` in front: its end `before` can be taken out. -/
theorem unifyBreaksFrom_done (text done before : Text) :
    unifyBreaksFrom text (done ++ before) = before.reverse ++ unifyBreaksFrom text done := by
  fun_induction unifyBreaksFrom text done with
  | case1 done => simp [unifyBreaksFrom]
  | case2 rest done ih => rw [unifyBreaksFrom, ← List.cons_append, ih]
  | case3 rest done hfeed ih => rw [unifyBreaksFrom.eq_3 _ _ hfeed, ← List.cons_append, ih]
  | case4 c rest done hpair hreturn ih =>
    rw [unifyBreaksFrom.eq_4 _ _ _ hpair hreturn, ← List.cons_append, ih]

theorem unifyBreaksFrom_append_break (text rest done : Text) :
    unifyBreaksFrom (text ++ '\r' :: '\n' :: rest) done
      = unifyBreaksFrom text done ++ '\n' :: unifyBreaks rest := by
  fun_induction unifyBreaksFrom text done with
  | case1 done =>
    rw [List.nil_append, unifyBreaksFrom]
    have hdone := unifyBreaksFrom_done rest [] ('\n' :: done)
    simpa [unifyBreaks] using hdone
  | case2 text done ih => exact ih
  | case3 text done hfeed ih =>
    -- A carriage return at the end of the text is followed by another, so it is a break of its own.
    rw [List.cons_append, unifyBreaksFrom.eq_3 _ _ ?_, ih]
    intro after heq
    cases text with
    | nil => cases heq
    | cons d text => exact hfeed _ (by rw [(List.cons.inj heq).1])
  | case4 c text done hpair hreturn ih =>
    rw [List.cons_append, unifyBreaksFrom.eq_4 _ _ _ (fun _ hr => absurd hr hreturn) hreturn, ih]

/-- `unifyBreaks` goes through the two sides of a two-character break apart from each other. -/
theorem unifyBreaks_append_break (text rest : Text) :
    unifyBreaks (text ++ '\r' :: '\n' :: rest) = unifyBreaks text ++ '\n' :: unifyBreaks rest :=
  unifyBreaksFrom_append_break text rest []

/-- `unifyBreaks` of parts with a two-character break before each: `below` of the parts. -/
theorem unifyBreaks_parts (first : Text) (parts : List Text) :
    unifyBreaks (first ++ parts.flatMap fun part => '\r' :: '\n' :: part)
      = unifyBreaks first ++ below (parts.map unifyBreaks) := by
  induction parts generalizing first with
  | nil => simp
  | cons part parts ih =>
    rw [List.flatMap_cons, List.cons_append, List.cons_append, unifyBreaks_append_break, ih]
    rfl

/-- `unifyBreaks` of lines with a two-character break between them, if the lines hold no carriage
return. -/
theorem unifyBreaks_lines {first : Text} {lines : List Text} (hfirst : '\r' ∉ first)
    (h : ∀ line ∈ lines, '\r' ∉ line) :
    unifyBreaks (first ++ lines.flatMap fun line => '\r' :: '\n' :: line) = first ++ below lines := by
  have hlines : lines.map unifyBreaks = lines :=
    (List.map_congr_left fun line hmem => unifyBreaks_of_notMem (h line hmem)).trans lines.map_id
  rw [unifyBreaks_parts, unifyBreaks_of_notMem hfirst, hlines]

/-! ### Lines -/

/-- No character of the text is an `isLineBreak`. -/
def IsOneLine (text : Text) : Prop :=
  ∀ c ∈ text, isLineBreak c = false

instance (text : Text) : Decidable (IsOneLine text) :=
  List.decidableBAll _ text

theorem IsOneLine.return_notMem {text : Text} (h : IsOneLine text) : '\r' ∉ text :=
  fun hmem => absurd (h _ hmem) (by decide)

/-- `unifyBreaks` leaves a text as it is, if its result `IsOneLine`. -/
theorem unifyBreaks_of_isOneLine {text : Text} (h : IsOneLine (unifyBreaks text)) :
    unifyBreaks text = text := by
  refine unifyBreaks_of_notMem fun hreturn => ?_
  exact absurd (h '\n' (mem_unifyBreaksFrom (.inl hreturn))) (by decide)

@[simp]
theorem isOneLine_append {text other : Text} :
    IsOneLine (text ++ other) ↔ IsOneLine text ∧ IsOneLine other := by
  simp only [IsOneLine, List.mem_append, or_imp, forall_and]

/-- `linesFrom` puts a stretch that `IsOneLine` on the `current` line. -/
theorem linesFrom_append {line : Text} (h : IsOneLine line) (rest current : Text)
    (done : List Text) :
    linesFrom (line ++ rest) current done = linesFrom rest (line.reverse ++ current) done := by
  induction line generalizing current with
  | nil => rfl
  | cons c line ih =>
    have hc : isLineBreak c = false := h c (by simp)
    have hreturn : c ≠ '\r' := by
      rintro rfl
      exact absurd hc (by decide)
    rw [List.cons_append, linesFrom.eq_3 _ _ _ _ (fun _ hr => absurd hr hreturn), hc, if_neg (by simp),
      ih fun d hd => h d (by simp [hd])]
    simp

/-- `linesFrom` keeps the lines that are `done` in front: their end `before` can be taken out. -/
theorem linesFrom_done (text current : Text) (done before : List Text) :
    linesFrom text current (done ++ before) = before.reverse ++ linesFrom text current done := by
  fun_induction linesFrom text current done with
  | case1 current done => cases current <;> simp [linesFrom]
  | case2 rest current done ih => rw [linesFrom, ← List.cons_append, ih]
  | case3 c rest current done hreturn hbreak ih =>
    rw [linesFrom.eq_3 _ _ _ _ hreturn, if_pos hbreak, ← List.cons_append, ih]
  | case4 c rest current done hreturn hbreak ih =>
    rw [linesFrom.eq_3 _ _ _ _ hreturn, if_neg hbreak, ih]

theorem flatMap_linesFrom_append {α : Type} {f : Text → List α} (hf : f [] = []) {mark : Char}
    {rest : Text} (hmark : isLineBreak mark = true)
    (hpair : ∀ rest', mark = '\r' → rest = '\n' :: rest' → False) (text current : Text)
    (done : List Text) :
    (linesFrom (text ++ mark :: rest) current done).flatMap f
      = (linesFrom text current done).flatMap f ++ (lines rest).flatMap f := by
  have hcut : ∀ current done, linesFrom rest [] (current :: done)
      = done.reverse ++ current :: lines rest := fun current done => by
    have hdone := linesFrom_done rest [] [] (current :: done)
    simpa [lines] using hdone
  fun_induction linesFrom text current done with
  | case1 current done =>
    rw [List.nil_append, linesFrom.eq_3 _ _ _ _ hpair, if_pos hmark, hcut]
    cases current <;> simp [hf]
  | case2 text current done ih => exact ih
  | case3 c text current done hreturn hbreak ih =>
    -- A carriage return at the end of the text makes one break with a line feed.
    by_cases hend : c = '\r' ∧ text = [] ∧ mark = '\n'
    · obtain ⟨rfl, rfl, rfl⟩ := hend
      have hone : linesFrom (['\r'] ++ '\n' :: rest) current done
          = linesFrom rest [] (current.reverse :: done) := rfl
      rw [hone, hcut]
      simp [linesFrom]
    · rw [List.cons_append, linesFrom.eq_3 _ _ _ _ ?_, if_pos hbreak, ih]
      rintro after rfl heq
      cases text with
      | nil => exact hend ⟨rfl, rfl, (List.cons.inj heq).1⟩
      | cons d text => exact hreturn _ rfl (by rw [(List.cons.inj heq).1])
  | case4 c text current done hreturn hbreak ih =>
    have hc : c ≠ '\r' := by
      rintro rfl
      exact hbreak (by decide)
    rw [List.cons_append, linesFrom.eq_3 _ _ _ _ fun _ hr => absurd hr hc, if_neg hbreak, ih]

/-- A line feed cuts the `lines` of a text in two, for a map `f` that does not see empty lines. -/
theorem flatMap_lines_append {α : Type} {f : Text → List α} (hf : f [] = []) (text rest : Text) :
    (lines (text ++ '\n' :: rest)).flatMap f = (lines text).flatMap f ++ (lines rest).flatMap f :=
  flatMap_linesFrom_append hf (by decide) (by simp) text [] []

/-- A carriage return at the end adds nothing to the `lines`, for a map `f` that does not see empty
lines. -/
theorem flatMap_lines_append_return {α : Type} {f : Text → List α} (hf : f [] = []) (text : Text) :
    (lines (text ++ ['\r'])).flatMap f = (lines text).flatMap f := by
  have hlines : (lines (text ++ ['\r'])).flatMap f
      = (lines text).flatMap f ++ (lines []).flatMap f :=
    flatMap_linesFrom_append hf (by decide) (by simp) text [] []
  rw [hlines]
  exact List.append_nil _

/-- `linesFrom` drops the characters with `isLineBreak`, and nothing else. -/
theorem flatten_linesFrom (text current : Text) (done : List Text) :
    (linesFrom text current done).flatten
      = done.reverse.flatten ++ current.reverse ++ text.filter fun c => !isLineBreak c := by
  have hreturn : isLineBreak '\r' = true := by decide
  have hfeed : isLineBreak '\n' = true := by decide
  fun_induction linesFrom text current done with
  | case1 current done => cases current <;> simp
  | case2 rest current done ih => simp [ih, hreturn, hfeed]
  | case3 c rest current done _ hbreak ih => simp [ih, hbreak]
  | case4 c rest current done _ hbreak ih => simp [ih, hbreak]

theorem flatten_lines (text : Text) :
    (lines text).flatten = text.filter fun c => !isLineBreak c := by
  rw [lines, flatten_linesFrom]
  rfl

theorem isOneLine_of_mem_lines {text line : Text} (h : line ∈ lines text) : IsOneLine line := by
  intro c hc
  have hmem : c ∈ (lines text).flatten := List.mem_flatten.mpr ⟨line, h, hc⟩
  rw [flatten_lines] at hmem
  simpa using (List.mem_filter.mp hmem).2

/-- `lines` of a text that `IsOneLine` is this text alone. -/
theorem lines_of_isOneLine {text : Text} (h : IsOneLine text) (hne : text ≠ []) :
    lines text = [text] := by
  have hlines := linesFrom_append h [] [] []
  rw [List.append_nil] at hlines
  rw [lines, hlines]
  simp [linesFrom, hne]

/-- A stretch `before` the text makes no difference to a map `f` of its lines that does not see it. -/
theorem flatMap_linesFrom_before {α : Type} {f : Text → List α} (hf : f [] = []) {before : Text}
    (hbefore : ∀ line, f (before ++ line) = f line) (text current : Text) (done : List Text) :
    (linesFrom text (current ++ before.reverse) done).flatMap f
      = (linesFrom text current done).flatMap f := by
  -- Once the first line is done, both sides have the same lines to come.
  have hdone : ∀ current rest : Text,
      (linesFrom rest [] ((current ++ before.reverse).reverse :: done)).flatMap f
        = (linesFrom rest [] (current.reverse :: done)).flatMap f := fun current rest => by
    have hlong := linesFrom_done rest [] [] ((current ++ before.reverse).reverse :: done)
    have hshort := linesFrom_done rest [] [] (current.reverse :: done)
    rw [List.nil_append] at hlong hshort
    rw [hlong, hshort]
    simp [hbefore]
  induction text generalizing current with
  | nil =>
    have hend : ∀ current, (linesFrom [] current done).flatMap f
        = done.reverse.flatMap f ++ f current.reverse := fun current => by
      cases current <;> simp [linesFrom, hf]
    rw [hend, hend, List.reverse_append, List.reverse_reverse, hbefore]
  | cons c rest ih =>
    by_cases hpair : c = '\r' ∧ ∃ rest', rest = '\n' :: rest'
    · obtain ⟨rfl, rest', rfl⟩ := hpair
      exact hdone current rest'
    · have hpair' : ∀ rest', c = '\r' → rest = '\n' :: rest' → False :=
        fun rest' hc hrest => hpair ⟨hc, rest', hrest⟩
      rw [linesFrom.eq_3 _ _ _ _ hpair', linesFrom.eq_3 _ _ _ _ hpair']
      split
      · exact hdone current rest
      · rw [← List.cons_append, ih]

/-! ### Stripped lines -/

theorem drop_length_takeWhile (p : Char → Bool) (text : Text) :
    text.drop (text.takeWhile p).length = text.dropWhile p := by
  have hsplit := congrArg (List.drop (text.takeWhile p).length)
    (List.takeWhile_append_dropWhile (p := p) (l := text))
  rw [List.drop_left] at hsplit
  exact hsplit.symm

theorem strip_sublist (text : Text) : (strip text).Sublist text := by
  have hback : ((text.dropWhile isBlank).reverse.dropWhile isBlank).reverse.Sublist
      (text.dropWhile isBlank) := by
    have h := (List.dropWhile_sublist isBlank (l := (text.dropWhile isBlank).reverse)).reverse
    rwa [List.reverse_reverse] at h
  exact hback.trans (List.dropWhile_sublist _)

theorem strip_append_of_blank {blanks : Text} (h : ∀ c ∈ blanks, isBlank c = true) (text : Text) :
    strip (blanks ++ text) = strip text := by
  rw [strip, stripWhere, List.dropWhile_append_of_pos h]
  rfl

/-- `strip` leaves a line as it is, if neither of its two ends `isBlank`. -/
theorem strip_of_ends {line : Text} {first last : Char} (hfirst : line.head? = some first)
    (hlast : line.getLast? = some last) (hfirst' : isBlank first = false)
    (hlast' : isBlank last = false) : strip line = line := by
  have hfront : line.dropWhile isBlank = line := by
    obtain ⟨rest, rfl⟩ := List.head?_eq_some_iff.mp hfirst
    rw [List.dropWhile_cons_of_neg (by simp [hfirst'])]
  have hback : line.reverse.dropWhile isBlank = line.reverse := by
    rw [← List.head?_reverse] at hlast
    obtain ⟨rest, hrest⟩ := List.head?_eq_some_iff.mp hlast
    rw [hrest, List.dropWhile_cons_of_neg (by simp [hlast'])]
  rw [strip, stripWhere, hfront, hback, List.reverse_reverse]

end Externalize.Text
