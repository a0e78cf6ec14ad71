import Externalize.Proofs.Source.Attribute
import Externalize.Proofs.Source.InPlace
import Externalize.Proofs.Source.Lines

/-!
# `Externalize.Proofs.Source.Swap`: relinking markup swaps whole values

In markup a reference keeps the quotes of the value whose place it takes, so relinking never changes
where the quotes stand, and all of it can be told on the pieces between them. One turn swaps the
pieces that spell one value. It passes over a piece right behind one that it swapped, since the quote
between the two is used up, so that of equal pieces next to each other every other one is swapped:
`swap`, `replaceAll_swap`.

Turns do not get in each other's way. A reference begins with a mark that no value begins with, so
what one turn puts in no other takes out, and turns one after the other are one turn for all the
values together (`swap_swap`). That is why the order of the entries makes no difference
(`relink_markup_perm`), and why each piece of the result is the piece that was there or the reference
of an entry with that value: `SwapsValues`, `relink_markup_swaps`.
-/

set_option autoImplicit false

namespace Externalize

namespace Quotation

/-! ### Swapping on the pieces -/

/-- The pieces with `link?` of each value that has one in its place, but for a piece right behind one
that was swapped for the same value. `before` is the value that was swapped last, if it stood right
before the first piece. -/
def swap (link? : Text → Option Text) : Option Text → List Text → List Text
  | _, [] => []
  | before, piece :: rest =>
    match link? piece with
    | none => piece :: swap link? none rest
    | some link =>
      if before = some piece then piece :: swap link? none rest
      else link :: swap link? (some piece) rest

section
variable {link? : Text → Option Text} {before : Option Text} {piece link : Text} {pieces : List Text}

theorem swap_cons_of_none (h : link? piece = none) :
    swap link? before (piece :: pieces) = piece :: swap link? none pieces := by
  rw [swap, h]

theorem swap_cons_of_some (h : link? piece = some link) (hbefore : before ≠ some piece) :
    swap link? before (piece :: pieces) = link :: swap link? (some piece) pieces := by
  rw [swap, h]
  exact if_neg hbefore

/-- `swap` keeps a value right behind the same value that was swapped. -/
theorem swap_cons_of_repeated (h : link? piece = some link) :
    swap link? (some piece) (piece :: pieces) = piece :: swap link? none pieces := by
  rw [swap, h]
  exact if_pos rfl

theorem length_swap (link? : Text → Option Text) (before : Option Text) (pieces : List Text) :
    (swap link? before pieces).length = pieces.length := by
  fun_induction swap link? before pieces <;> simp_all

/-- `swap` keeps all the pieces, if `link?` is `none` everywhere. -/
theorem swap_eq_self (h : ∀ value, link? value = none) (before : Option Text) (pieces : List Text) :
    swap link? before pieces = pieces := by
  induction pieces generalizing before with
  | nil => rfl
  | cons piece pieces ih => rw [swap_cons_of_none (h piece), ih]

/-- A member of `swap` was one of the pieces, or is the `link?` of a value. -/
theorem mem_swap {other : Text} (h : other ∈ swap link? before pieces) :
    other ∈ pieces ∨ ∃ value, link? value = some other := by
  fun_induction swap link? before pieces <;> grind

/-- `swap` keeps each piece or puts its `link?` in its place. -/
theorem getElem?_swap {place : Nat} (h : pieces[place]? = some piece) :
    (swap link? before pieces)[place]? = some piece ∨
      ∃ link, link? piece = some link ∧ (swap link? before pieces)[place]? = some link := by
  induction pieces generalizing before place with
  | nil => simp at h
  | cons first pieces ih =>
    rw [swap]
    cases place with
    | zero =>
      obtain rfl : first = piece := by simpa using h
      split
      · exact .inl rfl
      · split
        · exact .inl rfl
        · exact .inr ⟨_, ‹_›, rfl⟩
    | succ place =>
      rw [List.getElem?_cons_succ] at h
      split
      · exact ih h
      · split
        · exact ih h
        · exact ih h

/-- `swap` puts the `link?` of the first piece in its place. -/
theorem getElem?_swap_first (h : link? piece = some link) (hfirst : pieces[0]? = some piece) :
    (swap link? none pieces)[0]? = some link := by
  cases pieces with
  | nil => simp at hfirst
  | cons first pieces =>
    obtain rfl : first = piece := by simpa using hfirst
    rw [swap_cons_of_some h (by simp)]
    rfl

/-- `swap` puts the `link?` of a later piece in its place, unless the piece before it has the same value
and gave way. -/
theorem getElem?_swap_next {place : Nat} (h : link? piece = some link) (hne : link ≠ piece)
    (hpiece : pieces[place + 1]? = some piece) :
    (swap link? before pieces)[place + 1]? = some link ↔
      ¬(pieces[place]? = some piece ∧ (swap link? before pieces)[place]? = some link) := by
  induction pieces generalizing before place with
  | nil => simp at hpiece
  | cons first pieces ih =>
    rw [List.getElem?_cons_succ] at hpiece
    -- Only what becomes of the piece right before it matters, which the induction carries down to the
    -- first two pieces.
    cases place with
    | succ place =>
      rw [swap]
      split
      · exact ih hpiece
      · split
        · exact ih hpiece
        · exact ih hpiece
    | zero =>
      cases pieces with
      | nil => simp at hpiece
      | cons second pieces =>
        obtain rfl : second = piece := by simpa using hpiece
        simp only [List.getElem?_cons_zero, Option.some.injEq]
        cases hfirst : link? first with
        | none =>
          have hother : first ≠ second := fun heq => by simp [heq, h] at hfirst
          rw [swap_cons_of_none hfirst, swap_cons_of_some h (by simp)]
          simp [hother]
        | some other =>
          by_cases hbefore : before = some first
          · subst hbefore
            rw [swap_cons_of_repeated hfirst, swap_cons_of_some h (by simp)]
            simp only [List.getElem?_cons_succ, List.getElem?_cons_zero, Option.some.injEq, true_iff]
            rintro ⟨rfl, rfl⟩
            exact hne rfl
          · rw [swap_cons_of_some hfirst hbefore]
            by_cases heq : first = second
            · subst heq
              obtain rfl : link = other := Option.some.inj (h.symm.trans hfirst)
              rw [swap_cons_of_repeated h]
              simpa using hne.symm
            · rw [swap_cons_of_some h (by simpa using heq)]
              simp [heq]

end

/-- `swap` by `first` and then by `second` is one `swap`, if the two are for different values and
`second` is not for a link that `first` put in. -/
theorem swap_swap {first second : Text → Option Text}
    (hother : ∀ value link, first value = some link → second value = none)
    (hlink : ∀ value link, first value = some link → second link = none)
    {before before' : Option Text} (hbefore : ∀ value ∈ before, (first value).isSome = true)
    (hbefore' : ∀ value ∈ before', (second value).isSome = true) (hone : before = none ∨ before' = none)
    (pieces : List Text) :
    swap second before' (swap first before pieces)
      = swap (fun value => (first value).or (second value)) (before.or before') pieces := by
  induction pieces generalizing before before' with
  | nil => rfl
  | cons piece pieces ih =>
    have hrest : swap second none (swap first none pieces)
        = swap (fun value => (first value).or (second value)) none pieces :=
      ih (by simp) (by simp) (.inl rfl)
    cases hfirst : first piece with
    | some link =>
      have hboth : (first piece).or (second piece) = some link := by rw [hfirst]; rfl
      have hsecond := hother piece link hfirst
      by_cases hrepeated : before = some piece
      · subst hrepeated
        rw [swap_cons_of_repeated hfirst, swap_cons_of_none hsecond, hrest]
        exact (swap_cons_of_repeated hboth).symm
      · -- What stood before is swapped for another value, whichever turn it had.
        have hstate : before.or before' ≠ some piece := by
          cases before with
          | some value => exact hrepeated
          | none =>
            rintro rfl
            simpa [hsecond] using hbefore' piece rfl
        rw [swap_cons_of_some hfirst hrepeated, swap_cons_of_none (hlink piece link hfirst),
          swap_cons_of_some hboth hstate]
        exact congrArg _ (ih (by simp [hfirst]) (by simp) (.inr rfl))
    | none =>
      rw [swap_cons_of_none hfirst]
      cases hsecond : second piece with
      | none =>
        have hboth : (first piece).or (second piece) = none := by rw [hfirst, hsecond]; rfl
        rw [swap_cons_of_none hsecond, hrest, swap_cons_of_none hboth]
      | some link =>
        have hboth : (first piece).or (second piece) = some link := by rw [hfirst, hsecond]; rfl
        by_cases hrepeated : before' = some piece
        · subst hrepeated
          obtain rfl : before = none := hone.resolve_right (by simp)
          rw [swap_cons_of_repeated hsecond, hrest]
          exact (swap_cons_of_repeated hboth).symm
        · have hstate : before.or before' ≠ some piece := by
            cases before with
            | some value =>
              rintro ⟨⟩
              simpa [hfirst] using hbefore piece rfl
            | none => exact hrepeated
          rw [swap_cons_of_some hsecond hrepeated, swap_cons_of_some hboth hstate]
          exact congrArg _ (ih (by simp) (by simp [hsecond]) (.inl rfl))

/-! ### One turn on the text -/

/-- The `link?` of the one `value`. -/
def linkFor (value link : Text) (other : Text) : Option Text :=
  if other = value then some link else none

theorem linkFor_self (value link : Text) : linkFor value link value = some link :=
  if_pos rfl

theorem linkFor_of_ne {value link other : Text} (h : other ≠ value) : linkFor value link other = none :=
  if_neg h

/-- `replaceAll` of a quoted value in the text of the pieces is `swap` in the pieces. The second part is
for a text whose first quote is used up. -/
theorem replaceAll_swap {value link last : Text} (hvalue : '"' ∉ value) (hlast : '"' ∉ last)
    {inner : List Text} (h : ∀ piece ∈ inner, '"' ∉ piece) :
    Text.replaceAll (quoted value) (quoted link) (spell (inner ++ [last]))
        = spell (swap (linkFor value link) none inner ++ [last]) ∧
      Text.replaceAll (quoted value) (quoted link) (spell (inner ++ [last])).tail
        = (spell (swap (linkFor value link) (some value) inner ++ [last])).tail := by
  induction inner with
  | nil =>
    -- A spelling has two quotes, and here there is at most one.
    have hnone : ∀ text, text.Sublist (spell [last]) →
        Text.replaceAll (quoted value) (quoted link) text = text := fun text htext => by
      refine Text.replaceAll_of_not_infix _ (by simp [quoted]) fun hwithin => ?_
      have hle := (hwithin.sublist.trans htext).count_le '"'
      simp [quoted, List.count_eq_zero.mpr hlast] at hle
    exact ⟨hnone _ (.refl _), hnone _ (List.tail_sublist _)⟩
  | cons piece inner ih =>
    have hpiece : '"' ∉ piece := h piece (by simp)
    obtain ⟨hopen, hused⟩ := ih fun other hmem => h other (List.mem_cons_of_mem _ hmem)
    have hbehind : ∀ pieces : List Text, spell (pieces ++ [last])
        = '"' :: (spell (pieces ++ [last])).tail := fun pieces => by cases pieces <;> rfl
    constructor
    · by_cases heq : piece = value
      · subst heq
        have htext : spell (piece :: inner ++ [last])
            = '"' :: (piece ++ ['"']) ++ (spell (inner ++ [last])).tail := by
          rw [List.cons_append, spell_cons, hbehind inner]
          simp
        rw [htext, quoted, Text.replaceAll_append, ← quoted, hused,
          swap_cons_of_some (linkFor_self piece link) (by simp), List.cons_append, spell_cons,
          hbehind (swap _ _ _)]
        simp [quoted]
      · have hmiss : ¬(value ++ ['"']) <+: (piece ++ spell (inner ++ [last])) := by
          rw [hbehind inner, append_mark_prefix_iff hvalue hpiece]
          exact Ne.symm heq
        rw [List.cons_append, spell_cons, replaceAll_quoted_miss hpiece _ hmiss, hopen,
          swap_cons_of_none (linkFor_of_ne heq)]
        rfl
    · -- The quote of this piece is used up, so the piece is passed over, whatever it is.
      have hpass : swap (linkFor value link) (some value) (piece :: inner)
          = piece :: swap (linkFor value link) none inner := by
        by_cases heq : piece = value
        · rw [heq]
          exact swap_cons_of_repeated (linkFor_self value link)
        · exact swap_cons_of_none (linkFor_of_ne heq)
      rw [hpass, List.cons_append, spell_cons, List.tail_cons, replaceAll_quoted_pass hpiece, hopen]
      rfl

/-! ### The turns of the entries -/

/-- The `reference` of the entry with that value, if there is one. -/
def referenceFor? (entries : List Entry) (value : Text) : Option Text :=
  (entries.find? fun entry => entry.raw == quoted value).map Entry.reference

/-- What the entries of a `scan` of markup have: values without quotes, none twice, and references
without quotes, told from the values by their first character. -/
structure AreSwappable (entries : List Entry) : Prop where
  nodup : (entries.map Entry.raw).Nodup
  raw : ∀ entry ∈ entries, entry.raw = quoted entry.value
  noQuote : ∀ entry ∈ entries, '"' ∉ entry.value
  isValue : ∀ entry ∈ entries, entry.value.head? ≠ some '@'
  isReference : ∀ entry ∈ entries, entry.reference.head? = some '@'
  noQuoteInside : ∀ entry ∈ entries, '"' ∉ entry.reference

theorem AreSwappable.mono {entries others : List Entry} (h : AreSwappable entries)
    (hsub : others ⊆ entries) (hnodup : (others.map Entry.raw).Nodup) : AreSwappable others where
  nodup := hnodup
  raw entry hmem := h.raw entry (hsub hmem)
  noQuote entry hmem := h.noQuote entry (hsub hmem)
  isValue entry hmem := h.isValue entry (hsub hmem)
  isReference entry hmem := h.isReference entry (hsub hmem)
  noQuoteInside entry hmem := h.noQuoteInside entry (hsub hmem)

theorem AreSwappable.perm {entries others : List Entry} (h : AreSwappable entries)
    (hperm : others.Perm entries) : AreSwappable others :=
  h.mono hperm.subset ((hperm.map Entry.raw).nodup_iff.mpr h.nodup)

theorem AreSwappable.sublist {entries others : List Entry} (h : AreSwappable entries)
    (hsub : others.Sublist entries) : AreSwappable others :=
  h.mono hsub.subset (h.nodup.sublist (hsub.map Entry.raw))

theorem referenceFor?_eq_some_iff {entries : List Entry} (h : AreSwappable entries)
    (value reference : Text) :
    referenceFor? entries value = some reference ↔
      ∃ entry ∈ entries, entry.value = value ∧ entry.reference = reference := by
  rw [referenceFor?, Option.map_eq_some_iff]
  constructor
  · rintro ⟨entry, hfind, href⟩
    have hmem := List.mem_of_find?_eq_some hfind
    have hraw : entry.raw = quoted value := by simpa using List.find?_some hfind
    rw [h.raw entry hmem, quoted_inj] at hraw
    exact ⟨entry, hmem, hraw, href⟩
  · rintro ⟨entry, hmem, rfl, href⟩
    rw [← h.raw entry hmem, find?_raw h.nodup hmem]
    exact ⟨entry, rfl, href⟩

/-- `referenceFor?` does not depend on the order of the entries. -/
theorem referenceFor?_perm {entries others : List Entry} (h : AreSwappable entries)
    (hperm : others.Perm entries) : referenceFor? others = referenceFor? entries := by
  funext value
  refine Option.ext fun reference => ?_
  rw [referenceFor?_eq_some_iff (h.perm hperm), referenceFor?_eq_some_iff h]
  exact exists_congr fun entry => and_congr_left fun _ => hperm.mem_iff

theorem referenceFor?_append {done : List Entry} {entry : Entry}
    (h : entry.raw = quoted entry.value) (value : Text) :
    referenceFor? (done ++ [entry]) value
      = (referenceFor? done value).or (linkFor entry.value entry.reference value) := by
  rw [referenceFor?, List.find?_append, Option.map_or]
  congr 1
  by_cases hvalue : value = entry.value
  · simp [hvalue, h, linkFor_self]
  · simp [h, linkFor_of_ne hvalue, Ne.symm hvalue]

/-- `swap` for the next entry goes together with `swap` for the entries that are `done`. -/
theorem swap_referenceFor? {done rest : List Entry} {entry : Entry}
    (h : AreSwappable (done ++ entry :: rest)) (inner : List Text) :
    swap (linkFor entry.value entry.reference) none (swap (referenceFor? done) none inner)
      = swap (referenceFor? (done ++ [entry])) none inner := by
  have hmem : entry ∈ done ++ entry :: rest := by simp
  have hdone := h.sublist (List.sublist_append_left done (entry :: rest))
  have hboth : referenceFor? (done ++ [entry]) = fun value =>
      (referenceFor? done value).or (linkFor entry.value entry.reference value) :=
    funext (referenceFor?_append (h.raw entry hmem))
  rw [hboth]
  refine swap_swap (fun value link hlink => ?_) (fun value link hlink => ?_) (by simp) (by simp)
    (.inl rfl) inner
  · obtain ⟨other, hother, rfl, -⟩ := (referenceFor?_eq_some_iff hdone value link).mp hlink
    refine linkFor_of_ne fun heq => ?_
    -- Two entries of one value would have one spelling.
    have hraw : other.raw = entry.raw := by
      rw [hdone.raw other hother, h.raw entry hmem, heq]
    have hnodup := h.nodup
    rw [List.map_append, List.map_cons] at hnodup
    exact (List.nodup_append.mp hnodup).2.2 _ (List.mem_map_of_mem hother) _ List.mem_cons_self hraw
  · obtain ⟨other, hother, -, rfl⟩ := (referenceFor?_eq_some_iff hdone value link).mp hlink
    refine linkFor_of_ne fun heq => h.isValue entry hmem ?_
    rw [← heq, hdone.isReference other hother]

/-- `relink` with the `rest` of the entries leads to `swap` for all of them. -/
theorem relink_swap {entries : List Entry} (h : AreSwappable entries) {head last : Text}
    (hhead : '"' ∉ head) (hlast : '"' ∉ last) {inner : List Text} (hinner : ∀ piece ∈ inner, '"' ∉ piece)
    (done rest : List Entry) (hentries : done ++ rest = entries) :
    relink .markup rest (head ++ spell (swap (referenceFor? done) none inner ++ [last]))
      = head ++ spell (swap (referenceFor? entries) none inner ++ [last]) := by
  induction rest generalizing done with
  | nil =>
    rw [List.append_nil] at hentries
    rw [hentries]
    rfl
  | cons entry rest ih =>
    subst hentries
    have hmem : entry ∈ done ++ entry :: rest := by simp
    have hdone := h.sublist (List.sublist_append_left done (entry :: rest))
    -- No turn puts a quote into a piece, so the next one finds pieces again.
    have hpieces : ∀ piece ∈ swap (referenceFor? done) none inner, '"' ∉ piece := by
      intro piece hpiece
      rcases mem_swap hpiece with hpiece | ⟨value, hlink⟩
      · exact hinner piece hpiece
      · obtain ⟨other, hother, -, rfl⟩ := (referenceFor?_eq_some_iff hdone value piece).mp hlink
        exact hdone.noQuoteInside other hother
    have hlink : entry.link .markup = quoted entry.reference := rfl
    show relink .markup rest (Text.replaceAll entry.raw (entry.link .markup)
      (head ++ spell (swap (referenceFor? done) none inner ++ [last]))) = _
    rw [h.raw entry hmem, hlink, replaceAll_quoted_pass hhead,
      (replaceAll_swap (h.noQuote entry hmem) hlast hpieces).1, swap_referenceFor? h,
      ih (done ++ [entry]) (by simp)]

/-- `relink` of markup is one `swap` for all the entries. -/
theorem relink_markup_spell {entries : List Entry} (h : AreSwappable entries) {head last : Text}
    (hhead : '"' ∉ head) (hlast : '"' ∉ last) {inner : List Text}
    (hinner : ∀ piece ∈ inner, '"' ∉ piece) :
    relink .markup entries (head ++ spell (inner ++ [last]))
      = head ++ spell (swap (referenceFor? entries) none inner ++ [last]) := by
  have hnone : ∀ value, referenceFor? [] value = none := fun _ => rfl
  have hturns := relink_swap h hhead hlast hinner [] entries rfl
  rwa [swap_eq_self hnone] at hturns

/-- `relink` leaves markup without quotes as it is. -/
theorem relink_markup_of_notMem {entries : List Entry} (h : AreSwappable entries) {text : Text}
    (htext : '"' ∉ text) : relink .markup entries text = text := by
  refine relink_of_notMem (fun entry hmem => ?_) htext
  rw [h.raw entry hmem]
  exact List.mem_cons_self

/-- `relink` of markup does not depend on the order of the entries. -/
theorem relink_markup_perm {entries others : List Entry} (h : AreSwappable entries)
    (hperm : others.Perm entries) (text : Text) :
    relink .markup others text = relink .markup entries text := by
  obtain ⟨head, pieces, rfl, hhead, hpieces⟩ := exists_spell text
  rcases List.eq_nil_or_concat pieces with rfl | ⟨inner, last, rfl⟩
  · rw [spell_nil, List.append_nil, relink_markup_of_notMem (h.perm hperm) hhead,
      relink_markup_of_notMem h hhead]
  · rw [List.concat_eq_append] at hpieces ⊢
    have hlast : '"' ∉ last := hpieces last (by simp)
    have hinner : ∀ piece ∈ inner, '"' ∉ piece := fun piece hmem => hpieces piece (by simp [hmem])
    rw [relink_markup_spell (h.perm hperm) hhead hlast hinner, relink_markup_spell h hhead hlast hinner,
      referenceFor?_perm h hperm]

end Quotation

/-! ### What becomes of the segments -/

/-- The `reference` that every scheme gives to the `name` of the entry in markup. -/
def Entry.markupReference (entry : Entry) : Text :=
  "@string/".toList ++ entry.name.shown

theorem Entry.markupReference_eq (entry : Entry) :
    entry.markupReference = "@string/".toList ++ entry.name.shown := rfl

/-- A `markupReference` begins with `@`. -/
theorem Entry.head?_markupReference (entry : Entry) : entry.markupReference.head? = some '@' := by
  have hstart : "@string/".toList = '@' :: "string/".toList := by decide
  rw [markupReference_eq, hstart]
  rfl

/-- A `markupReference` holds a quote only if the `name` does. -/
theorem Entry.quote_notMem_markupReference {entry : Entry} (h : Point.char '"' ∉ entry.name) :
    '"' ∉ entry.markupReference := by
  have hstart : '"' ∉ "@string/".toList := by decide
  rw [markupReference_eq, List.mem_append, not_or]
  exact ⟨hstart, Points.notMem_shown (by decide) h⟩

/-- The segments `new` are the segments `old` with values of entries swapped for their
`markupReference`, whole and in their places. The first and the last segment are not between quotes and
stay. Every segment that spells a value is swapped, unless the segment before it spells the same value
and was swapped. -/
structure SwapsValues (entries : List Entry) (old new : List Text) : Prop where
  length : new.length = old.length
  first : new.head? = old.head?
  last : new.getLast? = old.getLast?
  between : ∀ place segment, place + 2 < old.length → old[place + 1]? = some segment →
    new[place + 1]? = some segment ∨
      ∃ entry ∈ entries, entry.value = segment ∧ new[place + 1]? = some entry.markupReference
  swapped : ∀ entry ∈ entries, ∀ place, place + 2 < old.length →
    old[place + 1]? = some entry.value →
      (new[place + 1]? = some entry.markupReference ↔
        ¬(0 < place ∧ old[place]? = some entry.value ∧ new[place]? = some entry.markupReference))

namespace Quotation

section
variable {entries : List Entry} {head last : Text} {inner : List Text}

/-- `swap` by `referenceFor?` in the pieces between the first and the last `SwapsValues`. -/
theorem swapsValues_swap (h : AreSwappable entries)
    (href : ∀ entry ∈ entries, entry.reference = entry.markupReference) :
    SwapsValues entries (head :: (inner ++ [last]))
      (head :: (swap (referenceFor? entries) none inner ++ [last])) := by
  -- The segment at `place + 1` is the piece at `place`: the head comes before the pieces.
  have hlength := length_swap (referenceFor? entries) none inner
  have hplace : ∀ place, place + 2 < (head :: (inner ++ [last])).length → place < inner.length :=
    fun place hlt => by simpa using hlt
  have hold : ∀ place, place < inner.length →
      (head :: (inner ++ [last]))[place + 1]? = inner[place]? := fun place hlt => by
    rw [List.getElem?_cons_succ, List.getElem?_append_left hlt]
  have hnew : ∀ place, place < inner.length →
      (head :: (swap (referenceFor? entries) none inner ++ [last]))[place + 1]?
        = (swap (referenceFor? entries) none inner)[place]? := fun place hlt => by
    rw [List.getElem?_cons_succ, List.getElem?_append_left (hlength ▸ hlt)]
  refine ⟨by simp [hlength], rfl, ?_, fun place segment hlt hsegment => ?_,
    fun entry hmem place hlt hvalue => ?_⟩
  · rw [← List.cons_append, ← List.cons_append, List.getLast?_concat, List.getLast?_concat]
  · have hinner := hplace place hlt
    rw [hold place hinner] at hsegment
    rw [hnew place hinner]
    refine (getElem?_swap hsegment).imp_right ?_
    rintro ⟨link, hlink, hswapped⟩
    obtain ⟨entry, hmem, hvalue, rfl⟩ := (referenceFor?_eq_some_iff h segment link).mp hlink
    exact ⟨entry, hmem, hvalue, href entry hmem ▸ hswapped⟩
  · have hinner := hplace place hlt
    have hlink : referenceFor? entries entry.value = some entry.markupReference :=
      (referenceFor?_eq_some_iff h _ _).mpr ⟨entry, hmem, rfl, href entry hmem⟩
    have hne : entry.markupReference ≠ entry.value := fun heq => by
      refine h.isValue entry hmem ?_
      rw [← heq, ← href entry hmem, h.isReference entry hmem]
    rw [hold place hinner] at hvalue
    rw [hnew place hinner]
    cases place with
    | zero => simp [getElem?_swap_first hlink hvalue]
    | succ place =>
      have hbefore : place < inner.length := Nat.lt_of_succ_lt hinner
      rw [hold place hbefore, hnew place hbefore, getElem?_swap_next hlink hne hvalue]
      simp

end

/-- `relink` of markup `SwapsValues` between the quotes of the text. -/
theorem relink_markup_swaps {entries : List Entry} (h : AreSwappable entries)
    (href : ∀ entry ∈ entries, entry.reference = entry.markupReference) (text : Text) :
    SwapsValues entries (text.splitOn '"') ((relink .markup entries text).splitOn '"') := by
  obtain ⟨head, pieces, rfl, hhead, hpieces⟩ := exists_spell text
  rcases List.eq_nil_or_concat pieces with rfl | ⟨inner, last, rfl⟩
  · rw [spell_nil, List.append_nil, relink_markup_of_notMem h hhead, List.splitOn_eq_singleton hhead]
    exact ⟨rfl, rfl, rfl, by simp, by simp⟩
  · rw [List.concat_eq_append] at hpieces ⊢
    have hlast : '"' ∉ last := hpieces last (by simp)
    have hinner : ∀ piece ∈ inner, '"' ∉ piece := fun piece hmem => hpieces piece (by simp [hmem])
    have hswapped : ∀ piece ∈ swap (referenceFor? entries) none inner ++ [last], '"' ∉ piece := by
      intro piece hmem
      rcases List.mem_append.mp hmem with hmem | hmem
      · rcases mem_swap hmem with hmem | ⟨value, hlink⟩
        · exact hinner piece hmem
        · obtain ⟨entry, hentry, -, rfl⟩ := (referenceFor?_eq_some_iff h value piece).mp hlink
          exact h.noQuoteInside entry hentry
      · exact List.mem_singleton.mp hmem ▸ hlast
    rw [relink_markup_spell h hhead hlast hinner, splitOn_spell hhead hpieces,
      splitOn_spell hhead hswapped]
    exact swapsValues_swap h href

end Quotation

/-! ### The entries of a scan -/

section
variable {scheme : NameScheme} {text : Text} {count : Int} {result : Scan}

/-- The entries of a `scan` of markup are `AreSwappable`, if their names hold no quote. -/
theorem areSwappable_of_scan (h : scan scheme .markup text count = .ok result)
    (hnames : ∀ entry ∈ result.entries, Point.char '"' ∉ entry.name) :
    Quotation.AreSwappable result.entries ∧
      ∀ entry ∈ result.entries, entry.reference = entry.markupReference := by
  have href : ∀ entry ∈ result.entries, entry.reference = entry.markupReference :=
    fun entry hmem => scan_reference h hmem
  have hvalue : ∀ entry ∈ result.entries, entry.raw = quoted entry.value ∧ '"' ∉ entry.value ∧
      entry.value.head? ≠ some '@' := by
    intro entry hmem
    obtain ⟨literal, hliteral, -, hraw⟩ :=
      (mem_raws_of_scan h entry.raw).mp (List.mem_map_of_mem hmem)
    obtain ⟨value, hquoted, hquote, -, -, hat⟩ := exists_value_of_mem_literals hliteral
    have heq : entry.value = value := by rw [Entry.value, ← hraw, hquoted, unquoted_quoted]
    rw [heq, ← hraw]
    exact ⟨hquoted, hquote, hat rfl⟩
  refine ⟨?_, href⟩
  exact {
    nodup := nodup_raws_of_scan h
    raw := fun entry hmem => (hvalue entry hmem).1
    noQuote := fun entry hmem => (hvalue entry hmem).2.1
    isValue := fun entry hmem => (hvalue entry hmem).2.2
    isReference := fun entry hmem => href entry hmem ▸ entry.head?_markupReference
    noQuoteInside := fun entry hmem =>
      href entry hmem ▸ Entry.quote_notMem_markupReference (hnames entry hmem) }

end

/-- Take a `scan` of markup with no quote in the names of its entries. Split at its quotes, what `relink`
makes of the text is the text as `SwapsValues` changes it: values of entries are swapped whole for their
references. `relink` comes to the same with the entries in any other order. -/
theorem relink_markup_swaps_values {scheme : NameScheme} {text : Text} {count : Int} {result : Scan}
    (hscan : scan scheme .markup text count = .ok result)
    (hnames : ∀ entry ∈ result.entries, Point.char '"' ∉ entry.name) :
    SwapsValues result.entries (text.splitOn '"') ((relink .markup result.entries text).splitOn '"') ∧
      ∀ others : List Entry, others.Perm result.entries →
        relink .markup others text = relink .markup result.entries text := by
  obtain ⟨hswappable, href⟩ := areSwappable_of_scan hscan hnames
  exact ⟨Quotation.relink_markup_swaps hswappable href text,
    fun others hperm => Quotation.relink_markup_perm hswappable hperm text⟩

/-- `relink_markup_swaps_values` at two equal values next to each other, of which the first is swapped,
and at a value that is swapped where it is the value of no attribute as well. -/
theorem relink_markup_swaps_values_repeated :
    let text := "<a android:text=\"x\"x\"y\" android:hint=\"y\"/>".toList
    let entries : List Entry :=
      [⟨Points.ofText "extracted_string1".toList, "\"x\"".toList, "@string/extracted_string1".toList⟩,
        ⟨Points.ofText "extracted_string2".toList, "\"y\"".toList, "@string/extracted_string2".toList⟩]
    ∃ scheme result, NameScheme.build none none false = .ok scheme ∧
      scan scheme .markup text 0 = .ok result ∧ result.entries = entries ∧
      (∀ entry ∈ entries, Point.char '"' ∉ entry.name) ∧
      SwapsValues entries
        (["<a android:text=", "x", "x", "y", " android:hint=", "y", "/>"].map String.toList)
        (["<a android:text=", "@string/extracted_string1", "x", "@string/extracted_string2",
          " android:hint=", "@string/extracted_string2", "/>"].map String.toList) ∧
      relink .markup entries.reverse text = relink .markup entries text := by
  intro text entries
  have hbuild : NameScheme.build none none false
      = .ok ⟨NameScheme.defaultStem, NameScheme.defaultEnding, false⟩ := rfl
  obtain ⟨result, hscan, hentries⟩ : ∃ result,
      scan ⟨NameScheme.defaultStem, NameScheme.defaultEnding, false⟩ .markup text 0 = .ok result ∧
        result.entries = entries := exists_scan_of_entries (by decide +kernel)
  have hnames : ∀ entry ∈ entries, Point.char '"' ∉ entry.name := by decide +kernel
  obtain ⟨hswaps, hperm⟩ := relink_markup_swaps_values hscan (hentries ▸ hnames)
  rw [hentries] at hswaps hperm
  have hold : text.splitOn '"'
      = ["<a android:text=", "x", "x", "y", " android:hint=", "y", "/>"].map String.toList := by
    decide +kernel
  have hnew : (relink .markup entries text).splitOn '"'
      = ["<a android:text=", "@string/extracted_string1", "x", "@string/extracted_string2",
          " android:hint=", "@string/extracted_string2", "/>"].map String.toList := by
    decide +kernel
  rw [hold, hnew] at hswaps
  exact ⟨_, result, hbuild, hscan, hentries, hnames, hswaps, hperm _ (List.reverse_perm _)⟩

end Externalize
