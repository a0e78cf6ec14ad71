import Externalize.Proofs.Source.Quotation

/-!
# `Externalize.Proofs.Source.Stretch`: code on the way from literals to links

A text some of whose literals gave way to links is a list of `Stretch`es, of quotes that still stand
and of links. Replacing one spelling in the text is `replaceValue` on the stretches
(`replaceAll_render`), and stretches of the same pieces have the same text only if they are the same
(`render_inj`).

`linked k` has the literals that rank below `k` linked where they stand. Replacing the value that
ranks `k` leads from there to `linked (k + 1)` unless a gap is captured, which is when the value
stands between a literal and a quote that are both still there: `replaceValue_linked`. A gap that was
captured is never given back: `not_extends_of_capturedAt`.
-/

set_option autoImplicit false

namespace Externalize.Quotation

/-- A part of a text some of whose literals gave way to links. -/
inductive Stretch
  /-- A quote that still stands, and the piece behind it. -/
  | quote (piece : Text)
  /-- The link of a value, and the piece behind it. -/
  | link (value after : Text)
  deriving DecidableEq

namespace Stretch

/-- The characters of a stretch, where `ref` gives the link of a value. -/
def text (ref : Text → Text) : Stretch → Text
  | .quote piece => '"' :: piece
  | .link value after => ref value ++ after

/-- The pieces between the quotes that a stretch goes back to. -/
def pieces : Stretch → List Text
  | .quote piece => [piece]
  | .link value after => [value, after]

end Stretch

/-- The characters of the stretches, one behind the other. -/
def render (ref : Text → Text) (stretches : List Stretch) : Text :=
  stretches.flatMap (Stretch.text ref)

@[simp]
theorem render_nil (ref : Text → Text) : render ref [] = [] := rfl

@[simp]
theorem render_cons (ref : Text → Text) (stretch : Stretch) (rest : List Stretch) :
    render ref (stretch :: rest) = stretch.text ref ++ render ref rest := rfl

/-- The stretches with a `link` for each occurrence of the `value` between two quotes, from left to
right. -/
def replaceValue (value : Text) : List Stretch → List Stretch
  | [] => []
  | .link v after :: rest => .link v after :: replaceValue value rest
  | [.quote piece] => [.quote piece]
  | .quote piece :: .link v after :: rest =>
    .quote piece :: replaceValue value (.link v after :: rest)
  | .quote piece :: .quote next :: rest =>
    if piece = value then .link value next :: replaceValue value rest
    else .quote piece :: replaceValue value (.quote next :: rest)

/-- `replaceValue` keeps the `pieces`. -/
theorem pieces_replaceValue (value : Text) (stretches : List Stretch) :
    (replaceValue value stretches).flatMap Stretch.pieces = stretches.flatMap Stretch.pieces := by
  fun_induction replaceValue value stretches with
  | case1 => rfl
  | case2 v after rest ih => simp [ih]
  | case3 piece => rfl
  | case4 piece v after rest ih => simpa using ih
  | case5 next rest ih => simp [ih, Stretch.pieces]
  | case6 piece next rest hne ih => simpa using ih

/-! ### Texts and stretches -/

/-- `replaceAll` of a quoted value passes over a stretch without quotes. -/
theorem replaceAll_quoted_pass {stretch : Text} (h : '"' ∉ stretch) (value new rest : Text) :
    Text.replaceAll (quoted value) new (stretch ++ rest)
      = stretch ++ Text.replaceAll (quoted value) new rest :=
  Text.replaceAll_append_of_not_mem _ _ _ h

/-- `replaceAll` of a quoted value keeps a quote that does not open it, with the `piece` behind it. -/
theorem replaceAll_quoted_miss {piece value text : Text} (hpiece : '"' ∉ piece) (new : Text)
    (h : ¬(value ++ ['"']) <+: (piece ++ text)) :
    Text.replaceAll (quoted value) new ('"' :: (piece ++ text))
      = '"' :: (piece ++ Text.replaceAll (quoted value) new text) := by
  have hstart : ¬('"' :: (value ++ ['"'])) <+: ('"' :: (piece ++ text)) := by
    rw [List.cons_prefix_cons]
    exact fun hp => h hp.2
  rw [← replaceAll_quoted_pass hpiece]
  exact Text.replaceAll_cons_of_miss new hstart

section
variable {ref : Text → Text} {mark : Text}

/-- `replaceAll` of a quoted value in `render` is `replaceValue` in the stretches. The `mark` keeps a
value from reaching over a link: every link holds it, and the value does not. -/
theorem replaceAll_render (hquote : ∀ v, '"' ∉ ref v) (hmark : ∀ v, mark <:+: ref v)
    {value : Text} (hvalue : '"' ∉ value) (hfree : ¬mark <:+: value) {stretches : List Stretch}
    (h : ∀ piece ∈ stretches.flatMap Stretch.pieces, '"' ∉ piece) :
    Text.replaceAll (quoted value) (ref value) (render ref stretches)
      = render ref (replaceValue value stretches) := by
  fun_induction replaceValue value stretches with
  | case1 => rfl
  | case2 v after rest ih =>
    have hafter : '"' ∉ ref v ++ after := by
      simp [hquote, h after (by simp [Stretch.pieces])]
    rw [render_cons, render_cons, Stretch.text, replaceAll_quoted_pass hafter,
      ih fun piece hpiece => h piece (by simp_all)]
  | case3 piece =>
    have hpiece : '"' ∉ piece := h piece (by simp [Stretch.pieces])
    refine Text.replaceAll_of_not_infix _ (by simp [quoted]) fun hwithin => ?_
    -- The spelling holds two quotes, and the text only one.
    have hcount := hwithin.sublist.count_le '"'
    simp [quoted, render, Stretch.text, List.count_eq_zero.mpr hpiece] at hcount
  | case4 piece v after rest ih =>
    have hpiece : '"' ∉ piece := h piece (by simp [Stretch.pieces])
    have hlink : '"' ∉ piece ++ ref v := by simp [hpiece, hquote]
    -- A value that went on from here to a quote would hold the whole link, and with it the mark.
    have hmiss : ¬(value ++ ['"']) <+: (piece ++ render ref (.link v after :: rest)) := by
      intro hp
      rw [render_cons, Stretch.text, List.append_assoc, ← List.append_assoc] at hp
      have hover := (prefix_of_append_mark hlink hp).isInfix
      exact hfree (((hmark v).trans ⟨piece, [], by simp⟩).trans hover)
    rw [render_cons, Stretch.text, List.cons_append, replaceAll_quoted_miss hpiece _ hmiss,
      ih fun piece' hpiece' => h piece' (by simp_all)]
    rfl
  | case5 next rest ih =>
    have hnext : '"' ∉ next := h next (by simp [Stretch.pieces])
    -- The two quotes and the value between them are the spelling.
    have htext : render ref (.quote value :: .quote next :: rest)
        = '"' :: (value ++ ['"']) ++ (next ++ render ref rest) := by
      simp [Stretch.text]
    rw [htext, quoted, Text.replaceAll_append, ← quoted, replaceAll_quoted_pass hnext,
      ih fun piece' hpiece' => h piece' (by simp_all), render_cons, Stretch.text,
      List.append_assoc]
  | case6 piece next rest hne ih =>
    have hpiece : '"' ∉ piece := h piece (by simp [Stretch.pieces])
    have hmiss : ¬(value ++ ['"']) <+: (piece ++ render ref (.quote next :: rest)) := by
      rw [render_cons, Stretch.text, List.cons_append, append_mark_prefix_iff hvalue hpiece]
      exact Ne.symm hne
    rw [render_cons, Stretch.text, List.cons_append, replaceAll_quoted_miss hpiece _ hmiss,
      ih fun piece' hpiece' => h piece' (by simp_all)]
    rfl

/-- No link begins with a quote. -/
theorem quote_cons_ne_link (hquote : ∀ v, '"' ∉ ref v) (hmark : ∀ v, mark <:+: ref v)
    (hne : mark ≠ []) (v rest more : Text) : '"' :: rest ≠ ref v ++ more := by
  intro h
  cases hv : ref v with
  | nil => exact hne (List.infix_nil.mp (hv ▸ hmark v))
  | cons c cs =>
    rw [hv, List.cons_append, List.cons.injEq] at h
    exact hquote v (by rw [hv, ← h.1]; exact List.mem_cons_self)

/-- `render` gives stretches of the same `pieces` different texts. -/
theorem render_inj (hquote : ∀ v, '"' ∉ ref v) (hmark : ∀ v, mark <:+: ref v) (hne : mark ≠ [])
    {xs ys : List Stretch}
    (hpieces : xs.flatMap Stretch.pieces = ys.flatMap Stretch.pieces) :
    render ref xs = render ref ys ↔ xs = ys := by
  refine ⟨fun h => ?_, fun h => h ▸ rfl⟩
  induction xs generalizing ys with
  | nil =>
    cases ys with
    | nil => rfl
    | cons y ys => cases y <;> simp [Stretch.pieces] at hpieces
  | cons x xs ih =>
    cases ys with
    | nil => cases x <;> simp [Stretch.pieces] at hpieces
    | cons y ys =>
      rw [render_cons, render_cons] at h
      cases x with
      | quote piece =>
        cases y with
        | quote piece' =>
          simp only [List.flatMap_cons, Stretch.pieces, List.cons_append, List.nil_append,
            List.cons.injEq] at hpieces
          obtain ⟨rfl, hpieces⟩ := hpieces
          rw [ih hpieces (List.append_cancel_left h)]
        | link v after =>
          rw [Stretch.text, Stretch.text, List.cons_append, List.append_assoc] at h
          -- The texts part at the first character: a quote here and none there.
          exact absurd h (quote_cons_ne_link hquote hmark hne _ _ _)
      | link v after =>
        cases y with
        | quote piece' =>
          rw [Stretch.text, Stretch.text, List.cons_append, List.append_assoc] at h
          exact absurd h.symm (quote_cons_ne_link hquote hmark hne _ _ _)
        | link v' after' =>
          simp only [List.flatMap_cons, Stretch.pieces, List.cons_append, List.nil_append,
            List.cons.injEq] at hpieces
          obtain ⟨rfl, rfl, hpieces⟩ := hpieces
          rw [ih hpieces (List.append_cancel_left h)]

end

/-! ### Literals linked in place -/

/-- The stretches of the `pieces` with a `link` for each literal whose value has a `rank` below `k`. -/
def linked (rank : Text → Nat) (k : Nat) : List Text → List Stretch
  | [] => []
  | [piece] => [.quote piece]
  | value :: after :: rest =>
    if '\n' ∈ value then .quote value :: linked rank k (after :: rest)
    else if rank value < k then .link value after :: linked rank k rest
    else .quote value :: .quote after :: linked rank k rest

/-- The value of rank `k` stands in a gap: behind a literal of a higher rank, and before a quote that is
still there in `linked rank k`. -/
def CapturedAt (rank : Text → Nat) (k : Nat) : List Text → Prop
  | [] => False
  | [_] => False
  | value :: after :: rest =>
    if '\n' ∈ value then CapturedAt rank k (after :: rest)
    else (k < rank value ∧ rank after = k ∧ ∃ next more, linked rank k rest = .quote next :: more) ∨
      CapturedAt rank k rest

/-- The second list has the links of the first, and may have more. -/
inductive Extends : List Stretch → List Stretch → Prop
  | nil : Extends [] []
  | keep (x : Stretch) {xs ys : List Stretch} (h : Extends xs ys) : Extends (x :: xs) (x :: ys)
  | link (value after : Text) {xs ys : List Stretch} (h : Extends xs ys) :
    Extends (.quote value :: .quote after :: xs) (.link value after :: ys)

namespace Extends

theorem refl (xs : List Stretch) : Extends xs xs := by
  induction xs with
  | nil => exact .nil
  | cons x xs ih => exact .keep x ih

theorem trans {xs ys zs : List Stretch} (h : Extends xs ys) (h' : Extends ys zs) :
    Extends xs zs := by
  induction h' generalizing xs with
  | nil => exact h
  | keep z _ ih =>
    cases h with
    | keep _ h => exact .keep z (ih h)
    | link value after h => exact .link value after (ih h)
  | link value after _ ih =>
    cases h with
    | keep _ h =>
      cases h with
      | keep _ h => exact .link value after (ih h)

theorem of_replaceValue (value : Text) (xs : List Stretch) :
    Extends xs (replaceValue value xs) := by
  fun_induction replaceValue value xs with
  | case1 => exact .nil
  | case2 v after rest ih => exact .keep _ ih
  | case3 piece => exact refl _
  | case4 piece v after rest ih => exact .keep _ ih
  | case5 next rest ih => exact .link _ _ ih
  | case6 piece next rest hne ih => exact .keep _ ih

theorem of_cons {x : Stretch} {xs ys : List Stretch} (h : Extends (x :: xs) (x :: ys)) :
    Extends xs ys := by
  cases h with
  | keep _ h => exact h

/-- `Extends` makes a `link` of two quotes. -/
theorem of_link {value after : Text} {x : Stretch} {xs ys : List Stretch}
    (h : Extends (.quote value :: x :: xs) (.link value after :: ys)) :
    x = .quote after ∧ Extends xs ys := by
  cases h with
  | link _ _ h => exact ⟨rfl, h⟩

/-- `Extends` keeps a `link`. -/
theorem not_link_quote {value after piece : Text} {xs ys : List Stretch} :
    ¬Extends (.link value after :: xs) (.quote piece :: ys) := by
  intro h
  cases h

end Extends

section
variable {rank : Text → Nat} {k : Nat}

theorem pieces_linked (rank : Text → Nat) (k : Nat) (pieces : List Text) :
    (linked rank k pieces).flatMap Stretch.pieces = pieces := by
  fun_induction linked rank k pieces with
  | case1 => rfl
  | case2 piece => rfl
  | case3 value after rest hfeed ih => simp [ih, Stretch.pieces]
  | case4 value after rest hfeed hrank ih => simp [ih, Stretch.pieces]
  | case5 value after rest hfeed hrank ih => simp [ih, Stretch.pieces]

/-- `linked` of rank zero leaves every quote. -/
theorem linked_zero (rank : Text → Nat) (pieces : List Text) :
    linked rank 0 pieces = pieces.map .quote := by
  fun_induction linked rank 0 pieces with
  | case1 => rfl
  | case2 piece => rfl
  | case3 value after rest hfeed ih => rw [ih]; rfl
  | case4 value after rest hfeed hrank ih => exact absurd hrank (Nat.not_lt_zero _)
  | case5 value after rest hfeed hrank ih => rw [ih]; rfl

/-- `replaceValue` keeps a quote, unless the value stands behind it and then a quote. -/
theorem replaceValue_quote {value piece : Text} {xs : List Stretch}
    (h : ¬(piece = value ∧ ∃ next more, xs = .quote next :: more)) :
    replaceValue value (.quote piece :: xs) = .quote piece :: replaceValue value xs := by
  match xs with
  | [] => rfl
  | .link v after :: rest => rfl
  | .quote next :: rest =>
    have hne : piece ≠ value := fun heq => h ⟨heq, next, rest, rfl⟩
    rw [replaceValue, if_neg hne]

/-- `replaceValue` of the value of rank `k` leads from `linked rank k` to `linked rank (k + 1)`, unless
a gap is `CapturedAt` this turn. -/
theorem replaceValue_linked {value : Text} (hvalue : ∀ v, rank v = k ↔ v = value)
    (hfeed : '\n' ∉ value) {pieces : List Text} (h : ¬CapturedAt rank k pieces) :
    replaceValue value (linked rank k pieces) = linked rank (k + 1) pieces := by
  fun_induction linked rank (k + 1) pieces with
  | case1 => rfl
  | case2 piece => rfl
  | case3 first after rest hfeed' ih =>
    have hne : first ≠ value := fun heq => hfeed (heq ▸ hfeed')
    rw [CapturedAt, if_pos hfeed'] at h
    rw [linked, if_pos hfeed', replaceValue_quote fun hx => hne hx.1, ih h]
  | case4 first after rest hfeed' hrank ih =>
    rw [CapturedAt, if_neg hfeed', not_or] at h
    rw [linked, if_neg hfeed']
    by_cases hk : rank first < k
    · rw [if_pos hk, replaceValue, ih h.2]
    · have heq : first = value := (hvalue first).mp (by omega)
      rw [if_neg hk, replaceValue, if_pos heq, ih h.2, heq]
  | case5 first after rest hfeed' hrank ih =>
    have hne : first ≠ value := fun heq => hrank ((hvalue first).mpr heq ▸ Nat.lt_succ_self k)
    rw [CapturedAt, if_neg hfeed', not_or] at h
    -- Neither the literal nor its gap is the value, so both quotes stay.
    have hgap : ¬(after = value ∧ ∃ next more, linked rank k rest = .quote next :: more) :=
      fun hx => h.1 ⟨by omega, (hvalue after).mpr hx.1, hx.2⟩
    rw [linked, if_neg hfeed', if_neg (by omega), replaceValue_quote fun hx => hne hx.1,
      replaceValue_quote hgap, ih h.2]

/-- `replaceValue` at a turn with `CapturedAt` links what is no literal. So what it gives never
`Extends` to the literals `linked` in place. -/
theorem not_extends_of_capturedAt {value : Text} (hvalue : ∀ v, rank v = k ↔ v = value)
    (hfeed : '\n' ∉ value) {last : Nat} (hlast : k < last) {pieces : List Text}
    (h : CapturedAt rank k pieces) :
    ¬Extends (replaceValue value (linked rank k pieces)) (linked rank last pieces) := by
  intro hext
  fun_induction CapturedAt rank k pieces with
  | case1 => exact h
  | case2 piece => exact h
  | case3 first after rest hfeed' ih =>
    have hne : first ≠ value := fun heq => hfeed (heq ▸ hfeed')
    rw [linked, if_pos hfeed', replaceValue_quote fun hx => hne hx.1, linked, if_pos hfeed'] at hext
    exact ih h hext.of_cons
  | case4 first after rest hfeed' ih =>
    rw [linked, if_neg hfeed', linked, if_neg hfeed'] at hext
    by_cases hk : rank first ≤ k
    · -- The literal is linked by now, and its gap cannot be captured any more.
      have hstep : replaceValue value (if rank first < k then .link first after :: linked rank k rest
          else .quote first :: .quote after :: linked rank k rest)
            = .link first after :: replaceValue value (linked rank k rest) := by
        split
        · rw [replaceValue]
        · have heq : first = value := (hvalue first).mp (by omega)
          rw [replaceValue, if_pos heq, heq]
      rw [hstep, if_pos (by omega)] at hext
      exact ih (h.resolve_left fun hgap => by omega) hext.of_cons
    · have hne : first ≠ value := fun heq => hk (Nat.le_of_eq ((hvalue first).mpr heq))
      rw [if_neg (by omega), replaceValue_quote fun hx => hne hx.1] at hext
      by_cases hgap : after = value ∧ ∃ next more, linked rank k rest = .quote next :: more
      -- The gap is linked here, and in place it is not: either its first quote went with the literal, or
      -- it is a quote for good.
      · obtain ⟨rfl, next, more, hnext⟩ := hgap
        rw [hnext, replaceValue, if_pos rfl] at hext
        split at hext
        · exact absurd hext.of_link.1 (by simp)
        · exact Extends.not_link_quote hext.of_cons
      · have hrest : CapturedAt rank k rest :=
          h.resolve_left fun hx => hgap ⟨(hvalue after).mp hx.2.1, hx.2.2⟩
        rw [replaceValue_quote hgap] at hext
        split at hext
        · exact ih hrest hext.of_link.2
        · exact ih hrest hext.of_cons.of_cons

end

end Externalize.Quotation
