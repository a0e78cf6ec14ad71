import Externalize.Text.Basic

/-!
# `Externalize.Proofs.Text.Segments`: walking a text along the matches of a rule

Replacing is a walk over the segments of a text, so it obeys the equations of the walk: a match at
the head gives way to the replacement (`replaceAll_append`), any other character stays
(`replaceAll_cons_of_miss`), and a stretch without the first character of what is sought is
passed over whole (`replaceAll_append_of_not_mem`).

What is left when matches are dropped is part of the text, and all of it exactly if there are none
(`replaceHits_nil_eq_iff`). A rule that does not look past some mark works on each side of it alone:
`Rule.Ignores` names what that takes, and `segments_append` cuts the walk there.
-/

set_option autoImplicit false

namespace Externalize

/-! ### Prefixes -/

/-- `a` with a `mark` behind it is a prefix of `b` with a mark behind it exactly if `a = b`, where
neither holds the mark. -/
theorem append_mark_prefix_iff {mark : Char} {a b rest : Text} (ha : mark ∉ a) (hb : mark ∉ b) :
    (a ++ [mark]) <+: (b ++ mark :: rest) ↔ a = b := by
  induction a generalizing b with
  | nil =>
    cases b with
    | nil => simp
    | cons d b =>
      have hd : mark ≠ d := fun h => hb (by simp [h])
      simp [hd]
  | cons c a ih =>
    have hc : c ≠ mark := fun h => ha (by simp [h])
    have ha' : mark ∉ a := fun h => ha (by simp [h])
    cases b with
    | nil => simp [hc]
    | cons d b =>
      have hb' : mark ∉ b := fun h => hb (by simp [h])
      simp only [List.cons_append, List.cons_prefix_cons, ih ha' hb', List.cons.injEq]

/-- `b` is a prefix of `a`, if `a` with a `mark` is a prefix of a text that begins with `b`, and `b`
does not hold the mark. -/
theorem prefix_of_append_mark {mark : Char} {a b rest : Text} (hb : mark ∉ b)
    (h : (a ++ [mark]) <+: (b ++ rest)) : b <+: a := by
  induction b generalizing a with
  | nil => exact List.nil_prefix
  | cons d b ih =>
    have hd : mark ≠ d := fun h => hb (by simp [h])
    have hb' : mark ∉ b := fun h => hb (by simp [h])
    cases a with
    | nil => simp [hd] at h
    | cons c a =>
      rw [List.cons_append, List.cons_append, List.cons_prefix_cons] at h
      rw [List.cons_prefix_cons]
      exact ⟨h.1.symm, ih hb' h.2⟩

/-- A text that does not hold the `mark` cannot reach past one. -/
theorem prefix_append_mark_iff {mark : Char} {a : Text} (ha : mark ∉ a) (b rest : Text) :
    a <+: (b ++ mark :: rest) ↔ a <+: b := by
  induction a generalizing b with
  | nil => simp
  | cons c a ih =>
    have hc : c ≠ mark := fun h => ha (by simp [h])
    have ha' : mark ∉ a := fun h => ha (by simp [h])
    cases b with
    | nil => simp [hc]
    | cons d b => simp only [List.cons_append, List.cons_prefix_cons, ih ha']

/-- A needle that begins with a `mark` and holds it nowhere else lies on one side of a mark. -/
theorem infix_append_mark {mark : Char} {tail a b : Text} (htail : mark ∉ tail)
    (h : (mark :: tail) <:+: (a ++ mark :: b)) :
    (mark :: tail) <:+: a ∨ (mark :: tail) <:+: (mark :: b) := by
  rcases List.infix_append_iff_ne_nil.mp h with h | h | ⟨left, right, hleft, hright, heq, -, hstart⟩
  · exact .inl h
  · exact .inr h
  -- A needle across the mark would have it in its tail.
  · obtain ⟨c, left, rfl⟩ := List.exists_cons_of_ne_nil hleft
    obtain ⟨d, right, rfl⟩ := List.exists_cons_of_ne_nil hright
    obtain ⟨rfl, htail'⟩ := List.cons.inj heq
    obtain rfl : d = mark := (List.cons_prefix_cons.mp hstart).1
    exact absurd (by simp [htail']) htail

/-- A needle that begins with a `mark` is not met in a `stretch` without the mark. -/
theorem infix_append_of_notMem {mark : Char} {tail stretch rest : Text} (hstretch : mark ∉ stretch)
    (h : (mark :: tail) <:+: (stretch ++ rest)) : (mark :: tail) <:+: rest := by
  rcases List.infix_append_iff_ne_nil.mp h with h | h | ⟨left, right, hleft, -, heq, hsuffix, -⟩
  · exact absurd (h.subset (by simp)) hstretch
  · exact h
  -- A needle that begins in the stretch has its mark there.
  · obtain ⟨c, left, rfl⟩ := List.exists_cons_of_ne_nil hleft
    obtain ⟨rfl, -⟩ := List.cons.inj heq
    exact absurd (hsuffix.subset (by simp)) hstretch

namespace Text

/-! ### The equations of replacing -/

theorem literally_append (needle rest : Text) :
    literally needle (needle ++ rest) = some (needle.length - 1) := by
  simp [literally]

theorem literally_eq_none_iff {needle text : Text} :
    literally needle text = none ↔ ¬needle <+: text := by
  simp [literally]

/-- `segments` of a text where `rule` matches nowhere: the characters, each `plain`. -/
theorem segments_of_none {rule : Rule} {text : Text}
    (h : ∀ c rest, (c :: rest) <:+ text → rule (c :: rest) = none) :
    segments rule text = text.map .plain := by
  induction text with
  | nil => rfl
  | cons c text ih =>
    rw [segments_cons_of_none (h c text (List.suffix_refl _)),
      ih fun d rest hsuffix => h d rest (hsuffix.trans (List.suffix_cons c text))]
    rfl

/-- `segments` of a text of which `rule` matches the stretch `found`: a `hit`, and the segments of the
`rest`. -/
theorem segments_append_of_some {rule : Rule} {found rest : Text} {more : Nat}
    (h : rule (found ++ rest) = some more) (hlength : found.length = more + 1) :
    segments rule (found ++ rest) = .hit found :: segments rule rest := by
  cases found with
  | nil => simp at hlength
  | cons c found =>
    obtain rfl : found.length = more := by simpa using hlength
    rw [List.cons_append] at h ⊢
    rw [segments_cons_of_some h, List.take_left, List.drop_left]

/-- `replaceHits` leaves a text as it is, if `rule` matches nowhere. -/
theorem replaceHits_of_none {rule : Rule} {text : Text} (replacement : Text)
    (h : ∀ c rest, (c :: rest) <:+ text → rule (c :: rest) = none) :
    replaceHits rule replacement text = text := by
  rw [replaceHits, segments_of_none h, List.flatMap_map]
  exact List.flatMap_singleton' text

theorem replaceHits_cons_of_none {rule : Rule} {c : Char} {rest : Text} (replacement : Text)
    (h : rule (c :: rest) = none) :
    replaceHits rule replacement (c :: rest) = c :: replaceHits rule replacement rest := by
  rw [replaceHits, segments_cons_of_none h]
  rfl

theorem replaceHits_cons_of_some {rule : Rule} {c : Char} {rest : Text} {more : Nat}
    (replacement : Text) (h : rule (c :: rest) = some more) :
    replaceHits rule replacement (c :: rest)
      = replacement ++ replaceHits rule replacement (rest.drop more) := by
  rw [replaceHits, segments_cons_of_some h]
  rfl

/-- `replaceAll` puts `new` for the needle, and goes on behind it. -/
theorem replaceAll_append (first : Char) (needle new rest : Text) :
    replaceAll (first :: needle) new (first :: needle ++ rest)
      = new ++ replaceAll (first :: needle) new rest := by
  have h := literally_append (first :: needle) rest
  rw [List.cons_append] at h ⊢
  rw [replaceAll, replaceHits_cons_of_some new h]
  simp [replaceAll]

/-- `replaceAll` keeps a character at which the needle does not begin. -/
theorem replaceAll_cons_of_miss {first c : Char} {needle rest : Text} (new : Text)
    (h : ¬(first :: needle) <+: (c :: rest)) :
    replaceAll (first :: needle) new (c :: rest) = c :: replaceAll (first :: needle) new rest := by
  rw [replaceAll, replaceHits_cons_of_none new (literally_eq_none_iff.mpr h)]
  rfl

/-- `segments` passes over a `stretch` at whose characters `rule` never matches. -/
theorem segments_append_of_none {rule : Rule} {stretch : Text}
    (h : ∀ c ∈ stretch, ∀ rest, rule (c :: rest) = none) (rest : Text) :
    segments rule (stretch ++ rest) = stretch.map .plain ++ segments rule rest := by
  induction stretch with
  | nil => rfl
  | cons c stretch ih =>
    rw [List.cons_append, segments_cons_of_none (h c (by simp) _),
      ih fun d hd => h d (by simp [hd])]
    rfl

theorem replaceHits_append_of_none {rule : Rule} {stretch : Text}
    (h : ∀ c ∈ stretch, ∀ rest, rule (c :: rest) = none) (new rest : Text) :
    replaceHits rule new (stretch ++ rest) = stretch ++ replaceHits rule new rest := by
  rw [replaceHits, segments_append_of_none h, List.flatMap_append, List.flatMap_map]
  exact congrArg (· ++ _) (List.flatMap_singleton' stretch)

/-- `replaceAll` passes over a `stretch` without the `first` character of the needle. -/
theorem replaceAll_append_of_not_mem {first : Char} {stretch : Text} (needle new rest : Text)
    (h : first ∉ stretch) :
    replaceAll (first :: needle) new (stretch ++ rest)
      = stretch ++ replaceAll (first :: needle) new rest := by
  refine replaceHits_append_of_none (fun c hc behind => literally_eq_none_iff.mpr ?_) new rest
  intro hp
  have hfirst : first = c := (List.cons_prefix_cons.mp hp).1
  exact h (hfirst ▸ hc)

/-- `replaceAll` leaves a text as it is, if the needle does not occur in it. -/
theorem replaceAll_of_not_infix {needle text : Text} (new : Text) (hne : needle ≠ [])
    (h : ¬needle <:+: text) : replaceAll needle new text = text := by
  obtain ⟨first, needle, rfl⟩ := List.exists_cons_of_ne_nil hne
  induction text with
  | nil => rfl
  | cons c rest ih =>
    have hstart : ¬(first :: needle) <+: (c :: rest) := fun hp => h hp.isInfix
    have hwithin : ¬(first :: needle) <:+: rest := fun hi => h (List.infix_cons hi)
    rw [replaceAll_cons_of_miss new hstart, ih hwithin]

/-! ### Dropping the matches of a rule -/

/-- A text in which `rule` matches has a leftmost match, and `segments` cuts the `front` before it into
`plain` characters. -/
theorem exists_leftmost {rule : Rule} {text : Text}
    (h : ∃ c rest, (c :: rest) <:+ text ∧ rule (c :: rest) ≠ none) :
    ∃ front c rest more, text = front ++ c :: rest ∧ rule (c :: rest) = some more ∧
      segments rule text
        = front.map .plain ++ .hit (c :: rest.take more) :: segments rule (rest.drop more) := by
  obtain ⟨c, rest, hsuffix, hrule⟩ := h
  induction text with
  | nil => simp at hsuffix
  | cons d text ih =>
    cases hd : rule (d :: text) with
    | some more => exact ⟨[], d, text, more, rfl, hd, segments_cons_of_some hd⟩
    | none =>
      -- There is no match at the head, so the one that there is lies behind it.
      have hbehind : (c :: rest) <:+ text := by
        rcases List.suffix_cons_iff.mp hsuffix with heq | hbehind
        · exact absurd (heq ▸ hd) hrule
        · exact hbehind
      obtain ⟨front, c', rest', more, rfl, hmore, hsegments⟩ := ih hbehind
      refine ⟨d :: front, c', rest', more, rfl, hmore, ?_⟩
      rw [segments_cons_of_none hd, hsegments]
      rfl

/-- `replaceHits` with nothing as the replacement leaves a sublist of the text. -/
theorem replaceHits_nil_sublist (rule : Rule) (text : Text) :
    (replaceHits rule [] text).Sublist text := by
  suffices h : (replaceHits rule [] text).Sublist ((segments rule text).flatMap Segment.text) by
    rwa [flatMap_text_segments] at h
  unfold replaceHits
  generalize segments rule text = parts
  induction parts with
  | nil => exact .refl _
  | cons part parts ih =>
    cases part with
    | plain c => exact ih.cons_cons c
    | hit found => exact ih.trans (List.sublist_append_right _ _)

/-- `replaceHits` with nothing as the replacement leaves a text as it is exactly if `rule` matches
nowhere. -/
theorem replaceHits_nil_eq_iff {rule : Rule} {text : Text} :
    replaceHits rule [] text = text ↔
      ∀ c rest, (c :: rest) <:+ text → rule (c :: rest) = none := by
  refine ⟨fun heq c rest hsuffix => ?_, replaceHits_of_none []⟩
  refine Classical.byContradiction fun hrule => ?_
  obtain ⟨front, d, behind, more, htext, -, hsegments⟩ := exists_leftmost ⟨c, rest, hsuffix, hrule⟩
  -- The leftmost match is gone, so less is left than there was.
  have hdrop : replaceHits rule [] text = front ++ replaceHits rule [] (behind.drop more) := by
    rw [replaceHits, hsegments, List.flatMap_append, List.flatMap_map, List.flatMap_cons]
    exact congrArg (· ++ _) (List.flatMap_singleton' front)
  have hlength := (replaceHits_nil_sublist rule (behind.drop more)).length_le
  rw [heq] at hdrop
  have hsame := congrArg List.length (htext.symm.trans hdrop)
  simp only [List.length_append, List.length_cons, List.length_drop] at hsame hlength
  omega

/-- `literally needle` matches nowhere in a text exactly if the needle does not occur in it. -/
theorem literally_none_iff {needle text : Text} (hne : needle ≠ []) :
    (∀ c rest, (c :: rest) <:+ text → literally needle (c :: rest) = none) ↔ ¬needle <:+: text := by
  constructor
  · rintro h ⟨front, rest, rfl⟩
    obtain ⟨first, needle, rfl⟩ := List.exists_cons_of_ne_nil hne
    have hnone := h first (needle ++ rest) ⟨front, by simp⟩
    exact literally_eq_none_iff.mp hnone (List.prefix_append (first :: needle) rest)
  · intro h c rest hsuffix
    exact literally_eq_none_iff.mpr fun hp => h (hp.isInfix.trans hsuffix.isInfix)

theorem replaceAll_nil_eq_iff {needle text : Text} (hne : needle ≠ []) :
    replaceAll needle [] text = text ↔ ¬needle <:+: text := by
  rw [← literally_none_iff hne, ← replaceHits_nil_eq_iff]
  obtain ⟨first, needle, rfl⟩ := List.exists_cons_of_ne_nil hne
  rfl

theorem replaceAll_nil_sublist {needle : Text} (hne : needle ≠ []) (text : Text) :
    (replaceAll needle [] text).Sublist text := by
  obtain ⟨first, needle, rfl⟩ := List.exists_cons_of_ne_nil hne
  exact replaceHits_nil_sublist _ text

/-- `distanceInLine?` gives `none` exactly if the needle does not occur before the first line feed. -/
theorem distanceInLine?_eq_none_iff {needle text : Text} (hne : needle ≠ []) (before : Nat) :
    distanceInLine? needle before text = none ↔
      ∀ between, '\n' ∉ between → ¬(between ++ needle) <+: text := by
  induction text generalizing before with
  | nil => simp [distanceInLine?, hne]
  | cons c text ih =>
    rw [distanceInLine?]
    by_cases hp : needle <+: (c :: text)
    · rw [if_pos (List.isPrefixOf_iff_prefix.mpr hp)]
      exact iff_of_false (by simp) fun h => h [] (by simp) hp
    rw [if_neg (by simpa using hp)]
    -- A line feed ends the search: whatever begins here has it in front.
    by_cases hc : c = '\n'
    · rw [if_pos hc]
      refine iff_of_true rfl fun between hfeed => ?_
      cases between with
      | nil => exact hp
      | cons d between =>
        intro hstart
        have hd : d = c := (List.cons_prefix_cons.mp hstart).1
        exact hfeed (by simp [hd, hc])
    · rw [if_neg hc, ih]
      constructor
      · intro h between hfeed
        cases between with
        | nil => exact hp
        | cons d between =>
          intro hstart
          refine h between (fun hmem => hfeed (List.mem_cons_of_mem _ hmem)) ?_
          exact (List.cons_prefix_cons.mp hstart).2
      · intro h between hfeed hstart
        refine h (c :: between) ?_ (List.cons_prefix_cons.mpr ⟨rfl, hstart⟩)
        rw [List.mem_cons, not_or]
        exact ⟨Ne.symm hc, hfeed⟩

/-- `enclosed` matches nowhere in a text exactly if no line of it has the `opening` and then the
`closing`. -/
theorem enclosed_none_iff {opening closing text : Text} (hopen : opening ≠ [])
    (hclose : closing ≠ []) :
    (∀ c rest, (c :: rest) <:+ text → enclosed opening closing (c :: rest) = none) ↔
      ∀ between, '\n' ∉ between → ¬(opening ++ between ++ closing) <:+: text := by
  constructor
  -- An opening with a closing behind it would be matched where the opening begins.
  · rintro h between hfeed ⟨front, rest, rfl⟩
    obtain ⟨first, opening, rfl⟩ := List.exists_cons_of_ne_nil hopen
    have hnone := h first (opening ++ between ++ closing ++ rest) ⟨front, by simp⟩
    rw [enclosed, if_pos (by simp), Option.map_eq_none_iff, distanceInLine?_eq_none_iff hclose]
      at hnone
    refine hnone between hfeed ?_
    simp [List.append_assoc]
  · intro h c rest hsuffix
    rw [enclosed]
    split
    · rename_i hp
      obtain ⟨behind, hbehind⟩ := List.isPrefixOf_iff_prefix.mp hp
      rw [Option.map_eq_none_iff, distanceInLine?_eq_none_iff hclose]
      intro between hfeed hstart
      rw [← hbehind, List.drop_left] at hstart
      refine h between hfeed (List.IsInfix.trans ?_ hsuffix.isInfix)
      rw [← hbehind, List.append_assoc]
      exact ((List.prefix_append_right_inj opening).mpr hstart).isInfix
    · rfl

end Text

/-! ### Rules that look no further -/

/-- What `rule` says about a text does not depend on the `tail` behind it, and its matches lie in the
text. -/
structure Rule.Ignores (rule : Rule) (tail : Text) : Prop where
  append : ∀ c line, rule (c :: (line ++ tail)) = rule (c :: line)
  within : ∀ c rest more, rule (c :: rest) = some more → more ≤ rest.length

namespace Text

/-- `segments` cuts a line before a tail that `rule` `Ignores` as if the tail were not there. -/
theorem segments_append {rule : Rule} {tail : Text} (h : rule.Ignores tail) (line : Text) :
    segments rule (line ++ tail) = segments rule line ++ segments rule tail := by
  -- By length again, as a match takes several characters at once.
  induction hn : line.length using Nat.strongRecOn generalizing line with
  | ind n ih =>
    subst hn
    cases line with
    | nil => rfl
    | cons c line =>
      rw [List.cons_append]
      cases hrule : rule (c :: line) with
      | none =>
        rw [segments_cons_of_none ((h.append c line).trans hrule), segments_cons_of_none hrule,
          ih line.length (by simp) line rfl]
        rfl
      | some more =>
        have hmore := h.within c line more hrule
        have hdrop : (line.drop more).length < (c :: line).length := by
          simp only [List.length_drop, List.length_cons]; omega
        rw [segments_cons_of_some ((h.append c line).trans hrule), segments_cons_of_some hrule,
          List.take_append_of_le_length hmore, List.drop_append_of_le_length hmore, ih _ hdrop _ rfl]
        rfl

/-- `replaceHits` goes through a line and through an ignored tail apart, if no match begins at the
`mark`. -/
theorem replaceHits_append {rule : Rule} {mark : Char} {rest : Text}
    (h : rule.Ignores (mark :: rest)) (hmark : rule (mark :: rest) = none) (new line : Text) :
    replaceHits rule new (line ++ mark :: rest)
      = replaceHits rule new line ++ mark :: replaceHits rule new rest := by
  rw [replaceHits, segments_append h, List.flatMap_append, segments_cons_of_none hmark]
  rfl

/-- `literally needle` `Ignores` a tail that begins with a `mark` the needle does not hold. -/
theorem literally_ignores {needle : Text} {mark : Char} (hne : needle ≠ []) (h : mark ∉ needle)
    (rest : Text) : (literally needle).Ignores (mark :: rest) := by
  refine ⟨fun c line => ?_, fun c behind more hmore => ?_⟩
  · have hstart : needle <+: (c :: (line ++ mark :: rest)) ↔ needle <+: (c :: line) :=
      prefix_append_mark_iff h (c :: line) rest
    simp only [literally, List.isPrefixOf_iff_prefix, hstart]
  · simp only [literally, List.isPrefixOf_iff_prefix] at hmore
    split at hmore
    · rename_i hp
      have hlength := hp.length_le
      have hpos := List.length_pos_iff.mpr hne
      simp only [List.length_cons, Option.some.injEq] at hlength hmore
      omega
    · simp at hmore

/-- `replaceAll` goes through the two sides of a `mark` that the needle does not hold apart from each
other. -/
theorem replaceAll_append_mark {needle : Text} {mark : Char} (hne : needle ≠ []) (h : mark ∉ needle)
    (new line rest : Text) :
    replaceAll needle new (line ++ mark :: rest)
      = replaceAll needle new line ++ mark :: replaceAll needle new rest := by
  have hignores := literally_ignores hne h rest
  obtain ⟨first, needle, rfl⟩ := List.exists_cons_of_ne_nil hne
  have hmark : first ≠ mark := fun heq => h (by simp [heq])
  exact replaceHits_append hignores (by simp [literally, hmark]) new line

/-- `distanceInLine?` does not depend on a tail in which it finds nothing. -/
theorem distanceInLine?_append_mark {needle rest : Text} {mark : Char} (hne : needle ≠ [])
    (h : mark ∉ needle) (htail : ∀ before, distanceInLine? needle before (mark :: rest) = none)
    (before : Nat) (line : Text) :
    distanceInLine? needle before (line ++ mark :: rest) = distanceInLine? needle before line := by
  induction line generalizing before with
  | nil => rw [List.nil_append, htail, distanceInLine?, if_neg (by simpa using hne)]
  | cons c line ih =>
    have hstart : needle <+: (c :: (line ++ mark :: rest)) ↔ needle <+: (c :: line) :=
      prefix_append_mark_iff h (c :: line) rest
    simp only [List.cons_append, distanceInLine?, List.isPrefixOf_iff_prefix, hstart, ih]

/-- The needle stands at the distance that `distanceInLine?` gives. -/
theorem distanceInLine?_eq_some {needle text : Text} {before distance : Nat}
    (h : distanceInLine? needle before text = some distance) :
    ∃ between rest, text = between ++ needle ++ rest ∧ distance = before + between.length := by
  induction text generalizing before with
  | nil =>
    simp only [distanceInLine?] at h
    split at h
    · rename_i hempty
      simp only [List.isEmpty_iff] at hempty
      simp only [Option.some.injEq] at h
      exact ⟨[], [], by simp [hempty], by simp [h]⟩
    · simp at h
  | cons c text ih =>
    simp only [distanceInLine?] at h
    split at h
    · rename_i hp
      obtain ⟨rest, hrest⟩ := List.isPrefixOf_iff_prefix.mp hp
      simp only [Option.some.injEq] at h
      exact ⟨[], rest, by simp [hrest], by simp [h]⟩
    · split at h
      · simp at h
      · obtain ⟨between, rest, rfl, rfl⟩ := ih h
        exact ⟨c :: between, rest, by simp, by simp; omega⟩

/-- `enclosed` `Ignores` a tail that begins with a `mark` and in which the `closing` is not found. -/
theorem enclosed_ignores {opening closing rest : Text} {mark : Char} (hopen : mark ∉ opening)
    (hclose : closing ≠ []) (hclose' : mark ∉ closing)
    (htail : ∀ before, distanceInLine? closing before (mark :: rest) = none) :
    (enclosed opening closing).Ignores (mark :: rest) := by
  refine ⟨fun c line => ?_, fun c behind more hmore => ?_⟩
  -- What the rule says: the opening cannot reach over the mark, and the closing is not found behind it.
  · have hstart : opening <+: (c :: (line ++ mark :: rest)) ↔ opening <+: (c :: line) :=
      prefix_append_mark_iff hopen (c :: line) rest
    by_cases hp : opening <+: (c :: line)
    · obtain ⟨behind, hbehind⟩ := hp
      have hlong : c :: (line ++ mark :: rest) = opening ++ (behind ++ mark :: rest) := by
        rw [← List.append_assoc, hbehind]
        rfl
      simp only [enclosed]
      rw [hlong, ← hbehind]
      simp only [List.isPrefixOf_iff_prefix, List.prefix_append, if_true, List.drop_left,
        distanceInLine?_append_mark hclose hclose' htail]
    · simp only [enclosed, List.isPrefixOf_iff_prefix, hstart, hp, if_false]
  -- Its match lies in the text, as the distance and the closing do.
  · simp only [enclosed, List.isPrefixOf_iff_prefix] at hmore
    split at hmore
    · rename_i hp
      obtain ⟨after, hafter⟩ := hp
      rw [← hafter, List.drop_left, Option.map_eq_some_iff] at hmore
      obtain ⟨distance, hdistance, rfl⟩ := hmore
      obtain ⟨between, final, rfl, rfl⟩ := distanceInLine?_eq_some hdistance
      have hlength := congrArg List.length hafter
      simp only [List.length_append, List.length_cons] at hlength ⊢
      omega
    · simp at hmore

end Text

end Externalize
