import Externalize.Proofs.Text.Segments

/-!
# `Externalize.Proofs.Text.Hits`: the matches of a rule, told by their places

`hits` gives the matches of a rule from left to right. Whatever the rule is:

* `exists_of_mem_hitsFrom`: each of them is a match of the rule at the place it is told with.
* `pairwise_hitsFrom`: they come in order and do not overlap.
* `mem_hitsFrom_or_covered`: they are all there can be. Where the rule matches, either the match is
  among them, or one of them began before and reaches past that place.
-/

set_option autoImplicit false

namespace Externalize.Text

/-- `hitsFrom` of two lists of segments: the second list begins where the text of the first one ends. -/
theorem hitsFrom_append (start : Nat) (before after : List Segment) :
    hitsFrom start (before ++ after)
      = hitsFrom start before
        ++ hitsFrom (start + (before.flatMap Segment.text).length) after := by
  induction before generalizing start with
  | nil => rfl
  | cons segment before ih =>
    cases segment with
    | plain c =>
      simp only [List.cons_append, hitsFrom, ih, List.flatMap_cons, Segment.text, List.nil_append,
        List.length_cons, Nat.add_assoc, Nat.add_comm 1]
    | hit found =>
      simp only [List.cons_append, hitsFrom, ih, List.flatMap_cons, Segment.text,
        List.length_append, Nat.add_assoc]

/-- A member of `hitsFrom` of the `segments` has a place in the text, and `rule` matches there. -/
theorem exists_of_mem_hitsFrom {rule : Rule} {text found : Text} {start position : Nat}
    (h : (position, found) ∈ hitsFrom start (segments rule text)) :
    ∃ before c rest more, text = before ++ c :: rest ∧ position = start + before.length ∧
      rule (c :: rest) = some more ∧ found = c :: rest.take more := by
  -- The walk leaves a match behind in one step, so the induction is on the length.
  induction hn : text.length using Nat.strongRecOn generalizing text start with
  | ind n ih =>
    subst hn
    cases text with
    | nil => simp [hitsFrom] at h
    | cons d text =>
      cases hrule : rule (d :: text) with
      | none =>
        rw [segments_cons_of_none hrule, hitsFrom] at h
        obtain ⟨before, c, rest, more, rfl, hposition, hmore, hfound⟩ :=
          ih text.length (by simp) h rfl
        refine ⟨d :: before, c, rest, more, rfl, ?_, hmore, hfound⟩
        rw [List.length_cons]
        omega
      | some more =>
        rw [segments_cons_of_some hrule, hitsFrom] at h
        rcases List.mem_cons.mp h with h | h
        · obtain ⟨rfl, rfl⟩ := Prod.mk.inj h
          exact ⟨[], d, text, more, rfl, rfl, hrule, rfl⟩
        · have hlt : (text.drop more).length < (d :: text).length := by
            simp only [List.length_drop, List.length_cons]; omega
          obtain ⟨before, c, rest, more', hbehind, hposition, hmore, hfound⟩ := ih _ hlt h rfl
          refine ⟨d :: (text.take more ++ before), c, rest, more', ?_, ?_, hmore, hfound⟩
          · rw [List.cons_append, List.append_assoc, ← hbehind, List.take_append_drop]
          · simp only [List.length_cons, List.length_append] at hposition ⊢
            omega

/-- A member of `hits` stands in the text at its `position`. -/
theorem prefix_drop_of_mem_hits {rule : Rule} {text found : Text} {position : Nat}
    (h : (position, found) ∈ hits rule text) : found <+: text.drop position := by
  obtain ⟨before, c, rest, more, rfl, rfl, -, rfl⟩ := exists_of_mem_hitsFrom h
  rw [Nat.zero_add, List.drop_left, List.cons_prefix_cons]
  exact ⟨rfl, List.take_prefix more rest⟩

/-- No position in `hitsFrom start` is below `start`. -/
theorem le_of_mem_hitsFrom {start : Nat} {parts : List Segment} {hit : Nat × Text}
    (h : hit ∈ hitsFrom start parts) : start ≤ hit.1 := by
  induction parts generalizing start with
  | nil => simp [hitsFrom] at h
  | cons part parts ih =>
    cases part with
    | plain c =>
      have hrest := ih h
      omega
    | hit found =>
      rcases List.mem_cons.mp h with rfl | h
      · exact Nat.le_refl _
      · have hrest := ih h
        omega

/-- `hitsFrom` gives the matches in order, and each ends before the next one begins. -/
theorem pairwise_hitsFrom (start : Nat) (parts : List Segment) :
    (hitsFrom start parts).Pairwise fun earlier later =>
      earlier.1 + earlier.2.length ≤ later.1 := by
  induction parts generalizing start with
  | nil => exact .nil
  | cons part parts ih =>
    cases part with
    | plain c => exact ih (start + 1)
    | hit found =>
      refine List.pairwise_cons.mpr ⟨?_, ih (start + found.length)⟩
      intro later hlater
      exact le_of_mem_hitsFrom hlater

/-- The positions of `hits` increase, as no match is empty. -/
theorem pairwise_position_hits (rule : Rule) (text : Text) :
    ((hits rule text).map Prod.fst).Pairwise (· < ·) := by
  refine List.pairwise_map.mpr ?_
  refine (pairwise_hitsFrom 0 (segments rule text)).imp_of_mem ?_
  intro earlier later hearlier _ hends
  obtain ⟨before, c, rest, more, -, -, -, hfound⟩ := exists_of_mem_hitsFrom hearlier
  rw [hfound, List.length_cons] at hends
  omega

/-- Where `rule` matches, `hitsFrom` has the match, or an earlier one that reaches past this place. -/
theorem mem_hitsFrom_or_covered {rule : Rule} {c : Char} {rest : Text} {more : Nat}
    (h : rule (c :: rest) = some more) (start : Nat) (before : Text) :
    (start + before.length, c :: rest.take more)
        ∈ hitsFrom start (segments rule (before ++ c :: rest)) ∨
      ∃ hit ∈ hitsFrom start (segments rule (before ++ c :: rest)),
        hit.1 < start + before.length ∧ start + before.length < hit.1 + hit.2.length := by
  -- By the length of what stands before, as a match there takes several characters of it at once.
  induction hn : before.length using Nat.strongRecOn generalizing before start with
  | ind n ih =>
    subst hn
    cases before with
    | nil =>
      refine .inl ?_
      rw [List.nil_append, segments_cons_of_some h, hitsFrom]
      exact List.mem_cons_self
    | cons d before =>
      rw [List.cons_append]
      cases hrule : rule (d :: (before ++ c :: rest)) with
      | none =>
        have hrest := ih before.length (by simp) (start + 1) before rfl
        rw [segments_cons_of_none hrule, hitsFrom, List.length_cons, ← Nat.add_assoc,
          Nat.add_right_comm]
        exact hrest
      | some more' =>
        rw [segments_cons_of_some hrule, hitsFrom]
        by_cases hlong : before.length < more'
        · -- The match that begins here takes the place in.
          refine .inr ⟨_, List.mem_cons_self, ?_, ?_⟩
          · simp only [List.length_cons]; omega
          · simp only [List.length_cons, List.length_take, List.length_append]; omega
        · have hshort : more' ≤ before.length := Nat.le_of_not_lt hlong
          have hlt : (before.drop more').length < (d :: before).length := by
            simp only [List.length_drop, List.length_cons]; omega
          have hplace : start + (d :: before.take more').length + (before.drop more').length
              = start + (d :: before).length := by
            simp only [List.length_cons, List.length_take, List.length_drop]; omega
          rw [List.take_append_of_le_length hshort, List.drop_append_of_le_length hshort]
          have hrest := ih _ hlt (start + (d :: before.take more').length) (before.drop more') rfl
          rw [hplace] at hrest
          rcases hrest with hmem | ⟨hit, hmem, hwithin⟩
          · exact .inl (List.mem_cons_of_mem _ hmem)
          · exact .inr ⟨hit, List.mem_cons_of_mem _ hmem, hwithin⟩

end Externalize.Text
