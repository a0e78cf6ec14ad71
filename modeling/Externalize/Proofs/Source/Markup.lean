import Externalize.Proofs.Source.Quotation

/-!
# `Externalize.Proofs.Source.Markup`: the literals of markup

A match of `attributeRule` is a front without quotes and then a value between quotes, which does not
begin with the mark of a reference (`attributeRule_eq_some`). So the literals of markup have the shape
of those of code, and `exists_value_of_mem_literals` says it of both kinds at once.
-/

set_option autoImplicit false

namespace Externalize

/-- `foldsTo` holds of a quote for the letter `"` only. -/
theorem foldsTo_quote {letter : Char} (h : foldsTo letter '"' = true) : letter = '"' := by
  have hfold : foldsTo letter '"' = ('"' == letter) := by
    simp [foldsTo, show Char.toLower '"' = '"' by decide]
  rw [hfold] at h
  simpa using (beq_iff_eq.mp h).symm

/-- `dropKeyword?` drops as many characters as the keyword has, and no quote among them unless the
keyword holds one. -/
theorem Text.dropKeyword?_eq_some {keyword text rest : Text}
    (h : dropKeyword? keyword text = some rest) (hquote : '"' ∉ keyword) :
    ∃ front, text = front ++ rest ∧ front.length = keyword.length ∧ '"' ∉ front := by
  induction keyword generalizing text with
  | nil => exact ⟨[], by simpa [dropKeyword?] using h, rfl, by simp⟩
  | cons letter keyword ih =>
    cases text with
    | nil => simp [dropKeyword?] at h
    | cons c text =>
      rw [dropKeyword?] at h
      split at h
      · rename_i hfold
        obtain ⟨front, rfl, hlength, hfront⟩ := ih h fun hmem => hquote (by simp [hmem])
        refine ⟨c :: front, rfl, by simp [hlength], ?_⟩
        rw [List.mem_cons, not_or]
        refine ⟨fun hc => hquote ?_, hfront⟩
        subst hc
        exact foldsTo_quote hfold ▸ List.mem_cons_self
      · simp at h

namespace Literal

/-- A match of `quotedRule` is a value of one line between quotes. -/
theorem quotedRule_eq_some {text : Text} {more : Nat} (h : quotedRule text = some more) :
    ∃ value rest, text = quoted value ++ rest ∧ '"' ∉ value ∧ '\n' ∉ value ∧
      more = value.length + 1 := by
  cases text with
  | nil => simp [quotedRule, Text.enclosed] at h
  | cons c text =>
    by_cases hc : c = '"'
    · subst hc
      -- Cut at its quotes, the text shows whether there is one that closes.
      obtain ⟨head, pieces, rfl, hhead, hpieces⟩ := Quotation.exists_spell text
      cases pieces with
      | nil =>
        rw [Quotation.spell_nil, List.append_nil, Quotation.quotedRule_last hhead] at h
        simp at h
      | cons piece pieces =>
        rw [Quotation.spell_cons, Quotation.quotedRule_quote hhead] at h
        split at h
        · simp at h
        · rename_i hfeed
          exact ⟨head, piece ++ Quotation.spell pieces, by simp [quoted], hhead, hfeed,
            (Option.some.inj h).symm⟩
    · simp [Quotation.quotedRule_of_ne hc] at h

/-- `attributeHead?` counts the characters up to a quote, and there is no quote among them. -/
theorem attributeHead?_eq_some {text : Text} {head : Nat} (h : attributeHead? text = some head) :
    ∃ front rest, text = front ++ '"' :: rest ∧ front.length = head ∧ '"' ∉ front := by
  rw [attributeHead?, Option.bind_eq_some_iff] at h
  obtain ⟨rest, hspace, hname⟩ := h
  obtain ⟨front, rfl, hlength, hfront⟩ := Text.dropKeyword?_eq_some hspace (by decide)
  obtain ⟨name, hmem, hhead⟩ := List.exists_of_findSome?_eq_some hname
  have hquote : '"' ∉ name := by
    have hnames : ∀ name ∈ attributeNames, '"' ∉ name := by decide
    exact hnames name hmem
  split at hhead
  · rename_i value hdrop
    obtain ⟨front', rfl, hlength', hfront'⟩ := Text.dropKeyword?_eq_some hdrop hquote
    refine ⟨front ++ front' ++ ['='], value, by simp, ?_, by simp [hfront, hfront']⟩
    rw [← Option.some.inj hhead, List.length_append, List.length_append, hlength, hlength']
    rfl
  · simp at hhead

/-- A match of `attributeRule` is a front without quotes and a value between quotes that does not begin
with `@`. -/
theorem attributeRule_eq_some {text : Text} {more : Nat} (h : attributeRule text = some more) :
    ∃ front value rest, text = front ++ (quoted value ++ rest) ∧ '"' ∉ front ∧ '"' ∉ value ∧
      '\n' ∉ value ∧ value.head? ≠ some '@' ∧ more + 1 = front.length + (quoted value).length := by
  rw [attributeRule, Option.bind_eq_some_iff] at h
  obtain ⟨head, hhead, hmore⟩ := h
  obtain ⟨front, behind, rfl, rfl, hfront⟩ := attributeHead?_eq_some hhead
  simp only [List.drop_left] at hmore
  split at hmore
  · simp at hmore
  · rename_i hreference
    obtain ⟨more', hquoted, rfl⟩ := Option.map_eq_some_iff.mp hmore
    obtain ⟨value, rest, heq, hvalue, hfeed, rfl⟩ := quotedRule_eq_some hquoted
    rw [heq]
    refine ⟨front, value, rest, rfl, hfront, hvalue, hfeed, fun hat => ?_, by simp; omega⟩
    rw [heq] at hreference
    cases value with
    | nil => simp at hat
    | cons c value =>
      rw [List.head?_cons, Option.some.injEq] at hat
      simp [quoted, isReferenceValue, hat] at hreference

end Literal

/-- `Literal.ofAttribute` of a front without quotes and a quoted value. -/
theorem Literal.ofAttribute_append {front : Text} (h : '"' ∉ front) (start : Nat) (value : Text) :
    Literal.ofAttribute start (front ++ quoted value)
      = { raw := quoted value, position := start + front.length } := by
  have htake : (front ++ quoted value).takeWhile (· != '"') = front := by
    rw [List.takeWhile_append_of_pos fun c hc => by
      simpa using fun heq : c = '"' => h (heq ▸ hc)]
    simp [quoted]
  simp only [Literal.ofAttribute, htake, List.drop_left]

/-- The `raw` of each of the `literals` is a value of one line between quotes. In markup the value does
not begin with `@`. -/
theorem exists_value_of_mem_literals {kind : Kind} {text : Text} {literal : Literal}
    (h : literal ∈ literals kind text) :
    ∃ value, literal.raw = quoted value ∧ '"' ∉ value ∧ '\n' ∉ value ∧ literal.raw <:+: text ∧
      (kind = .markup → value.head? ≠ some '@') := by
  cases kind with
  | code =>
    obtain ⟨⟨position, found⟩, hmem, rfl⟩ := List.mem_map.mp h
    obtain ⟨before, c, rest, more, htext, -, hrule, rfl⟩ := Text.exists_of_mem_hitsFrom hmem
    have hsuffix : (c :: rest) <:+ text := ⟨before, htext.symm⟩
    obtain ⟨value, behind, heq, hquote, hfeed, rfl⟩ := Literal.quotedRule_eq_some hrule
    have hfound : c :: rest.take (value.length + 1) = quoted value := by
      rw [← List.take_succ_cons, heq, ← length_quoted, List.take_left]
    refine ⟨value, hfound, hquote, hfeed, ?_, by simp⟩
    exact (heq ▸ hfound ▸ List.prefix_append _ _ : _ <+: c :: rest).isInfix.trans hsuffix.isInfix
  | markup =>
    obtain ⟨⟨position, found⟩, hmem, rfl⟩ := List.mem_map.mp h
    obtain ⟨before, c, rest, more, htext, -, hrule, rfl⟩ := Text.exists_of_mem_hitsFrom hmem
    have hsuffix : (c :: rest) <:+ text := ⟨before, htext.symm⟩
    obtain ⟨front, value, behind, heq, hfront, hquote, hfeed, hat, hmore⟩ :=
      Literal.attributeRule_eq_some hrule
    -- The match begins with the front, which the literal leaves out.
    have hfound : c :: rest.take more = front ++ quoted value := by
      rw [← List.take_succ_cons, heq, hmore, ← List.append_assoc, ← List.length_append,
        List.take_left]
    simp only [hfound, Literal.ofAttribute_append hfront]
    refine ⟨value, rfl, hquote, hfeed, ?_, fun _ => hat⟩
    have hwithin : quoted value <:+: c :: rest := heq ▸ ⟨front, behind, by simp⟩
    exact hwithin.trans hsuffix.isInfix

end Externalize
