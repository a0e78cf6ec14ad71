import Externalize.Proofs.Source.Markup

/-!
# `Externalize.Proofs.Source.Attribute`: markup cut at its double quotes

Cut at its quotes, markup is a list of stretches. A match of `attributeRule` is the end of one stretch
and the whole of the next, with the quotes around that one. So two stretches that follow each other
tell whether the second is the value of an attribute: the first has to end like one
(`opensAttribute`), and the second has to be a value that is no reference (`IsPlainValue`).

`attributesOf` is the walk over the stretches, and `literals_markup_spell` says that it finds the
literals of markup. A value that is found is behind a stretch that opens an attribute
(`exists_isAttributeAt_of_mem`). Conversely, a value that stands behind such a stretch is found, unless
the stretch before it is itself a value that is found, and took the quote (`mem_of_isAttributeAt`).
-/

set_option autoImplicit false

namespace Externalize

/-! ### The front of an attribute -/

/-- `dropKeyword?` finds a keyword without quotes before the first quote, or not at all. -/
theorem Text.dropKeyword?_append_quote {keyword : Text} (h : '"' ∉ keyword) (text rest : Text) :
    dropKeyword? keyword (text ++ '"' :: rest)
      = (dropKeyword? keyword text).map (· ++ '"' :: rest) := by
  induction keyword generalizing text with
  | nil => simp [dropKeyword?]
  | cons letter keyword ih =>
    have hkeyword : '"' ∉ keyword := fun hmem => h (List.mem_cons_of_mem _ hmem)
    cases text with
    | nil =>
      have hletter : foldsTo letter '"' = false := by
        cases hfold : foldsTo letter '"' with
        | false => rfl
        | true => exact absurd (foldsTo_quote hfold ▸ List.mem_cons_self) h
      simp [dropKeyword?, hletter]
    | cons c text =>
      rw [List.cons_append, dropKeyword?, dropKeyword?]
      split
      · exact ih hkeyword text
      · rfl

namespace Literal

/-- Whether the text is `attributeSpace`, one of the `attributeNames` and an equals sign. -/
def isAttributeHead (text : Text) : Bool :=
  (Text.dropKeyword? attributeSpace text).any fun rest =>
    attributeNames.any fun name => Text.dropKeyword? name rest == some ['=']

theorem isAttributeHead_nil : isAttributeHead [] = false := rfl

/-- `left` is an equals sign alone exactly if the sign and the quote behind it follow each other. -/
theorem append_quote_eq_iff {left rest : Text} (h : '"' ∉ left) :
    (∃ behind, left ++ '"' :: rest = '=' :: '"' :: behind) ↔ left = ['='] := by
  constructor
  · rintro ⟨behind, heq⟩
    match left with
    | [] => simp at heq
    | [c] => simpa using (List.cons.inj heq).1
    | c :: d :: left =>
      have hd : d = '"' := (List.cons.inj (List.cons.inj heq).2).1
      exact absurd (by simp [hd]) h
  · rintro rfl
    exact ⟨rest, rfl⟩

/-- `dropKeyword?` looks for the name of an attribute before the first quote. -/
theorem matches_name_iff {name text : Text} (hname : '"' ∉ name) (htext : '"' ∉ text) (rest : Text) :
    (∃ behind, Text.dropKeyword? name (text ++ '"' :: rest) = some ('=' :: '"' :: behind)) ↔
      Text.dropKeyword? name text = some ['='] := by
  rw [Text.dropKeyword?_append_quote hname]
  cases hdrop : Text.dropKeyword? name text with
  | none => simp
  | some left =>
    obtain ⟨front, hfront, -⟩ := Text.dropKeyword?_eq_some hdrop hname
    have hleft : '"' ∉ left := fun hmem => htext (hfront ▸ List.mem_append_right _ hmem)
    simpa using append_quote_eq_iff hleft

/-- `attributeHead?` finds `attributeSpace`, one of the `attributeNames`, an equals sign and a quote. -/
theorem attributeHead?_isSome_iff {text : Text} :
    (attributeHead? text).isSome = true ↔
      ∃ left, Text.dropKeyword? attributeSpace text = some left ∧
        ∃ name ∈ attributeNames, ∃ behind,
          Text.dropKeyword? name left = some ('=' :: '"' :: behind) := by
  simp only [attributeHead?, Option.isSome_bind, Option.any_eq_true, List.findSome?_isSome_iff]
  refine exists_congr fun left => and_congr_right fun _ => exists_congr fun name =>
    and_congr_right fun _ => ?_
  split
  · rename_i behind hdrop
    exact iff_of_true rfl ⟨behind, hdrop⟩
  · rename_i hother
    refine iff_of_false (by simp) ?_
    rintro ⟨behind, hdrop⟩
    exact hother behind hdrop

/-- `attributeHead?` of a text without quotes before a quote is decided by `isAttributeHead`. -/
theorem attributeHead?_append {text : Text} (h : '"' ∉ text) (rest : Text) :
    attributeHead? (text ++ '"' :: rest)
      = if isAttributeHead text = true then some text.length else none := by
  have hspace : '"' ∉ attributeSpace := by decide
  have hnames : ∀ name ∈ attributeNames, '"' ∉ name := by decide
  have hsome : (attributeHead? (text ++ '"' :: rest)).isSome = true ↔ isAttributeHead text = true := by
    simp only [attributeHead?_isSome_iff, Text.dropKeyword?_append_quote hspace, isAttributeHead,
      Option.any_eq_true, List.any_eq_true, beq_iff_eq, Option.map_eq_some_iff]
    constructor
    · rintro ⟨_, ⟨left, hleft, rfl⟩, name, hname, hfound⟩
      obtain ⟨front, rfl, -⟩ := Text.dropKeyword?_eq_some hleft hspace
      have hquote : '"' ∉ left := fun hmem => h (List.mem_append_right _ hmem)
      exact ⟨left, hleft, name, hname, (matches_name_iff (hnames name hname) hquote rest).mp hfound⟩
    · rintro ⟨left, hleft, name, hname, hfound⟩
      obtain ⟨front, rfl, -⟩ := Text.dropKeyword?_eq_some hleft hspace
      have hquote : '"' ∉ left := fun hmem => h (List.mem_append_right _ hmem)
      exact ⟨_, ⟨left, hleft, rfl⟩, name, hname,
        (matches_name_iff (hnames name hname) hquote rest).mpr hfound⟩
  cases hhead : attributeHead? (text ++ '"' :: rest) with
  | none => rw [if_neg fun hishead => by simpa [hhead] using hsome.mpr hishead]
  | some head =>
    -- The quote that was found is the first one.
    obtain ⟨front, behind, heq, rfl, hfront⟩ := attributeHead?_eq_some hhead
    have hstart : (front ++ ['"']) <+: (text ++ '"' :: rest) := heq ▸ ⟨behind, by simp⟩
    rw [if_pos (hsome.mp (by rw [hhead]; rfl)), (append_mark_prefix_iff hfront h).mp hstart]

/-! ### The value of an attribute -/

/-- The text is on one line and does not begin with the mark of a reference. -/
def IsPlainValue (value : Text) : Prop :=
  '\n' ∉ value ∧ value.head? ≠ some '@' ∧ value.head? ≠ some '?'

instance (value : Text) : Decidable (IsPlainValue value) :=
  inferInstanceAs (Decidable (_ ∧ _ ∧ _))

theorem isReferenceValue_quote (value rest : Text) :
    isReferenceValue ('"' :: (value ++ '"' :: rest)) = true ↔
      value.head? = some '@' ∨ value.head? = some '?' := by
  cases value with
  | nil => simp [isReferenceValue]
  | cons c value => simp [isReferenceValue]

/-- `attributeRule` before a quoted value: the front must be an `isAttributeHead`, and the value an
`IsPlainValue`. -/
theorem attributeRule_append {front value : Text} (hfront : '"' ∉ front) (hvalue : '"' ∉ value)
    (rest : Text) :
    attributeRule (front ++ '"' :: (value ++ '"' :: rest))
      = if isAttributeHead front = true ∧ IsPlainValue value then
          some (front.length + (value.length + 1))
        else none := by
  rw [attributeRule, attributeHead?_append hfront]
  by_cases hhead : isAttributeHead front = true
  · simp only [hhead, if_true, Option.bind_some, List.drop_left, true_and,
      Quotation.quotedRule_quote hvalue]
    by_cases href : isReferenceValue ('"' :: (value ++ '"' :: rest)) = true
    · have hnot : ¬IsPlainValue value := fun hplain =>
        ((isReferenceValue_quote value rest).mp href).elim hplain.2.1 hplain.2.2
      rw [if_pos href, if_neg hnot]
    · rw [isReferenceValue_quote, not_or] at href
      by_cases hfeed : '\n' ∈ value
      · simp [IsPlainValue, hfeed]
      · simp [IsPlainValue, hfeed, href, isReferenceValue_quote]
  · simp [hhead]

/-- `attributeRule` does not match at a quote that is not closed. -/
theorem attributeRule_last {front value : Text} (hfront : '"' ∉ front) (hvalue : '"' ∉ value) :
    attributeRule (front ++ '"' :: value) = none := by
  rw [attributeRule, attributeHead?_append hfront]
  split
  · simp [Quotation.quotedRule_last hvalue]
  · rfl

/-- `attributeRule` does not match in a text without a quote. -/
theorem attributeRule_of_notMem {text : Text} (h : '"' ∉ text) : attributeRule text = none := by
  cases hrule : attributeRule text with
  | none => rfl
  | some more =>
    obtain ⟨front, value, rest, rfl, -⟩ := attributeRule_eq_some hrule
    exact absurd (by simp [quoted]) h

/-- Whether the text ends with an `isAttributeHead`. -/
def opensAttribute : Text → Bool
  | [] => false
  | c :: rest => isAttributeHead (c :: rest) || opensAttribute rest

end Literal

namespace Quotation

open Literal (opensAttribute IsPlainValue)

/-! ### The walk over the stretches -/

/-- The `literals` of markup that begins at `position`. -/
def attributesFrom (position : Nat) (text : Text) : List Literal :=
  (Text.hitsFrom position (Text.segments Literal.attributeRule text)).map fun (start, found) =>
    Literal.ofAttribute start found

theorem attributesFrom_of_none {position : Nat} {c : Char} {text : Text}
    (h : Literal.attributeRule (c :: text) = none) :
    attributesFrom position (c :: text) = attributesFrom (position + 1) text := by
  rw [attributesFrom, Text.segments_cons_of_none h]
  rfl

/-- `attributesFrom` passes over a `stretch` in which `attributeRule` matches nowhere. -/
theorem attributesFrom_append {stretch rest : Text}
    (h : ∀ front, front <:+ stretch → Literal.attributeRule (front ++ rest) = none) (position : Nat) :
    attributesFrom position (stretch ++ rest) = attributesFrom (position + stretch.length) rest := by
  induction stretch generalizing position with
  | nil => rfl
  | cons c stretch ih =>
    have hnone : Literal.attributeRule (c :: (stretch ++ rest)) = none := h _ List.suffix_rfl
    have hrest := ih fun front hfront => h front (hfront.trans (List.suffix_cons c stretch))
    rw [List.cons_append, attributesFrom_of_none hnone, hrest, List.length_cons, Nat.add_assoc,
      Nat.add_comm 1]

/-- `attributesFrom` gives a literal for a quoted value exactly if the stretch before it
`opensAttribute` and the value `IsPlainValue`. Else the value is the next stretch. -/
theorem attributesFrom_value {stretch value : Text} (hstretch : '"' ∉ stretch) (hvalue : '"' ∉ value)
    (position : Nat) (rest : Text) :
    attributesFrom position (stretch ++ '"' :: (value ++ '"' :: rest))
      = if opensAttribute stretch = true ∧ IsPlainValue value then
          { raw := quoted value, position := position + stretch.length } ::
            attributesFrom (position + stretch.length + (quoted value).length) rest
        else attributesFrom (position + stretch.length + 1) (value ++ '"' :: rest) := by
  have hrule := fun front (hfront : '"' ∉ front) =>
    Literal.attributeRule_append hfront hvalue rest
  induction stretch generalizing position with
  | nil =>
    have hnone := hrule [] (by simp)
    rw [if_neg (by simp [Literal.isAttributeHead_nil])] at hnone
    rw [if_neg (by simp [opensAttribute])]
    exact attributesFrom_of_none hnone
  | cons c stretch ih =>
    have hrest : '"' ∉ stretch := fun hmem => hstretch (List.mem_cons_of_mem _ hmem)
    by_cases hhit : Literal.isAttributeHead (c :: stretch) = true ∧ IsPlainValue value
    · -- The match is the front, the value and the two quotes.
      have hmore := hrule (c :: stretch) hstretch
      rw [if_pos hhit] at hmore
      have htext : c :: stretch ++ '"' :: (value ++ '"' :: rest)
          = (c :: stretch ++ quoted value) ++ rest := by simp [quoted]
      rw [htext] at hmore ⊢
      rw [if_pos ⟨by simp [opensAttribute, hhit.1], hhit.2⟩, attributesFrom,
        Text.segments_append_of_some hmore (by simp; omega), Text.hitsFrom, List.map_cons]
      rw [← Literal.ofAttribute_append hstretch position value, Nat.add_assoc, ← List.length_append]
      rfl
    · have hnone : Literal.attributeRule (c :: (stretch ++ '"' :: (value ++ '"' :: rest))) = none :=
        (hrule (c :: stretch) hstretch).trans (if_neg hhit)
      have hopens : (opensAttribute (c :: stretch) = true ∧ IsPlainValue value) ↔
          opensAttribute stretch = true ∧ IsPlainValue value := by
        simp only [opensAttribute, Bool.or_eq_true]
        constructor
        · rintro ⟨hhead | hopens, hplain⟩
          · exact absurd ⟨hhead, hplain⟩ hhit
          · exact ⟨hopens, hplain⟩
        · rintro ⟨hopens, hplain⟩
          exact ⟨.inr hopens, hplain⟩
      rw [List.cons_append, attributesFrom_of_none hnone, ih hrest]
      simp only [hopens, List.length_cons, Nat.add_assoc, Nat.add_comm 1]

/-- The literals of the markup that `stretch` and `spell` of the pieces make, whose first quote stands
at `start`. -/
def attributesOf : Nat → Text → List Text → List Literal
  | _, _, [] => []
  | _, _, [_] => []
  | start, stretch, value :: after :: rest =>
    if opensAttribute stretch = true ∧ IsPlainValue value then
      { raw := quoted value, position := start } ::
        attributesOf (start + (quoted value).length + after.length) after rest
    else attributesOf (start + 1 + value.length) value (after :: rest)

/-- `attributesFrom` is empty for a text without a quote. -/
theorem attributesFrom_of_notMem {text : Text} (h : '"' ∉ text) (position : Nat) :
    attributesFrom position text = [] := by
  have hnone : ∀ front, front <:+ text → Literal.attributeRule (front ++ []) = none :=
    fun front hfront => by
      rw [List.append_nil]
      exact Literal.attributeRule_of_notMem fun hmem => h (hfront.subset hmem)
  have hend := attributesFrom_append hnone position
  rwa [List.append_nil] at hend

/-- `attributesOf` gives the matches of `attributeRule` in the text that `spell` makes of the pieces. -/
theorem attributesFrom_spell {start : Nat} {stretch : Text} {pieces : List Text}
    (hstretch : '"' ∉ stretch) (h : ∀ piece ∈ pieces, '"' ∉ piece) {position : Nat}
    (hstart : position + stretch.length = start) :
    attributesFrom position (stretch ++ spell pieces) = attributesOf start stretch pieces := by
  induction start, stretch, pieces using attributesOf.induct generalizing position with
  | case1 start stretch =>
    rw [spell_nil, List.append_nil, attributesFrom_of_notMem hstretch]
    rfl
  | case2 start stretch piece =>
    -- The last quote has none to close it.
    have hpiece : '"' ∉ piece := h piece (by simp)
    have hlast : ∀ front, front <:+ stretch → Literal.attributeRule (front ++ '"' :: piece) = none :=
      fun front hfront =>
        Literal.attributeRule_last (fun hmem => hstretch (hfront.subset hmem)) hpiece
    rw [spell_cons, spell_nil, List.append_nil, attributesFrom_append hlast,
      attributesFrom_of_none (hlast [] (List.nil_suffix)), attributesFrom_of_notMem hpiece]
    rfl
  | case3 start stretch value after rest hhit ih =>
    subst hstart
    have hvalue : '"' ∉ value := h value (by simp)
    have hafter : '"' ∉ after := h after (by simp)
    rw [spell_cons, spell_cons, attributesFrom_value hstretch hvalue, if_pos hhit, attributesOf,
      if_pos hhit, ih hafter (fun piece hpiece => h piece (by simp [hpiece])) rfl]
  | case4 start stretch value after rest hmiss ih =>
    subst hstart
    have hvalue : '"' ∉ value := h value (by simp)
    rw [spell_cons, spell_cons, attributesFrom_value hstretch hvalue, if_neg hmiss, attributesOf,
      if_neg hmiss, ← spell_cons,
      ih hvalue (fun piece hpiece => h piece (List.mem_cons_of_mem _ hpiece)) rfl]

/-- `literals .markup` of a head and what `spell` makes of some pieces is `attributesOf` the pieces. -/
theorem literals_markup_spell {head : Text} {pieces : List Text} (hhead : '"' ∉ head)
    (h : ∀ piece ∈ pieces, '"' ∉ piece) :
    literals .markup (head ++ spell pieces) = attributesOf head.length head pieces :=
  attributesFrom_spell hhead h (Nat.zero_add _)

/-! ### Values behind the stretches that open them -/

/-- The stretch `front` at the `place` `opensAttribute`, and the `value` is the next one, between two
quotes. -/
structure IsAttributeAt (stretches : List Text) (place : Nat) (front value : Text) : Prop where
  here : stretches[place]? = some front
  next : stretches[place + 1]? = some value
  closed : place + 2 < stretches.length
  opens : opensAttribute front = true
  plain : IsPlainValue value

theorem isAttributeAt_cons_iff {stretch : Text} {stretches : List Text} {place : Nat}
    {front value : Text} :
    IsAttributeAt (stretch :: stretches) (place + 1) front value ↔
      IsAttributeAt stretches place front value := by
  have hclosed : place + 1 + 2 < (stretch :: stretches).length ↔ place + 2 < stretches.length := by
    rw [List.length_cons]
    omega
  constructor
  · rintro ⟨hhere, hnext, hlong, hopens, hplain⟩
    exact ⟨hhere, hnext, hclosed.mp hlong, hopens, hplain⟩
  · rintro ⟨hhere, hnext, hlong, hopens, hplain⟩
    exact ⟨hhere, hnext, hclosed.mpr hlong, hopens, hplain⟩

/-- Each of `attributesOf` has its value at a place with `IsAttributeAt`. -/
theorem exists_isAttributeAt_of_mem {start : Nat} {stretch : Text} {pieces : List Text}
    {literal : Literal} (h : literal ∈ attributesOf start stretch pieces) :
    ∃ place front value, IsAttributeAt (stretch :: pieces) place front value ∧
      literal.raw = quoted value := by
  induction start, stretch, pieces using attributesOf.induct with
  | case1 start stretch => simp [attributesOf] at h
  | case2 start stretch piece => simp [attributesOf] at h
  | case3 start stretch value after rest hhit ih =>
    rw [attributesOf, if_pos hhit] at h
    rcases List.mem_cons.mp h with rfl | h
    · exact ⟨0, stretch, value, ⟨rfl, rfl, by simp, hhit.1, hhit.2⟩, rfl⟩
    · obtain ⟨place, front, other, hat, hraw⟩ := ih h
      exact ⟨place + 2, front, other,
        isAttributeAt_cons_iff.mpr (isAttributeAt_cons_iff.mpr hat), hraw⟩
  | case4 start stretch value after rest hmiss ih =>
    rw [attributesOf, if_neg hmiss] at h
    obtain ⟨place, front, other, hat, hraw⟩ := ih h
    exact ⟨place + 1, front, other, isAttributeAt_cons_iff.mpr hat, hraw⟩

/-- A value with `IsAttributeAt` is in `attributesOf`, unless the stretch before it is. -/
theorem mem_of_isAttributeAt {start : Nat} {stretch : Text} {pieces : List Text} {place : Nat}
    {front value : Text} (h : IsAttributeAt (stretch :: pieces) place front value) :
    ∃ literal ∈ attributesOf start stretch pieces,
      literal.raw = quoted value ∨ literal.raw = quoted front := by
  induction start, stretch, pieces using attributesOf.induct generalizing place with
  | case1 start stretch => exact absurd h.closed (by simp)
  | case2 start stretch piece => exact absurd h.closed (by simp)
  | case3 start stretch first after rest hhit ih =>
    rw [attributesOf, if_pos hhit]
    match place, h with
    | 0, h =>
      obtain rfl : first = value := by simpa using h.next
      exact ⟨_, List.mem_cons_self, .inl rfl⟩
    | 1, h =>
      -- The quote before the value closed another one.
      obtain rfl : first = front := by simpa using h.here
      exact ⟨_, List.mem_cons_self, .inr rfl⟩
    | place + 2, h =>
      obtain ⟨literal, hmem, hraw⟩ := ih (isAttributeAt_cons_iff.mp (isAttributeAt_cons_iff.mp h))
      exact ⟨literal, List.mem_cons_of_mem _ hmem, hraw⟩
  | case4 start stretch first after rest hmiss ih =>
    rw [attributesOf, if_neg hmiss]
    match place, h with
    | 0, h =>
      obtain rfl : stretch = front := by simpa using h.here
      obtain rfl : first = value := by simpa using h.next
      exact absurd ⟨h.opens, h.plain⟩ hmiss
    | place + 1, h => exact ih (isAttributeAt_cons_iff.mp h)

/-! ### Splitting at the quotes -/

/-- `splitOn` a quote gives back the head and the pieces. -/
theorem splitOn_spell {head : Text} {pieces : List Text} (hhead : '"' ∉ head)
    (h : ∀ piece ∈ pieces, '"' ∉ piece) : (head ++ spell pieces).splitOn '"' = head :: pieces := by
  induction pieces generalizing head with
  | nil => rw [spell_nil, List.append_nil, List.splitOn_eq_singleton hhead]
  | cons piece pieces ih =>
    rw [spell_cons, List.splitOn_append_cons_self_of_not_mem hhead,
      ih (h piece (by simp)) fun other hmem => h other (List.mem_cons_of_mem _ hmem)]

/-- Each of `literals .markup` has its value at a place with `IsAttributeAt`. -/
theorem exists_isAttributeAt_of_mem_literals {text : Text} {literal : Literal}
    (h : literal ∈ literals .markup text) :
    ∃ place front value, IsAttributeAt (text.splitOn '"') place front value ∧
      literal.raw = quoted value := by
  obtain ⟨head, pieces, rfl, hhead, hpieces⟩ := exists_spell text
  rw [literals_markup_spell hhead hpieces] at h
  rw [splitOn_spell hhead hpieces]
  exact exists_isAttributeAt_of_mem h

/-- A value with `IsAttributeAt` is in `literals .markup`, unless the stretch before it is. -/
theorem mem_literals_of_isAttributeAt {text : Text} {place : Nat} {front value : Text}
    (h : IsAttributeAt (text.splitOn '"') place front value) :
    ∃ literal ∈ literals .markup text,
      literal.raw = quoted value ∨ literal.raw = quoted front := by
  obtain ⟨head, pieces, rfl, hhead, hpieces⟩ := exists_spell text
  rw [splitOn_spell hhead hpieces] at h
  rw [literals_markup_spell hhead hpieces]
  exact mem_of_isAttributeAt h

end Quotation

end Externalize
