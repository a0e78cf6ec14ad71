import Externalize.Text.Replacement
import Mathlib.Data.List.Chain

/-!
# `Externalize.Proofs.Text.Replacement`: replacements that stand for themselves

A replacement is read token by token, and a token is kept if it gives its own code points: any code point
but a backslash does, and a backslash with one behind it that is no letter, no digit and no backslash
(`Token.IsKept`). Every other token gives less than it has, or the whole match. So reading never makes a
text longer but by the match, and a text comes out as it went in only if each of its tokens is kept:
`partsFrom_of_isKept` and `isKept_of_expand_eq` are the two directions.

`IsVerbatim` says the same of a text without its tokens.
-/

set_option autoImplicit false

namespace Externalize.Replacement

/-! ### Tokens that are kept -/

/-- A code point to which `escape` gives no meaning: no backslash, and no letter or digit of ASCII. -/
def IsInert : Point → Prop
  | .char c => c ≠ '\\' ∧ c.isAlphanum = false
  | .half _ => True

instance : DecidablePred IsInert
  | .char _ => inferInstanceAs (Decidable (_ ∧ _))
  | .half _ => inferInstanceAs (Decidable True)

theorem IsInert.ne_backslash {p : Point} (h : IsInert p) : p ≠ backslash := by
  rintro rfl
  exact h.1 rfl

/-- A token for which `partsFrom` gives its own code points. -/
def Token.IsKept : Token → Prop
  | .plain _ => True
  | .escaped p => IsInert p
  | .dangling => False

/-- Every `backslash` of the text, the last code point apart, stands before a code point that
`IsInert`. -/
def IsVerbatim (text : Points) : Prop :=
  text.IsChain fun p next => p = backslash → IsInert next

instance (text : Points) : Decidable (IsVerbatim text) :=
  inferInstanceAs (Decidable (List.IsChain _ _))

theorem isVerbatim_cons_of_ne {p : Point} (h : p ≠ backslash) (text : Points) :
    IsVerbatim (p :: text) ↔ IsVerbatim text := by
  cases text with
  | nil => simp [IsVerbatim]
  | cons next text => simp [IsVerbatim, h]

theorem isVerbatim_of_notMem {text : Points} (h : backslash ∉ text) : IsVerbatim text := by
  induction text with
  | nil => exact .nil
  | cons p text ih =>
    have hp : p ≠ backslash := fun hp => h (by simp [hp])
    exact (isVerbatim_cons_of_ne hp text).mpr (ih fun hmem => h (by simp [hmem]))

/-- `tokens` of a code point that is no `backslash`: a `plain` token. -/
theorem tokens_cons_of_ne {p : Point} (h : p ≠ backslash) (text : Points) :
    tokens (p :: text) = .plain p :: tokens text := by
  rw [tokens.eq_3 _ _ (fun _ _ hback _ => absurd hback h), if_neg h]

theorem tokens_append_of_notMem {front : Points} (h : backslash ∉ front) (text : Points) :
    tokens (front ++ text) = front.map .plain ++ tokens text := by
  induction front with
  | nil => rfl
  | cons p front ih =>
    have hp : p ≠ backslash := fun hp => h (by simp [hp])
    rw [List.cons_append, tokens_cons_of_ne hp, ih fun hmem => h (by simp [hmem])]
    rfl

/-- `Token.text` of the `tokens` spells the text. -/
theorem flatMap_text_tokens (text : Points) : (tokens text).flatMap Token.text = text := by
  fun_induction tokens text with
  | case1 => rfl
  | case2 p rest ih => simp [Token.text, backslash, ih]
  | case3 p rest _ ih =>
    have hfirst : Token.text (if p = backslash then .dangling else .plain p) = [p] := by
      split
      · rename_i hp
        rw [hp]
        rfl
      · rfl
    rw [List.flatMap_cons, hfirst, ih]
    rfl

/-- All `tokens` of a text without a `backslash` are `IsKept`. -/
theorem isKept_of_notMem {text : Points} (h : backslash ∉ text) :
    ∀ token ∈ tokens text, token.IsKept := by
  intro token hmem
  have htokens := tokens_append_of_notMem h []
  rw [List.append_nil] at htokens
  rw [htokens, show tokens [] = [] from rfl, List.append_nil] at hmem
  obtain ⟨p, -, rfl⟩ := List.mem_map.mp hmem
  trivial

/-- Before a `mark` that `IsInert`, the `tokens` of a text are `IsKept` exactly if the text
`IsVerbatim`. -/
theorem isKept_tokens_append_iff {mark : Point} {tail : Points} (hmark : IsInert mark)
    (htail : backslash ∉ tail) (text : Points) :
    (∀ token ∈ tokens (text ++ mark :: tail), token.IsKept) ↔ IsVerbatim text := by
  have hrest : backslash ∉ mark :: tail := by
    rw [List.mem_cons, not_or]
    exact ⟨fun heq => hmark.ne_backslash heq.symm, htail⟩
  fun_induction tokens text with
  | case1 => exact iff_of_true (isKept_of_notMem hrest) .nil
  | case2 p rest ih =>
    show (∀ token ∈ Token.escaped p :: tokens (rest ++ mark :: tail), token.IsKept) ↔ _
    rw [List.forall_mem_cons, IsVerbatim, List.isChain_cons_cons]
    constructor
    · rintro ⟨hkept, hrest⟩
      exact ⟨fun _ => hkept, (isVerbatim_cons_of_ne hkept.ne_backslash rest).mpr (ih.mp hrest)⟩
    · rintro ⟨hkept, hrest⟩
      exact ⟨hkept rfl, ih.mpr ((isVerbatim_cons_of_ne (hkept rfl).ne_backslash rest).mp hrest)⟩
  | case3 p rest hescape ih =>
    by_cases hp : p = backslash
    · -- A backslash at the end of the text is followed by the mark.
      have hnil : rest = [] := by
        cases rest with
        | nil => rfl
        | cons next rest => exact (hescape next rest hp rfl).elim
      subst hp hnil
      show (∀ token ∈ Token.escaped mark :: tokens tail, token.IsKept) ↔ _
      refine iff_of_true ?_ (List.isChain_singleton _)
      rw [List.forall_mem_cons]
      exact ⟨hmark, isKept_of_notMem htail⟩
    · rw [List.cons_append, tokens_cons_of_ne hp, List.forall_mem_cons, isVerbatim_cons_of_ne hp]
      exact (and_iff_right trivial).trans ih

/-! ### Kept tokens give their code points -/

theorem partsFrom_ahead_zero (position : Nat) (toks : List Token) :
    partsFrom (.ahead 0) position toks = partsFrom .parts position toks := by
  cases toks with
  | nil => rfl
  | cons token toks => simp only [partsFrom]

/-- `control?` gives a character for letters and the backslash only. -/
theorem control?_eq_none {c : Char} (hback : c ≠ '\\') (halpha : c.isAlpha = false) :
    control? c = none := by
  have hletter : ∀ letter : Char, letter.isAlpha = true → c ≠ letter := by
    rintro letter hletter rfl
    rw [hletter] at halpha
    cases halpha
  exact control?.eq_9 c (hletter 'a' rfl) (hletter 'b' rfl) (hletter 'f' rfl) (hletter 'n' rfl)
    (hletter 'r' rfl) (hletter 't' rfl) (hletter 'v' rfl) hback

/-- `escape` gives the `backslash` and the code point, if the code point `IsInert`. -/
theorem escape_of_isInert {p : Point} (h : IsInert p) (position : Nat) (rest : List Token) :
    escape position p rest = .ok ([.point backslash, .point p], 0) := by
  cases p with
  | half n => rfl
  | char c =>
    have halpha : c.isAlpha = false := (Bool.or_eq_false_iff.mp h.2).1
    have hdigit : c.isDigit = false := (Bool.or_eq_false_iff.mp h.2).2
    have hzero : c ≠ '0' := by
      rintro rfl
      exact absurd hdigit (by decide)
    rw [escape, escapeChar, if_neg hzero, hdigit, control?_eq_none h.1 halpha, halpha]
    rfl

/-- `partsFrom` gives tokens that are `IsKept` as their own code points. -/
theorem partsFrom_of_isKept {toks : List Token} (h : ∀ token ∈ toks, token.IsKept)
    (position : Nat) :
    partsFrom .parts position toks = .ok ((toks.flatMap Token.text).map .point) := by
  induction toks generalizing position with
  | nil => rfl
  | cons token toks ih =>
    have hrest := fun position => ih (fun other hmem => h other (List.mem_cons_of_mem _ hmem)) position
    have htoken := h token List.mem_cons_self
    cases token with
    | plain p =>
      rw [partsFrom, hrest]
      rfl
    | escaped p =>
      have hg : p ≠ .char 'g' := by
        rintro rfl
        exact absurd htoken.2 (by decide)
      simp only [partsFrom, if_neg hg, escape_of_isInert htoken, partsFrom_ahead_zero, hrest]
      rfl
    | dangling => exact htoken.elim

/-- `partsFrom` carries over the code points of `plain` tokens. -/
theorem partsFrom_plain_append (front : Points) (position : Nat) (toks : List Token) :
    partsFrom .parts position (front.map .plain ++ toks)
      = (partsFrom .parts (position + front.length) toks).map (front.map .point ++ ·) := by
  induction front generalizing position with
  | nil =>
    show partsFrom .parts position toks = (partsFrom .parts position toks).map ([] ++ ·)
    cases partsFrom .parts position toks <;> rfl
  | cons p front ih =>
    rw [List.map_cons, List.cons_append, partsFrom, ih, List.length_cons,
      show position + 1 + front.length = position + (front.length + 1) by omega]
    cases partsFrom .parts (position + (front.length + 1)) toks <;> rfl

theorem partsFrom_of_parts {text : Points} {given : List Part} (h : parts text = .ok given) :
    partsFrom .parts 0 (tokens text) = .ok given := by
  rw [parts] at h
  split at h
  · rename_i hgiven
    rw [hgiven, Except.ok.inj h]
  · cases h
  · cases h

/-! ### Other tokens give less than they have -/

/-- `escape` gives at most two parts, and two only for a code point that `IsInert`. -/
theorem length_of_escape {position used : Nat} {p : Point} {rest : List Token} {given : List Part}
    (h : escape position p rest = .ok (given, used)) :
    given.length ≤ 2 ∧ (given.length = 2 → IsInert p) := by
  cases p with
  | half n =>
    cases h
    exact ⟨by simp, fun _ => trivial⟩
  | char c =>
    rw [escape, escapeChar] at h
    -- The cases are those of `escapeChar`: a group, an octal number, a control character, a letter
    -- without a meaning, and what stands for itself.
    split at h
    · obtain ⟨rfl, -⟩ := Prod.mk.inj (Except.ok.inj h)
      exact ⟨by simp, by simp⟩
    · split at h
      · cases hnumbered : numbered position c rest with
        | error failure => simp [hnumbered, Except.map] at h
        | ok octal =>
          rw [hnumbered] at h
          obtain ⟨rfl, -⟩ := Prod.mk.inj (Except.ok.inj h)
          exact ⟨by simp, by simp⟩
      · rename_i hdigit
        split at h
        · obtain ⟨rfl, -⟩ := Prod.mk.inj (Except.ok.inj h)
          exact ⟨by simp, by simp⟩
        · rename_i hcontrol
          split at h
          · cases h
          · rename_i halpha
            obtain ⟨rfl, -⟩ := Prod.mk.inj (Except.ok.inj h)
            refine ⟨Nat.le_refl 2, fun _ => ⟨?_, ?_⟩⟩
            · rintro rfl
              cases hcontrol
            · simp [Char.isAlphanum, halpha, hdigit]

theorem length_text_pos (token : Token) : 0 < token.text.length := by
  cases token <;> simp [Token.text]

/-- There are no more parts in `given` than code points in the tokens, and as many only if every token
`IsKept`. -/
structure Fits (given : List Part) (toks : List Token) : Prop where
  le : given.length ≤ (toks.flatMap Token.text).length
  kept : given.length = (toks.flatMap Token.text).length → ∀ token ∈ toks, token.IsKept

/-- `Fits` for one token more, whose `piece` is no longer than its text, and as long only if it
`IsKept`. -/
theorem Fits.append {given : List Part} {toks : List Token} {token : Token} (h : Fits given toks)
    (piece : List Part) (hle : piece.length ≤ token.text.length)
    (hkept : piece.length = token.text.length → token.IsKept) :
    Fits (piece ++ given) (token :: toks) := by
  have hrest := h.le
  refine ⟨?_, ?_⟩
  · rw [List.flatMap_cons, List.length_append, List.length_append]
    omega
  · intro hlength
    rw [List.flatMap_cons, List.length_append, List.length_append] at hlength
    rw [List.forall_mem_cons]
    exact ⟨hkept (by omega), h.kept (by omega)⟩

/-- `Fits` for one token more that gives no part. -/
theorem Fits.skip {given : List Part} {toks : List Token} (h : Fits given toks) (token : Token) :
    Fits given (token :: toks) := by
  have hpos := length_text_pos token
  refine h.append [] (Nat.zero_le _) fun hzero => ?_
  rw [List.length_nil] at hzero
  omega

theorem exists_of_map_ok {α β ε : Type} {read : Except ε α} {f : α → β} {b : β}
    (h : read.map f = .ok b) : ∃ a, read = .ok a ∧ b = f a := by
  cases read with
  | error fault => cases h
  | ok a => exact ⟨a, rfl, (Except.ok.inj h).symm⟩

/-- `partsFrom` gives parts that `Fits` the tokens, in every state `reading`. -/
theorem fits_of_partsFrom {reading : Reading} {position : Nat} {toks : List Token}
    {given : List Part} (h : partsFrom reading position toks = .ok given) : Fits given toks := by
  induction toks generalizing reading position given with
  | nil =>
    have hnil : given = [] := by
      cases reading with
      | parts => exact (Except.ok.inj h).symm
      | ahead left => exact (Except.ok.inj h).symm
      | bracket => cases h
      | name start read =>
        rw [partsFrom] at h
        split at h
        · cases h
        · cases h
    subst hnil
    exact ⟨Nat.le_refl _, by simp⟩
  | cons token toks ih =>
    have hparts : ∀ {position : Nat} {given : List Part},
        partsFrom .parts position (token :: toks) = .ok given → Fits given (token :: toks) := by
      intro position given h
      cases token with
      | plain p =>
        obtain ⟨rest, hrest, rfl⟩ := exists_of_map_ok h
        exact (ih hrest).append [.point p] (Nat.le_refl 1) fun _ => trivial
      | dangling => cases h
      | escaped p =>
        simp only [partsFrom] at h
        split at h
        · exact (ih h).skip (.escaped p)
        · split at h
          · cases h
          · rename_i piece used hescape
            obtain ⟨rest, hrest, rfl⟩ := exists_of_map_ok h
            have hpiece := length_of_escape hescape
            exact (ih hrest).append piece hpiece.1 hpiece.2
    cases reading with
    | parts => exact hparts h
    | ahead left =>
      cases left with
      | zero =>
        rw [partsFrom_ahead_zero] at h
        exact hparts h
      | succ left =>
        rw [partsFrom] at h
        exact (ih h).skip token
    | bracket =>
      rw [partsFrom] at h
      split at h
      · exact (ih h).skip token
      · cases h
    | name start read =>
      rw [partsFrom] at h
      split at h
      · rename_i hclosed
        -- The bracket that closes a name gives one part, for its one character.
        split at h
        · cases h
        · split at h
          · cases h
          · rename_i part hgroup
            obtain ⟨rest, hrest, rfl⟩ := exists_of_map_ok h
            rw [hclosed]
            exact (ih hrest).append [part] (Nat.le_refl 1) fun _ => trivial
      · exact (ih h).skip token

/-! ### What comes out as it went in -/

theorem expand_point (text : Points) (found : Text) : expand (text.map .point) found = text := by
  rw [expand, List.flatMap_map]
  exact List.flatMap_singleton' text

/-- `expand` gives a code point for each part, if none of them is `whole`. -/
theorem length_expand {given : List Part} (h : .whole ∉ given) (found : Text) :
    (expand given found).length = given.length := by
  induction given with
  | nil => rfl
  | cons part given ih =>
    have hrest := ih fun hmem => h (List.mem_cons_of_mem _ hmem)
    cases part with
    | whole => exact absurd List.mem_cons_self h
    | point p =>
      show (expand given found).length + 1 = given.length + 1
      rw [hrest]

theorem infix_expand {given : List Part} (h : .whole ∈ given) (found : Text) :
    Points.ofText found <:+: expand given found := by
  obtain ⟨before, after, rfl⟩ := List.append_of_mem h
  rw [expand, List.flatMap_append, List.flatMap_cons]
  exact ⟨_, _, List.append_assoc _ _ _⟩

/-- If `expand` gives back a text that does not hold the match, then each of the `tokens` `IsKept`. -/
theorem isKept_of_expand_eq {position : Nat} {text : Points} {found : Text} {given : List Part}
    (h : partsFrom .parts position (tokens text) = .ok given)
    (hfound : ¬Points.ofText found <:+: text) (hsame : expand given found = text) :
    ∀ token ∈ tokens text, token.IsKept := by
  have hwhole : .whole ∉ given := fun hmem => hfound (hsame ▸ infix_expand hmem found)
  refine (fits_of_partsFrom h).kept ?_
  rw [flatMap_text_tokens, ← length_expand hwhole found, hsame]

end Externalize.Replacement
