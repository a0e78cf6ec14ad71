import Externalize.Proofs.Source.Markup
import Externalize.Proofs.Source.QuotePairs
import Externalize.Proofs.Source.Scan
import Externalize.Source.Accessor

/-!
# `Externalize.Proofs.Source.Accessor`: the accessor class has nothing to extract

The source of the accessor class begins with a declaration that is cut out of a line of other code. A cut
may fall between two quotes and leave them paired in another way than before. If all literals of the code
are blank (`OnlyBlanks`), it does not:

* `OnlyBlanks.of_append`: what begins with a character that could not stand in a blank literal begins
  outside of every literal, so its quotes are paired as they were.
* `OnlyBlanks.append_of_prefix`: what ends earlier has fewer pairs, and at most an odd quote at its end.

A declaration begins with a letter, and a line feed stands between it and the class, so no quote of the
one is paired with a quote of the other.
-/

set_option autoImplicit false

namespace Externalize

/-! ### Code whose literals are all blank -/

/-- Each match of `quotedRule` in the code, taken `unquoted`, `isAllBlank`. -/
def OnlyBlanks (text : Text) : Prop :=
  ∀ found, .hit found ∈ Text.segments Literal.quotedRule text → (unquoted found).isAllBlank = true

/-- The matches in `hitsFrom` are the segments that are a `hit`. -/
theorem Text.exists_mem_hitsFrom_iff {found : Text} {parts : List Segment} (start : Nat) :
    (∃ position, (position, found) ∈ hitsFrom start parts) ↔ .hit found ∈ parts := by
  induction parts generalizing start with
  | nil => simp [hitsFrom]
  | cons part parts ih =>
    cases part with
    | plain c => simp [hitsFrom, ih]
    | hit other => simp [hitsFrom, ih, exists_or]

theorem onlyBlanks_iff {text : Text} :
    OnlyBlanks text ↔ ∀ literal ∈ literals .code text, literal.value.isAllBlank = true := by
  simp only [OnlyBlanks, ← Text.exists_mem_hitsFrom_iff 0, literals, Literal.value,
    List.forall_mem_map]
  constructor
  · intro h hit hmem
    exact h hit.2 ⟨hit.1, hmem⟩
  · intro h found hfound
    obtain ⟨position, hmem⟩ := hfound
    exact h (position, found) hmem

theorem onlyBlanks_cons_of_none {c : Char} {rest : Text} (h : Literal.quotedRule (c :: rest) = none) :
    OnlyBlanks (c :: rest) ↔ OnlyBlanks rest := by
  simp [OnlyBlanks, Text.segments_cons_of_none h]

theorem onlyBlanks_quoted_append {value : Text} (hquote : '"' ∉ value) (hfeed : '\n' ∉ value)
    (rest : Text) :
    OnlyBlanks (quoted value ++ rest) ↔ value.isAllBlank = true ∧ OnlyBlanks rest := by
  have hrule : Literal.quotedRule (quoted value ++ rest) = some (value.length + 1) := by
    rw [show quoted value ++ rest = '"' :: (value ++ '"' :: rest) by simp [quoted],
      Quotation.quotedRule_quote hquote, if_neg hfeed]
  rw [OnlyBlanks, Text.segments_append_of_some hrule (length_quoted value)]
  simp [OnlyBlanks]

/-- Code without a quote has `OnlyBlanks`. -/
theorem onlyBlanks_of_notMem {text : Text} (h : '"' ∉ text) : OnlyBlanks text := by
  induction text with
  | nil => simp [OnlyBlanks]
  | cons c text ih =>
    have hc : c ≠ '"' := fun hc => h (by simp [hc])
    rw [onlyBlanks_cons_of_none (Quotation.quotedRule_of_ne hc text)]
    exact ih fun hmem => h (List.mem_cons_of_mem c hmem)

/-- `OnlyBlanks` of the two sides of a line feed: no literal goes over it. -/
theorem onlyBlanks_append_lineFeed {line rest : Text} :
    OnlyBlanks (line ++ '\n' :: rest) ↔ OnlyBlanks line ∧ OnlyBlanks rest := by
  have hfeed : Literal.quotedRule ('\n' :: rest) = none := Quotation.quotedRule_of_ne (by decide) rest
  rw [← onlyBlanks_cons_of_none hfeed]
  simp only [OnlyBlanks, Text.segments_append (Quotation.quotedRule_ignores_lineFeed rest),
    List.mem_append, or_imp, forall_and]

namespace OnlyBlanks

/-- `OnlyBlanks` of what begins with a character that is neither blank nor a quote: it stands in no
blank literal. -/
theorem of_append {before rest : Text} {c : Char} (hblank : isBlank c = false) (hquote : c ≠ '"')
    (h : OnlyBlanks (before ++ c :: rest)) : OnlyBlanks (c :: rest) := by
  -- The walk takes a literal in one step, so the induction is on the length of what it has to pass.
  induction hn : before.length using Nat.strongRecOn generalizing before with
  | ind n ih =>
    subst hn
    cases before with
    | nil => exact h
    | cons d before =>
      cases hrule : Literal.quotedRule (d :: (before ++ c :: rest)) with
      | none =>
        rw [List.cons_append, onlyBlanks_cons_of_none hrule] at h
        exact ih before.length (by simp) h rfl
      | some more =>
        obtain ⟨value, after, hcut, hvalue, hfeed, -⟩ := Literal.quotedRule_eq_some hrule
        rw [List.cons_append, hcut, onlyBlanks_quoted_append hvalue hfeed] at h
        rcases List.append_eq_append_iff.mp (show (d :: before) ++ c :: rest = _ from hcut) with
          ⟨inside, hinside, hrest⟩ | ⟨behind, hbehind, rfl⟩
        · cases inside with
          | nil => exact hrest ▸ h.2
          | cons first inside =>
            -- The character would stand inside of a blank value.
            obtain ⟨rfl, -⟩ := List.cons.inj hrest
            have hmem : c ∈ quoted value := hinside ▸ by simp
            have hvalue : c ∈ value := by simpa [quoted, hquote] using hmem
            exact absurd (List.all_eq_true.mp h.1 c hvalue) (by simp [hblank])
        · refine ih behind.length ?_ h.2 rfl
          rw [hbehind, List.length_append, length_quoted]
          omega

/-- `OnlyBlanks` of a `front` of the text, also with a `tail` without quotes behind it. -/
theorem append_of_prefix {front after tail : Text} (htail : '"' ∉ tail)
    (h : OnlyBlanks (front ++ after)) : OnlyBlanks (front ++ tail) := by
  induction hn : front.length using Nat.strongRecOn generalizing front with
  | ind n ih =>
    subst hn
    cases front with
    | nil => exact onlyBlanks_of_notMem htail
    | cons c front =>
      by_cases hc : c = '"'
      · subst hc
        obtain ⟨value, pieces, rfl, hvalue, -⟩ := Quotation.exists_spell front
        cases pieces with
        | nil =>
          -- The quote is the last one.
          have hplain : '"' ∉ value ++ tail := by simp [hvalue, htail]
          rw [Quotation.spell_nil, List.append_nil, List.cons_append,
            onlyBlanks_cons_of_none (Quotation.quotedRule_last hplain)]
          exact onlyBlanks_of_notMem hplain
        | cons piece pieces =>
          -- The next quote closes a literal, unless a line feed stands before it.
          rw [Quotation.spell_cons] at h ih ⊢
          generalize piece ++ Quotation.spell pieces = rest at h ih ⊢
          by_cases hfeed : '\n' ∈ value
          · have hrule (text : Text) : Literal.quotedRule ('"' :: (value ++ '"' :: text)) = none := by
              rw [Quotation.quotedRule_quote hvalue, if_pos hfeed]
            simp only [List.cons_append, List.append_assoc, onlyBlanks_cons_of_none (hrule _)] at h ⊢
            have hrest := ih (value ++ '"' :: rest).length (by simp) (by simpa using h) rfl
            simpa using hrest
          · have hcut (text : Text) : '"' :: (value ++ '"' :: rest) ++ text
                = quoted value ++ (rest ++ text) := by
              simp [quoted]
            rw [hcut, onlyBlanks_quoted_append hvalue hfeed] at h ⊢
            exact ⟨h.1, ih rest.length (by simp; omega) h.2 rfl⟩
      · have hrule (rest : Text) := Quotation.quotedRule_of_ne hc rest
        rw [List.cons_append, onlyBlanks_cons_of_none (hrule _)] at h ⊢
        exact ih front.length (by simp) h rfl

/-- `OnlyBlanks` of a line above a text, with the line end of the class between them. -/
theorem above {line body : Text} (hline : OnlyBlanks line) (hbody : OnlyBlanks body) :
    OnlyBlanks (line ++ ['\r', '\n'] ++ body) := by
  rw [← List.append_nil line] at hline
  have hreturn : OnlyBlanks (line ++ ['\r']) := append_of_prefix (by decide) hline
  have hcut : line ++ ['\r', '\n'] ++ body = (line ++ ['\r']) ++ '\n' :: body := by simp
  rw [hcut]
  exact onlyBlanks_append_lineFeed.mpr ⟨hreturn, hbody⟩

end OnlyBlanks

/-! ### Scans that accept nothing -/

section
variable {scheme : NameScheme} {text : Text} {count : Int} {result : Scan}

/-- If `scan` accepts nothing of code, the code has `OnlyBlanks`. -/
theorem onlyBlanks_of_scan (h : scan scheme .code text count = .ok result)
    (hnone : result.entries = []) : OnlyBlanks text := by
  refine onlyBlanks_iff.mpr fun literal hmem => ?_
  by_contra hblank
  have hraw := (mem_raws_of_scan h literal.raw).mpr ⟨literal, hmem, by simpa using hblank, rfl⟩
  simp [hnone] at hraw

/-- `scan` of code with `OnlyBlanks` has nothing to name, so it ends well and accepts nothing. -/
theorem OnlyBlanks.scan_eq_ok (h : OnlyBlanks text) (scheme : NameScheme) (count : Int) :
    ∃ result, scan scheme .code text count = .ok result ∧ result.entries = [] :=
  scan_of_isAllBlank (onlyBlanks_iff.mp h) scheme count

end

/-! ### The source of the class -/

namespace Accessor

/-- `OnlyBlanks` of lines that are put together with the line end of the class. -/
theorem onlyBlanks_intercalate {lines : List Text} (h : ∀ line ∈ lines, OnlyBlanks line) :
    OnlyBlanks (List.intercalate ['\r', '\n'] lines) := by
  induction lines with
  | nil => exact onlyBlanks_of_notMem (by decide)
  | cons line lines ih =>
    obtain ⟨hline, hlines⟩ := List.forall_mem_cons.mp h
    cases lines with
    | nil => simpa using hline
    | cons next lines =>
      rw [List.intercalate_cons_cons]
      exact hline.above (ih hlines)

/-- `classText` has two literals, and both are empty. -/
theorem onlyBlanks_classText : OnlyBlanks classText := by
  -- A line is looked at as the list of its characters, since decoding it is slow.
  have hspelled {line : List Char}
      (hline : ∀ literal ∈ literals .code line, literal.value.isAllBlank = true) :
      OnlyBlanks (String.ofList line).toList := by
    rw [String.toList_ofList]
    exact onlyBlanks_iff.mpr hline
  refine onlyBlanks_intercalate (List.forall_mem_map.mpr ?_)
  unfold classLines
  repeat refine List.forall_mem_cons.mpr ⟨hspelled (by decide +kernel), ?_⟩
  simp

/-- A match of `packageRule` begins with the letter `p`. -/
theorem head_of_packageRule {c : Char} {rest : Text} {more : Nat}
    (h : packageRule (c :: rest) = some more) : c = 'p' := by
  unfold packageRule Text.enclosed at h
  split at h
  · rename_i hstart
    have hstart : 'p' :: "ackage ".toList <+: c :: rest := List.isPrefixOf_iff_prefix.mp hstart
    exact (List.cons_prefix_cons.mp hstart).1.symm
  · cases h

/-- `source` keeps `OnlyBlanks`. -/
theorem onlyBlanks_source {text : Text} (h : OnlyBlanks text) : OnlyBlanks (source text) := by
  unfold source
  split
  · rename_i position declaration hits hhits
    have hmem : (position, declaration) ∈ Text.hitsFrom 0 (Text.segments packageRule text) := by
      rw [← Text.hits, hhits]
      exact List.mem_cons_self
    obtain ⟨before, c, rest, more, rfl, -, hrule, rfl⟩ := Text.exists_of_mem_hitsFrom hmem
    obtain rfl := head_of_packageRule hrule
    have hfrom : OnlyBlanks ('p' :: rest) := h.of_append (by decide) (by decide)
    have hcut : 'p' :: rest = ('p' :: rest.take more) ++ rest.drop more := by
      rw [List.cons_append, List.take_append_drop]
    have hdeclaration : OnlyBlanks ('p' :: rest.take more ++ []) :=
      OnlyBlanks.append_of_prefix (by decide) (hcut ▸ hfrom)
    rw [List.append_nil] at hdeclaration
    exact hdeclaration.above onlyBlanks_classText
  · exact onlyBlanks_classText

end Accessor

/-- **The accessor class is never extracted itself.** If `scan` accepts nothing of code, it accepts nothing
of the `Accessor.source` of that code, under any scheme and from any count on, whatever stands in the
package declaration that is copied. -/
theorem Accessor.scan_source_accepts_nothing {scheme : NameScheme} {text : Text} {count : Int}
    {result : Scan} (h : scan scheme .code text count = .ok result) (hnone : result.entries = [])
    (scheme' : NameScheme) (count' : Int) :
    ∃ result', scan scheme' .code (Accessor.source text) count' = .ok result' ∧
      result'.entries = [] :=
  (Accessor.onlyBlanks_source (onlyBlanks_of_scan h hnone)).scan_eq_ok scheme' count'

/-- `Accessor.scan_source_accepts_nothing` at blank literals before the declaration and in it, and at an
odd quote at its end, which the rest of its line does not close either. -/
theorem Accessor.scan_source_accepts_nothing_odd_quote :
    let text := "f(\" \"); package a\"\".b \"c; d".toList
    let scheme : NameScheme :=
      { stem := Points.ofText "s_%s".toList, ending := Points.ofText "%s".toList, accessor := true }
    Accessor.source text = "package a\"\".b \"c;\r\n".toList ++ Accessor.classText ∧
    ∃ result, scan scheme .code (Accessor.source text) 7 = .ok result ∧ result.entries = [] := by
  intro text scheme
  obtain ⟨result, hscan, hnone⟩ := exists_scan_of_entries
    (show (scan scheme .code text 0).toOption.map Scan.entries = some [] by decide +kernel)
  have hhits : Text.hits Accessor.packageRule text = [(8, "package a\"\".b \"c;".toList)] := by
    decide +kernel
  refine ⟨?_, Accessor.scan_source_accepts_nothing hscan hnone scheme 7⟩
  rw [Accessor.source, hhits]
  show "package a\"\".b \"c;".toList ++ ['\r', '\n'] ++ Accessor.classText = _
  rw [show "package a\"\".b \"c;\r\n".toList = "package a\"\".b \"c;".toList ++ ['\r', '\n'] by decide +kernel]

end Externalize
