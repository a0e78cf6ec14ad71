import Externalize.Proofs.Text.Hits
import Externalize.Source.Literal

/-!
# `Externalize.Proofs.Source.Quotation`: code cut at its double quotes

Every text is a head without double quotes and then pieces without them, each behind a quote
(`exists_spell`). On the pieces the literals of code can be told by recursion: a quote opens a literal
if another quote follows on its line, and the walk goes on behind that one, so that the piece between
two literals is never looked at (`literalsOf`, `literals_spell`).
-/

set_option autoImplicit false

namespace Externalize

/-- A value between double quotes. -/
def quoted (value : Text) : Text :=
  '"' :: (value ++ ['"'])

@[simp]
theorem length_quoted (value : Text) : (quoted value).length = value.length + 2 := by
  simp [quoted]

@[simp]
theorem unquoted_quoted (value : Text) : unquoted (quoted value) = value := by
  simp [unquoted, quoted]

@[simp]
theorem quoted_inj {value value' : Text} : quoted value = quoted value' ↔ value = value' := by
  simp [quoted]

namespace Quotation

/-- The text of the pieces, with a double quote before each. -/
def spell (pieces : List Text) : Text :=
  pieces.flatMap ('"' :: ·)

@[simp]
theorem spell_nil : spell [] = [] := rfl

@[simp]
theorem spell_cons (piece : Text) (pieces : List Text) :
    spell (piece :: pieces) = '"' :: (piece ++ spell pieces) := rfl

/-- Every text is a `head` and what `spell` makes of some `pieces`, none with a double quote in it. -/
theorem exists_spell (text : Text) :
    ∃ head pieces, text = head ++ spell pieces ∧ '"' ∉ head ∧ ∀ piece ∈ pieces, '"' ∉ piece := by
  induction text with
  | nil => exact ⟨[], [], rfl, by simp, by simp⟩
  | cons c text ih =>
    obtain ⟨head, pieces, rfl, hhead, hpieces⟩ := ih
    by_cases hc : c = '"'
    · exact ⟨[], head :: pieces, by simp [hc], by simp, by simpa using ⟨hhead, hpieces⟩⟩
    · exact ⟨c :: head, pieces, rfl, by simpa using ⟨Ne.symm hc, hhead⟩, hpieces⟩

/-! ### The rule for literals -/

/-- `distanceInLine?` to the quote behind a value: there is none if a line feed stands in the value. -/
theorem distanceInLine?_quote (before : Nat) {value : Text} (hvalue : '"' ∉ value) (rest : Text) :
    Text.distanceInLine? ['"'] before (value ++ '"' :: rest)
      = if '\n' ∈ value then none else some (before + value.length) := by
  induction value generalizing before with
  | nil => simp [Text.distanceInLine?]
  | cons c value ih =>
    have hc : '"' ≠ c := fun h => hvalue (List.mem_cons.mpr (.inl h))
    have hvalue' : '"' ∉ value := fun h => hvalue (by simp [h])
    by_cases hn : c = '\n'
    · simp [Text.distanceInLine?, hn]
    · have hn' : '\n' ≠ c := Ne.symm hn
      simp only [List.cons_append, Text.distanceInLine?, ih _ hvalue', List.mem_cons, hn', false_or,
        hn, if_false]
      simp [hc, Nat.add_assoc, Nat.add_comm 1]

/-- `distanceInLine?` to a quote is `none` in a text without one. -/
theorem distanceInLine?_no_quote (before : Nat) {value : Text} (hvalue : '"' ∉ value) :
    Text.distanceInLine? ['"'] before value = none := by
  induction value generalizing before with
  | nil => rfl
  | cons c value ih =>
    have hc : '"' ≠ c := fun h => hvalue (List.mem_cons.mpr (.inl h))
    have hvalue' : '"' ∉ value := fun h => hvalue (by simp [h])
    simp [Text.distanceInLine?, ih _ hvalue', hc]

theorem quotedRule_of_ne {c : Char} (h : c ≠ '"') (rest : Text) :
    Literal.quotedRule (c :: rest) = none := by
  simp [Literal.quotedRule, Text.enclosed, Ne.symm h]

theorem quotedRule_quote {value : Text} (hvalue : '"' ∉ value) (rest : Text) :
    Literal.quotedRule ('"' :: (value ++ '"' :: rest))
      = if '\n' ∈ value then none else some (value.length + 1) := by
  simp only [Literal.quotedRule, Text.enclosed, List.isPrefixOf_iff_prefix,
    List.cons_prefix_cons, List.nil_prefix, and_true, if_true, List.length_singleton,
    List.drop_succ_cons, List.drop_zero, distanceInLine?_quote 0 hvalue]
  split
  · rfl
  · simp only [Option.map_some]
    congr 1
    omega

theorem quotedRule_last {value : Text} (hvalue : '"' ∉ value) :
    Literal.quotedRule ('"' :: value) = none := by
  simp [Literal.quotedRule, Text.enclosed, distanceInLine?_no_quote 0 hvalue]

/-! ### The literals of the pieces -/

/-- The literals of the text that `spell` makes of the pieces, whose first quote stands at `start`. -/
def literalsOf : Nat → List Text → List Literal
  | _, [] => []
  | _, [_] => []
  | start, value :: after :: rest =>
    if '\n' ∈ value then literalsOf (start + 1 + value.length) (after :: rest)
    else { raw := quoted value, position := start } ::
      literalsOf (start + (quoted value).length + after.length) rest

/-- `quotedRule` matches nowhere in a `stretch` without quotes, so that `hitsFrom` passes over it. -/
theorem hitsFrom_append {stretch : Text} (h : '"' ∉ stretch) (start : Nat) (rest : Text) :
    Text.hitsFrom start (Text.segments Literal.quotedRule (stretch ++ rest))
      = Text.hitsFrom (start + stretch.length) (Text.segments Literal.quotedRule rest) := by
  induction stretch generalizing start with
  | nil => rfl
  | cons c stretch ih =>
    have hc : c ≠ '"' := fun hc => h (by simp [hc])
    rw [List.cons_append, Text.segments_cons_of_none (quotedRule_of_ne hc _), Text.hitsFrom,
      ih fun hmem => h (by simp [hmem]), List.length_cons,
      show start + 1 + stretch.length = start + (stretch.length + 1) by omega]

/-- `literalsOf` gives the matches of `quotedRule` in the text that `spell` makes of the pieces. -/
theorem hitsFrom_spell {pieces : List Text} (h : ∀ piece ∈ pieces, '"' ∉ piece) (start : Nat) :
    (Text.hitsFrom start (Text.segments Literal.quotedRule (spell pieces))).map
        (fun (start, found) => { raw := found, position := start : Literal })
      = literalsOf start pieces := by
  induction start, pieces using literalsOf.induct with
  | case1 start => rfl
  | case2 start piece =>
    have hpiece : '"' ∉ piece := h piece (by simp)
    rw [spell_cons, spell_nil, List.append_nil,
      Text.segments_cons_of_none (quotedRule_last hpiece), Text.hitsFrom]
    have hrest := hitsFrom_append hpiece (start + 1) []
    rw [List.append_nil] at hrest
    rw [hrest]
    rfl
  | case3 start value after rest hfeed ih =>
    -- A line feed comes before the next quote, so this one opens nothing.
    have hvalue : '"' ∉ value := h value (by simp)
    have hrule : Literal.quotedRule ('"' :: (value ++ spell (after :: rest))) = none := by
      rw [spell_cons, quotedRule_quote hvalue, if_pos hfeed]
    rw [spell_cons, Text.segments_cons_of_none hrule, Text.hitsFrom,
      hitsFrom_append hvalue, ih fun piece hpiece => h piece (List.mem_cons_of_mem _ hpiece),
      literalsOf, if_pos hfeed]
  | case4 start value after rest hfeed ih =>
    have hvalue : '"' ∉ value := h value (by simp)
    have hafter : '"' ∉ after := h after (by simp)
    have hrule : Literal.quotedRule ('"' :: (value ++ spell (after :: rest)))
        = some (value.length + 1) := by
      rw [spell_cons, quotedRule_quote hvalue, if_neg hfeed]
    -- The match takes the value and the quote behind it, and the walk goes on behind that.
    have hcut : value ++ spell (after :: rest) = (value ++ ['"']) ++ (after ++ spell rest) := by
      simp
    have hlength : value.length + 1 = (value ++ ['"']).length := by simp
    rw [spell_cons, Text.segments_cons_of_some hrule, hcut, hlength, List.take_left, List.drop_left,
      show '"' :: (value ++ ['"']) = quoted value from rfl, Text.hitsFrom, List.map_cons,
      hitsFrom_append hafter, ih fun piece hpiece => h piece (by simp [hpiece]), literalsOf,
      if_neg hfeed]

/-- `literals .code` of a head and what `spell` makes of some pieces is `literalsOf` the pieces. -/
theorem literals_spell {head : Text} {pieces : List Text} (hhead : '"' ∉ head)
    (h : ∀ piece ∈ pieces, '"' ∉ piece) :
    literals .code (head ++ spell pieces) = literalsOf head.length pieces := by
  rw [literals, Text.hits, hitsFrom_append hhead, Nat.zero_add, hitsFrom_spell h]

/-- The `position` of each of `literalsOf start` is at least `start`. -/
theorem le_position_of_mem {start : Nat} {pieces : List Text} {literal : Literal}
    (h : literal ∈ literalsOf start pieces) : start ≤ literal.position := by
  induction start, pieces using literalsOf.induct with
  | case1 start => simp [literalsOf] at h
  | case2 start piece => simp [literalsOf] at h
  | case3 start value after rest hfeed ih =>
    rw [literalsOf, if_pos hfeed] at h
    have := ih h
    omega
  | case4 start value after rest hfeed ih =>
    rw [literalsOf, if_neg hfeed] at h
    rcases List.mem_cons.mp h with rfl | h
    · exact Nat.le_refl _
    · have := ih h
      omega

/-- The `raw` of each of `literalsOf` is one of the pieces, on one line and between quotes. -/
theorem exists_value_of_mem {start : Nat} {pieces : List Text} {literal : Literal}
    (h : literal ∈ literalsOf start pieces) :
    ∃ value ∈ pieces, literal.raw = quoted value ∧ '\n' ∉ value := by
  induction start, pieces using literalsOf.induct with
  | case1 start => simp [literalsOf] at h
  | case2 start piece => simp [literalsOf] at h
  | case3 start value after rest hfeed ih =>
    rw [literalsOf, if_pos hfeed] at h
    obtain ⟨piece, hpiece, hraw⟩ := ih h
    exact ⟨piece, List.mem_cons_of_mem _ hpiece, hraw⟩
  | case4 start value after rest hfeed ih =>
    rw [literalsOf, if_neg hfeed] at h
    rcases List.mem_cons.mp h with rfl | h
    · exact ⟨value, by simp, rfl, hfeed⟩
    · obtain ⟨piece, hpiece, hraw⟩ := ih h
      exact ⟨piece, by simp [hpiece], hraw⟩

end Quotation

end Externalize
