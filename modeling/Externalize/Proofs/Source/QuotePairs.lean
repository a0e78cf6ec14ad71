import Externalize.Proofs.Source.Quotation
import Externalize.Proofs.Text.Line
import Mathlib.Data.List.Basic

/-!
# `Externalize.Proofs.Source.QuotePairs`: the literals of code, line by line

The rule for literals of code walks over the whole text. What it finds can be told without a walk:
the text is split at its line feeds, and in each line the double quotes are paired, the first with the
second and so on (`literalsOfLines`). `literals_code_eq_quotePairs` says that the two agree.

A walk could come out of step with the pairs at an odd quote. It does not, since a quote that no other
follows on its line opens nothing, and the next line begins with no quote open
(`literalsFrom_append_lineFeed`).
-/

set_option autoImplicit false

namespace Externalize

namespace Quotation

/-! ### Quotes in pairs -/

/-- Neighbours two by two: the first with the second, the third with the fourth and so on. One that is
left over at the end is dropped. -/
def pairUp {α : Type} : List α → List (α × α)
  | first :: second :: rest => (first, second) :: pairUp rest
  | _ => []

/-- Where the double quotes of a line stand in it. -/
def quotesOf (line : Text) : List Nat :=
  line.findIdxs (· == '"')

/-- The literal from one quote of a line to another, both told by their places in the line, which
begins at `start`. -/
def literalBetween (start : Nat) (line : Text) (quotes : Nat × Nat) : Literal :=
  { raw := (line.drop quotes.1).take (quotes.2 + 1 - quotes.1), position := start + quotes.1 }

/-- The literals of a line that begins at `start`: `literalBetween` for the pairs of its quotes. -/
def literalsOfLine (start : Nat) (line : Text) : List Literal :=
  (pairUp (quotesOf line)).map (literalBetween start line)

/-- `literalsOfLine` for lines with a line feed behind each but the last; the first begins at `start`. -/
def literalsOfLines : Nat → List Text → List Literal
  | _, [] => []
  | start, line :: rest =>
    literalsOfLine start line ++ literalsOfLines (start + line.length + 1) rest

/-! ### The pairs of one line -/

/-- The places of the quotes that `spell` puts before the pieces, the first of them at `start`. -/
def quotePlaces : Nat → List Text → List Nat
  | _, [] => []
  | start, piece :: rest => start :: quotePlaces (start + 1 + piece.length) rest

theorem findIdxs_spell {head : Text} {pieces : List Text} (hhead : '"' ∉ head)
    (h : ∀ piece ∈ pieces, '"' ∉ piece) (start : Nat) :
    (head ++ spell pieces).findIdxs (· == '"') start = quotePlaces (start + head.length) pieces := by
  have hnone : ∀ {text : Text} (start : Nat), '"' ∉ text → text.findIdxs (· == '"') start = [] := by
    intro text start htext
    rw [List.findIdxs_eq_nil_iff]
    intro c hc
    exact beq_false_of_ne fun heq => htext (heq ▸ hc)
  rw [List.findIdxs_append, hnone start hhead, List.nil_append]
  generalize start + head.length = place
  induction pieces generalizing place with
  | nil => rfl
  | cons piece pieces ih =>
    have hpiece : '"' ∉ piece := h piece (by simp)
    rw [spell_cons, List.findIdxs_cons, if_pos (beq_self_eq_true '"'), List.findIdxs_append,
      hnone _ hpiece, List.nil_append, ih fun other hmem => h other (List.mem_cons_of_mem _ hmem)]
    rfl

/-- `pairUp` of the `quotePlaces` behind a `front` gives the literals of `literalsOf`. The pieces are of
one line, so that no quote is left open before the last one. -/
theorem map_literalBetween_spell {pieces : List Text} (h : ∀ piece ∈ pieces, '\n' ∉ piece)
    (start : Nat) (front : Text) :
    (pairUp (quotePlaces front.length pieces)).map (literalBetween start (front ++ spell pieces))
      = literalsOf (start + front.length) pieces := by
  -- The walk takes two pieces at a time, and what it leaves behind goes over to the front.
  induction hplace : start + front.length, pieces using literalsOf.induct generalizing front with
  | case1 place => rfl
  | case2 place piece => rfl
  | case3 place value after rest hfeed ih => exact absurd hfeed (h value (by simp))
  | case4 place value after rest hfeed ih =>
    subst hplace
    have hfirst : literalBetween start (front ++ spell (value :: after :: rest))
        (front.length, front.length + 1 + value.length)
        = { raw := quoted value, position := start + front.length } := by
      have hcut : spell (value :: after :: rest) = quoted value ++ (after ++ spell rest) := by
        simp [quoted]
      have hlength : front.length + 1 + value.length + 1 - front.length = (quoted value).length := by
        rw [length_quoted]
        omega
      simp only [literalBetween, List.drop_left, hcut, hlength, List.take_left]
    have hfront : front ++ spell (value :: after :: rest)
        = (front ++ quoted value ++ after) ++ spell rest := by
      simp [quoted]
    have hnext : front.length + 1 + value.length + 1 + after.length
        = (front ++ quoted value ++ after).length := by
      simp only [List.length_append, length_quoted]
      omega
    have hrest := ih (fun piece hpiece => h piece (by simp [hpiece])) (front ++ quoted value ++ after)
      (by simp only [List.length_append, Nat.add_assoc])
    rw [quotePlaces, quotePlaces, pairUp, List.map_cons, hfirst, hfront, hnext, hrest, literalsOf,
      if_neg hfeed]

/-! ### The walk, line by line -/

/-- The `literals` of code that begins at `start`. -/
def literalsFrom (start : Nat) (text : Text) : List Literal :=
  (Text.hitsFrom start (Text.segments Literal.quotedRule text)).map fun (start, found) =>
    { raw := found, position := start }

/-- `literalsFrom` of one line is `literalsOfLine`. -/
theorem literalsFrom_line {line : Text} (h : '\n' ∉ line) (start : Nat) :
    literalsFrom start line = literalsOfLine start line := by
  obtain ⟨head, pieces, rfl, hhead, hpieces⟩ := exists_spell line
  have hfeed : ∀ piece ∈ pieces, '\n' ∉ piece := by
    intro piece hmem hpiece
    refine h (List.mem_append_right _ ?_)
    exact List.mem_flatMap.mpr ⟨piece, hmem, List.mem_cons_of_mem _ hpiece⟩
  rw [literalsFrom, hitsFrom_append hhead, hitsFrom_spell hpieces, literalsOfLine, quotesOf,
    findIdxs_spell hhead hpieces, Nat.zero_add, map_literalBetween_spell hfeed]

/-- `quotedRule` looks for no quote behind a line feed. -/
theorem quotedRule_ignores_lineFeed (rest : Text) : Literal.quotedRule.Ignores ('\n' :: rest) :=
  Text.enclosed_ignores (by decide) (by decide) (by decide) fun _ => rfl

/-- `literalsFrom` goes through the two sides of a line feed apart: it ends a quote that the line before
it left open. -/
theorem literalsFrom_append_lineFeed (start : Nat) (line rest : Text) :
    literalsFrom start (line ++ '\n' :: rest)
      = literalsFrom start line ++ literalsFrom (start + line.length + 1) rest := by
  rw [literalsFrom, Text.segments_append (quotedRule_ignores_lineFeed rest),
    Text.segments_cons_of_none (quotedRule_of_ne (by decide) rest), Text.hitsFrom_append,
    Text.flatMap_text_segments, Text.hitsFrom, List.map_append]
  rfl

/-- `literalsFrom` of a text is `literalsOfLines` of its lines. -/
theorem literalsFrom_eq_literalsOfLines (start : Nat) (text : Text) :
    literalsFrom start text = literalsOfLines start (text.splitOn '\n') := by
  induction text using Text.lineInduction generalizing start with
  | line line h =>
    rw [literalsFrom_line h, List.splitOn_eq_singleton h, literalsOfLines, literalsOfLines,
      List.append_nil]
  | feed line rest h ih =>
    rw [literalsFrom_append_lineFeed, literalsFrom_line h, ih,
      List.splitOn_append_cons_self_of_not_mem h, literalsOfLines]

end Quotation

/-- `literals .code` gives the pairs of quotes of the lines of a text (`Quotation.literalsOfLines`), the
lines being what `splitOn` a line feed gives. Each `position` is greater than the one before, and each
`raw` stands in the text at its `position`. -/
theorem literals_code_eq_quotePairs (text : Text) :
    literals .code text = Quotation.literalsOfLines 0 (text.splitOn '\n') ∧
      ((literals .code text).map Literal.position).Pairwise (· < ·) ∧
      ∀ literal ∈ literals .code text, literal.raw <+: text.drop literal.position := by
  refine ⟨Quotation.literalsFrom_eq_literalsOfLines 0 text, ?_, ?_⟩
  · have hplaces : (literals .code text).map Literal.position
        = (Text.hits Literal.quotedRule text).map Prod.fst := by
      rw [literals, List.map_map]
      rfl
    rw [hplaces]
    exact Text.pairwise_position_hits Literal.quotedRule text
  · intro literal hmem
    obtain ⟨⟨position, found⟩, hhit, rfl⟩ := List.mem_map.mp hmem
    exact Text.prefix_drop_of_mem_hits hhit

-- The quote of the first line and the last one are odd, and a carriage return ends no line.
example : Quotation.literalsOfLines 0 ("a\"b\n\"c\"\r\"\"\"".toList.splitOn '\n')
    = [{ raw := "\"c\"".toList, position := 4 }, { raw := "\"\"".toList, position := 8 }] := by
  decide

end Externalize
