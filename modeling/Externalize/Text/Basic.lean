/-!
# `Externalize.Text.Basic`: texts, and the matches of a rule in them

A text is the list of its characters, so positions and lengths count code points.

All searching goes through one notion. A `Rule` looks at a text from some position on and says
whether it matches there and how far. `segments` walks a text from left to right, cuts it at the
matches, which never overlap, and leaves every other character on its own. Finding, replacing and
removing are then maps over the segments, and `flatMap_text_segments` says that cutting loses
nothing.
-/

set_option autoImplicit false

namespace Externalize

/-- A text, character by character. -/
abbrev Text := List Char

/-- How a rule matches at the head of a text: the number of characters its match takes *after the
first one*, or `none`. A match is therefore never empty. -/
abbrev Rule := Text → Option Nat

/-- One stretch of a text that `segments` cut at the matches of a rule. -/
inductive Segment
  /-- A character outside every match. -/
  | plain (c : Char)
  /-- A whole match. -/
  | hit (found : Text)
  deriving Repr, DecidableEq

namespace Segment

/-- The characters a segment stands for. -/
def text : Segment → Text
  | .plain c => [c]
  | .hit found => found

/-- Whether the segment lies outside every match. -/
def isPlain : Segment → Bool
  | .plain _ => true
  | .hit _ => false

end Segment

namespace Text

/-- Whether `text` comes before `other`: by the first characters that differ, or because the other goes
on from it. -/
def precedes (text other : Text) : Bool :=
  text.lex other fun c d => decide (c.toNat < d.toNat)

/-! ### Cutting a text at the matches of a rule -/

/-- The loop of `segments`: `skip` characters still belong to the match that was found last, and
`done` holds the segments so far, latest first. -/
def segmentsFrom (rule : Rule) : Text → Nat → List Segment → List Segment
  | [], _, done => done.reverse
  | _ :: rest, skip + 1, done => segmentsFrom rule rest skip done
  | c :: rest, 0, done =>
    match rule (c :: rest) with
    | none => segmentsFrom rule rest 0 (.plain c :: done)
    | some more => segmentsFrom rule rest more (.hit (c :: rest.take more) :: done)

/-- The text cut at the matches of `rule`, leftmost first and without overlap. -/
def segments (rule : Rule) (text : Text) : List Segment :=
  segmentsFrom rule text 0 []

theorem segmentsFrom_eq (rule : Rule) (text : Text) (skip : Nat) (done : List Segment) :
    segmentsFrom rule text skip done = done.reverse ++ segments rule (text.drop skip) := by
  induction text generalizing skip done with
  | nil => simp [segmentsFrom, segments]
  | cons c rest ih =>
    cases skip with
    | succ skip => rw [segmentsFrom, ih, List.drop_succ_cons]
    | zero =>
      rw [List.drop_zero, segments, segmentsFrom, segmentsFrom]
      split
      · rw [ih, ih]; simp
      · rw [ih, ih]; simp

@[simp]
theorem segments_nil (rule : Rule) : segments rule [] = [] := rfl

/-- `segments` where the rule does not match: one character stands alone and the walk goes on. -/
theorem segments_cons_of_none {rule : Rule} {c : Char} {rest : Text}
    (h : rule (c :: rest) = none) :
    segments rule (c :: rest) = .plain c :: segments rule rest := by
  rw [segments, segmentsFrom, h]
  simp [segmentsFrom_eq]

/-- `segments` where the rule matches: the match is one segment and the walk goes on behind it. -/
theorem segments_cons_of_some {rule : Rule} {c : Char} {rest : Text} {more : Nat}
    (h : rule (c :: rest) = some more) :
    segments rule (c :: rest) = .hit (c :: rest.take more) :: segments rule (rest.drop more) := by
  rw [segments, segmentsFrom, h]
  simp [segmentsFrom_eq]

/-- `segments` loses nothing: `Segment.text` of the segments spells the text. -/
theorem flatMap_text_segments (rule : Rule) (text : Text) :
    (segments rule text).flatMap Segment.text = text := by
  induction h : text.length using Nat.strongRecOn generalizing text with
  | ind n ih =>
    subst h
    cases text with
    | nil => rfl
    | cons c rest =>
      cases hr : rule (c :: rest) with
      | none =>
        rw [segments_cons_of_none hr, List.flatMap_cons, ih rest.length (by simp) rest rfl]
        rfl
      | some more =>
        have hlt : (rest.drop more).length < (c :: rest).length := by
          simp only [List.length_drop, List.length_cons]; omega
        rw [segments_cons_of_some hr, List.flatMap_cons, ih _ hlt _ rfl]
        simp [Segment.text]

/-! ### Finding and replacing -/

/-- The matches in the text, each with the position of its first character; `start` is the position
of the first segment. -/
def hitsFrom : Nat → List Segment → List (Nat × Text)
  | _, [] => []
  | start, .plain _ :: rest => hitsFrom (start + 1) rest
  | start, .hit found :: rest => (start, found) :: hitsFrom (start + found.length) rest

/-- The matches of `rule` in the text, each with the position of its first character. -/
def hits (rule : Rule) (text : Text) : List (Nat × Text) :=
  hitsFrom 0 (segments rule text)

/-- The text with every match of `rule` replaced. -/
def replaceHits (rule : Rule) (replacement : Text) (text : Text) : Text :=
  (segments rule text).flatMap fun
    | .plain c => [c]
    | .hit _ => replacement

/-- Matches the `needle` itself. -/
def literally (needle : Text) : Rule := fun text =>
  if needle.isPrefixOf text then some (needle.length - 1) else none

/-- The text with every occurrence of `old` replaced by `new`, from left to right and without
overlap. The empty text occurs before every character and at the end. -/
def replaceAll (old new : Text) (text : Text) : Text :=
  match old with
  | [] => new ++ text.flatMap fun c => c :: new
  | _ :: _ => replaceHits (literally old) new text

/-- Whether `needle` occurs in the text. -/
def occursIn (needle : Text) : Text → Bool
  | [] => needle.isEmpty
  | c :: rest => needle.isPrefixOf (c :: rest) || occursIn needle rest

/-- The number of characters before the first occurrence of `needle`, provided that no line feed
stands among them. -/
def distanceInLine? (needle : Text) : Nat → Text → Option Nat
  | before, [] => if needle.isEmpty then some before else none
  | before, c :: rest =>
    if needle.isPrefixOf (c :: rest) then some before
    else if c = '\n' then none
    else distanceInLine? needle (before + 1) rest

/-- Matches from `opening` to the nearest `closing` behind it, both on one line as far as line feeds
tell. -/
def enclosed (opening closing : Text) : Rule := fun text =>
  if opening.isPrefixOf text then
    (distanceInLine? closing 0 (text.drop opening.length)).map fun between =>
      opening.length + between + closing.length - 1
  else none

end Text

end Externalize
