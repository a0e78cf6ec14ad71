import Externalize.Proofs.Naming
import Externalize.Proofs.Source.Markup
import Externalize.Proofs.Source.Scan
import Externalize.Proofs.Source.Stretch
import Externalize.Source.Relink

/-!
# `Externalize.Proofs.Source.InPlace`: when relinking replaces the literals where they stand

`relink` knows no positions: it takes the entries one after the other and replaces every occurrence
of a spelling. `inPlace` is what one expects of it, each literal of the text replaced where it
stands. The two agree unless a gap is captured. A gap is what stands between the end of a literal
and the next quote. If it spells the value of an entry, and that entry has its turn while the two
quotes around the gap still stand, then the quotes go with the gap (`Captured`).
`relink_eq_inPlace_iff` says that nothing else can go wrong.

Both sides are taken to the stretches of the text: relinking takes the entries to their turns
(`relink_render`, `replaceEntries_linked_iff`), replacing in place gives `linked` after the last turn
(`substitute_literalsOf`), and `exists_capturedAt_iff` tells a captured gap by its position.
-/

set_option autoImplicit false

namespace Externalize

/-! ### Replacing in place -/

/-- The place of the first entry with the given `raw` among the `entries`, at which `relink` gets to it;
their number if there is none. -/
def turn (entries : List Entry) (raw : Text) : Nat :=
  (entries.map Entry.raw).idxOf raw

/-- What a literal of code gives way to: the `link` of the entry with its `raw`, or the literal itself. -/
def linkOf (entries : List Entry) (raw : Text) : Text :=
  match entries.find? fun entry => entry.raw == raw with
  | some entry => entry.link .code
  | none => raw

/-- The text, which begins at `start`, with `link` of each of the literals in its place. -/
def substitute (link : Text → Text) : Nat → List Literal → Text → Text
  | _, [], text => text
  | start, literal :: rest, text =>
    text.take (literal.position - start) ++ link literal.raw ++
      substitute link (literal.position + literal.raw.length) rest
        (text.drop (literal.position - start + literal.raw.length))

/-- The code with `linkOf` each of its `literals` in its place. -/
def inPlace (entries : List Entry) (text : Text) : Text :=
  substitute (linkOf entries) 0 (literals .code text) text

/-- A gap between a literal and the next quote spells the value of an entry whose `turn` is before that
of the literal, and no later than that of the literal which the next quote opens, if it opens one. -/
def Captured (entries : List Entry) (text : Text) : Prop :=
  ∃ literal ∈ literals .code text, ∃ gap : Text,
    (gap ++ ['"']) <+: text.drop (literal.position + literal.raw.length) ∧
    turn entries (quoted gap) < turn entries literal.raw ∧
    ∀ next ∈ literals .code text,
      next.position = literal.position + literal.raw.length + gap.length →
        turn entries (quoted gap) ≤ turn entries next.raw

namespace Quotation

/-! ### The turns of the entries -/

/-- What the entries of a `scan` of code have: a `raw` that is the value between quotes, values of one
line, and no value twice. -/
structure AreQuoted (entries : List Entry) : Prop where
  nodup : (entries.map Entry.raw).Nodup
  raw : ∀ entry ∈ entries, entry.raw = quoted entry.value
  noQuote : ∀ entry ∈ entries, '"' ∉ entry.value
  oneLine : ∀ entry ∈ entries, '\n' ∉ entry.value

/-- The stretches after `replaceValue` for each of the entries. -/
def replaceEntries (entries : List Entry) (stretches : List Stretch) : List Stretch :=
  entries.foldl (fun stretches entry => replaceValue entry.value stretches) stretches

theorem pieces_replaceEntries (entries : List Entry) (stretches : List Stretch) :
    (replaceEntries entries stretches).flatMap Stretch.pieces
      = stretches.flatMap Stretch.pieces := by
  induction entries generalizing stretches with
  | nil => rfl
  | cons entry entries ih => exact (ih _).trans (pieces_replaceValue _ _)

theorem Extends.of_replaceEntries (entries : List Entry) (stretches : List Stretch) :
    Extends stretches (replaceEntries entries stretches) := by
  induction entries generalizing stretches with
  | nil => exact .refl _
  | cons entry entries ih => exact (of_replaceValue entry.value stretches).trans (ih _)

/-- The `turn` of an entry is the number of entries before it. -/
theorem turn_quoted_eq_iff {done rest : List Entry} {entry : Entry}
    (h : AreQuoted (done ++ entry :: rest)) (value : Text) :
    turn (done ++ entry :: rest) (quoted value) = done.length ↔ value = entry.value := by
  have hraw : entry.raw = quoted entry.value := h.raw entry (by simp)
  have hnodup := h.nodup
  rw [turn]
  rw [List.map_append, List.map_cons] at hnodup ⊢
  constructor
  · intro hturn
    -- The place of the spelling is that of the entry, so the spelling is that of the entry.
    have hlt : (done.map Entry.raw ++ entry.raw :: rest.map Entry.raw).idxOf (quoted value)
        < (done.map Entry.raw ++ entry.raw :: rest.map Entry.raw).length := by
      rw [hturn]
      simp
    have hget := List.getElem_idxOf hlt
    simp only [hturn] at hget
    rw [List.getElem_append_right (by simp)] at hget
    simp only [List.length_map, Nat.sub_self, List.getElem_cons_zero, hraw, quoted_inj] at hget
    exact hget.symm
  · rintro rfl
    have hnot : entry.raw ∉ done.map Entry.raw := by
      intro hmem
      exact (List.nodup_append.mp hnodup).2.2 _ hmem _ List.mem_cons_self rfl
    rw [← hraw, List.idxOf_append, if_neg hnot, List.idxOf_cons_self, List.length_map,
      Nat.zero_add]

/-- `replaceEntries` for the `rest` of the entries leads to the literals `linked` in place exactly if no
gap is `CapturedAt` their turns. -/
theorem replaceEntries_linked_iff {entries : List Entry} (h : AreQuoted entries)
    (done rest : List Entry) (hentries : done ++ rest = entries) (pieces : List Text) :
    replaceEntries rest (linked (fun v => turn entries (quoted v)) done.length pieces)
        = linked (fun v => turn entries (quoted v)) entries.length pieces ↔
      ∀ k, done.length ≤ k → k < entries.length →
        ¬CapturedAt (fun v => turn entries (quoted v)) k pieces := by
  induction rest generalizing done with
  | nil =>
    rw [List.append_nil] at hentries
    subst hentries
    exact ⟨fun _ k hk hlt => absurd hlt (by omega), fun _ => rfl⟩
  | cons entry rest ih =>
    subst hentries
    have hvalue := turn_quoted_eq_iff h
    have hline : '\n' ∉ entry.value := h.oneLine entry (by simp)
    have hlast : done.length < (done ++ entry :: rest).length := by simp
    -- A gap that is captured in this turn stays captured: later turns only add links.
    by_cases hcap : CapturedAt (fun v => turn (done ++ entry :: rest) (quoted v)) done.length pieces
    · refine ⟨fun heq => ?_, fun hall => absurd hcap (hall _ (Nat.le_refl _) hlast)⟩
      have hext := Extends.of_replaceEntries rest (replaceValue entry.value
        (linked (fun v => turn (done ++ entry :: rest) (quoted v)) done.length pieces))
      exact absurd (heq ▸ hext) (not_extends_of_capturedAt hvalue hline hlast hcap)
    · have hstep := replaceValue_linked hvalue hline hcap
      have hdone : (done ++ [entry]).length = done.length + 1 := by simp
      have hrest := ih (done ++ [entry]) (by simp)
      rw [hdone] at hrest
      refine Iff.trans ?_ (hrest.trans ?_)
      · rw [← hstep]
        rfl
      · refine ⟨fun hall k hk hlt => ?_, fun hall k hk hlt => hall k (by omega) hlt⟩
        rcases Nat.eq_or_lt_of_le hk with rfl | hk
        · exact hcap
        · exact hall k hk hlt

/-- The `reference` of the entry with that value; the mark `R.string.` alone if there is none. -/
def referenceOf (entries : List Entry) (value : Text) : Text :=
  match entries.find? fun entry => entry.raw == quoted value with
  | some entry => entry.reference
  | none => "R.string.".toList

theorem find?_raw {entries : List Entry} (h : (entries.map Entry.raw).Nodup) {entry : Entry}
    (hmem : entry ∈ entries) :
    (entries.find? fun other => other.raw == entry.raw) = some entry := by
  induction entries with
  | nil => simp at hmem
  | cons first entries ih =>
    rw [List.map_cons, List.nodup_cons] at h
    rcases List.mem_cons.mp hmem with rfl | hmem
    · simp
    · have hne : first.raw ≠ entry.raw := fun heq => h.1 (heq ▸ List.mem_map_of_mem hmem)
      simp [hne, ih h.2 hmem]

theorem referenceOf_value {entries : List Entry} (h : AreQuoted entries) {entry : Entry}
    (hmem : entry ∈ entries) : referenceOf entries entry.value = entry.reference := by
  rw [referenceOf, ← h.raw entry hmem, find?_raw h.nodup hmem]

/-- `relink` of what `render` makes of stretches is `replaceEntries` in the stretches. -/
theorem relink_render {ref : Text → Text} {mark : Text} (hquote : ∀ v, '"' ∉ ref v)
    (hmark : ∀ v, mark <:+: ref v) {entries : List Entry}
    (hentries : ∀ entry ∈ entries, entry.raw = quoted entry.value ∧ '"' ∉ entry.value ∧
      ¬mark <:+: entry.value ∧ ref entry.value = entry.reference)
    {head : Text} (hhead : '"' ∉ head) {stretches : List Stretch}
    (h : ∀ piece ∈ stretches.flatMap Stretch.pieces, '"' ∉ piece) :
    relink .code entries (head ++ render ref stretches)
      = head ++ render ref (replaceEntries entries stretches) := by
  induction entries generalizing stretches with
  | nil => rfl
  | cons entry entries ih =>
    obtain ⟨hraw, hvalue, hfree, href⟩ := hentries entry (by simp)
    have hpieces := pieces_replaceValue entry.value stretches
    have hturn : Text.replaceAll entry.raw (entry.link .code) (head ++ render ref stretches)
        = head ++ render ref (replaceValue entry.value stretches) := by
      rw [hraw, Entry.link, ← href, replaceAll_quoted_pass hhead,
        replaceAll_render hquote hmark hvalue hfree h]
    show relink .code entries
      (Text.replaceAll entry.raw (entry.link .code) (head ++ render ref stretches)) = _
    rw [hturn]
    exact ih (fun other hother => hentries other (by simp [hother])) (hpieces ▸ h)

/-! ### Positions and pieces -/

/-- `substitute` puts the link of the first literal in its place, and goes on behind it. -/
theorem substitute_cons (link : Text → Text) (base : Nat) (stretch raw : Text)
    (rest : List Literal) (text : Text) :
    substitute link base ({ raw, position := base + stretch.length } :: rest)
        (stretch ++ (raw ++ text))
      = stretch ++ (link raw ++ substitute link (base + stretch.length + raw.length) rest text) := by
  have hdrop : (stretch ++ (raw ++ text)).drop (stretch.length + raw.length) = text := by
    rw [← List.append_assoc, ← List.length_append, List.drop_left]
  simp only [substitute, Nat.add_sub_cancel_left, List.take_left, hdrop, List.append_assoc]

/-- `linkOf` a literal is the `referenceOf` its value exactly if its `turn` is that of an entry. -/
theorem linkOf_quoted (entries : List Entry) (value : Text) :
    linkOf entries (quoted value)
      = if turn entries (quoted value) < entries.length then referenceOf entries value
        else quoted value := by
  have hturn : turn entries (quoted value) < entries.length ↔
      quoted value ∈ entries.map Entry.raw := by
    rw [turn, ← List.idxOf_lt_length_iff, List.length_map]
  rw [linkOf, referenceOf]
  cases hfind : entries.find? fun entry => entry.raw == quoted value with
  | none =>
    have hnot : quoted value ∉ entries.map Entry.raw := by
      simpa using List.find?_eq_none.mp hfind
    rw [if_neg (fun hlt => hnot (hturn.mp hlt))]
  | some entry =>
    have hmem : quoted value ∈ entries.map Entry.raw := by
      have hraw : entry.raw = quoted value := by simpa using List.find?_some hfind
      exact hraw ▸ List.mem_map_of_mem (List.mem_of_find?_eq_some hfind)
    rw [if_pos (hturn.mpr hmem)]
    rfl

/-- `substitute` of `linkOf` in the text of the pieces is `render` of the literals `linked` in place. -/
theorem substitute_literalsOf {entries : List Entry} {base start : Nat} {stretch : Text}
    {pieces : List Text} (hstart : base + stretch.length = start) :
    substitute (linkOf entries) base (literalsOf start pieces) (stretch ++ spell pieces)
      = stretch ++ render (referenceOf entries)
          (linked (fun v => turn entries (quoted v)) entries.length pieces) := by
  induction start, pieces using literalsOf.induct generalizing base stretch with
  | case1 start => rfl
  | case2 start piece => simp [literalsOf, substitute, linked, Stretch.text]
  | case3 start value after rest hfeed ih =>
    have htext : stretch ++ spell (value :: after :: rest)
        = (stretch ++ '"' :: value) ++ spell (after :: rest) := by simp
    rw [literalsOf, if_pos hfeed, htext, ih (by simp; omega), linked, if_pos hfeed]
    simp [Stretch.text]
  | case4 start value after rest hfeed ih =>
    subst hstart
    have htext : stretch ++ spell (value :: after :: rest)
        = stretch ++ (quoted value ++ (after ++ spell rest)) := by simp [quoted]
    rw [literalsOf, if_neg hfeed, htext, substitute_cons, ih rfl, linkOf_quoted, linked,
      if_neg hfeed]
    split
    · simp [Stretch.text]
    · simp [Stretch.text, quoted]

/-- `linked rank k` still begins with a quote exactly if there is one, and the literal there, if there
is one, has a rank of at least `k`. -/
theorem linked_eq_quote_cons_iff (rank : Text → Nat) (k start : Nat) (pieces : List Text) :
    (∃ next more, linked rank k pieces = .quote next :: more) ↔
      pieces ≠ [] ∧ ∀ literal ∈ literalsOf start pieces, literal.position = start →
        k ≤ rank literal.value := by
  match pieces with
  | [] => simp [linked]
  | [piece] => simp [linked, literalsOf]
  | value :: after :: rest =>
    rw [linked, literalsOf]
    by_cases hfeed : '\n' ∈ value
    -- A line feed before the next quote: the quote opens nothing, and stays.
    · have hlater : ∀ literal ∈ literalsOf (start + 1 + value.length) (after :: rest),
          literal.position = start → k ≤ rank literal.value := fun literal hmem heq => by
        have := le_position_of_mem hmem
        omega
      simp only [if_pos hfeed]
      exact ⟨fun _ => ⟨by simp, hlater⟩, fun _ => ⟨_, _, rfl⟩⟩
    · have hlater : ∀ literal ∈ literalsOf (start + (quoted value).length + after.length) rest,
          literal.position ≠ start := fun literal hmem heq => by
        have := le_position_of_mem hmem
        simp only [length_quoted] at this
        omega
      simp only [if_neg hfeed]
      constructor
      · rintro ⟨next, more, hnext⟩
        refine ⟨by simp, fun literal hmem hpos => ?_⟩
        rcases List.mem_cons.mp hmem with rfl | hmem
        · by_cases hk : rank value < k
          · simp [hk] at hnext
          · simpa [Literal.value] using hk
        · exact absurd hpos (hlater literal hmem)
      · rintro ⟨-, hall⟩
        have hk : k ≤ rank value := by simpa [Literal.value] using hall _ List.mem_cons_self rfl
        exact ⟨value, .quote after :: linked rank k rest, by rw [if_neg (by omega)]⟩

/-- The gap behind the `literal` has a lower rank than it, and no higher one than the literal right
behind the gap, if there is one. -/
def Captures (rank : Text → Nat) (text : Text) (literals : List Literal) (literal : Literal) : Prop :=
  ∃ gap : Text, (gap ++ ['"']) <+: text.drop (literal.position + literal.raw.length) ∧
    rank gap < rank literal.value ∧
    ∀ next ∈ literals, next.position = literal.position + literal.raw.length + gap.length →
      rank gap ≤ rank next.value

/-- `Captures` does not depend on a literal further to the left, which is never the one behind the gap. -/
theorem captures_cons_iff {rank : Text → Nat} {text : Text} {first literal : Literal}
    {literals : List Literal} (h : first.position < literal.position + literal.raw.length) :
    Captures rank text (first :: literals) literal ↔ Captures rank text literals literal := by
  refine exists_congr fun gap => and_congr_right fun _ => and_congr_right fun _ => ?_
  refine ⟨fun hall next hmem => hall next (List.mem_cons_of_mem _ hmem), fun hall next hmem hpos => ?_⟩
  rcases List.mem_cons.mp hmem with rfl | hmem
  · omega
  · exact hall next hmem hpos

/-- `Captures` of the first literal: the gap is what stands before the next quote, so its rank is below
that of the literal while that quote still stands. -/
theorem captures_first_iff {rank : Text → Nat} {last : Nat} (hrank : ∀ v, rank v ≤ last)
    (hquote : ∀ v, rank v < last → '"' ∉ v) (before value : Text) {after : Text} (hafter : '"' ∉ after)
    (rest : List Text) :
    Captures rank (before ++ spell (value :: after :: rest))
        (literalsOf (before.length + (quoted value).length + after.length) rest)
        { raw := quoted value, position := before.length } ↔
      rank after < rank value ∧ ∃ next more, linked rank (rank after) rest = .quote next :: more := by
  have hdrop : (before ++ spell (value :: after :: rest)).drop
      (before.length + (quoted value).length) = after ++ spell rest := by
    have htext : before ++ spell (value :: after :: rest)
        = before ++ quoted value ++ (after ++ spell rest) := by simp [quoted]
    rw [htext, ← List.length_append, List.drop_left]
  have hvalue : Literal.value { raw := quoted value, position := before.length } = value := by
    simp [Literal.value]
  rw [Captures, hdrop, hvalue, linked_eq_quote_cons_iff rank (rank after)
    (before.length + (quoted value).length + after.length)]
  constructor
  · rintro ⟨gap, hgap, hlt, hall⟩
    have hlast : rank gap < last := Nat.lt_of_lt_of_le hlt (hrank value)
    -- Without another piece there is no quote for the gap to end at.
    have hne : rest ≠ [] := by
      rintro rfl
      rw [spell_nil, List.append_nil] at hgap
      exact hafter (hgap.subset (by simp))
    obtain ⟨piece, pieces, rfl⟩ := List.exists_cons_of_ne_nil hne
    obtain rfl : gap = after := (append_mark_prefix_iff (hquote gap hlast) hafter).mp hgap
    exact ⟨hlt, hne, hall⟩
  · rintro ⟨hlt, hne, hall⟩
    obtain ⟨piece, pieces, rfl⟩ := List.exists_cons_of_ne_nil hne
    exact ⟨after, ⟨piece ++ spell pieces, by simp⟩, hlt, hall⟩

/-- `CapturedAt` some turn, told by positions: some literal `Captures` its gap. -/
theorem exists_capturedAt_iff {rank : Text → Nat} {last : Nat}
    (hrank : ∀ v, rank v ≤ last) (hquote : ∀ v, rank v < last → '"' ∉ v) {start : Nat}
    {pieces : List Text} (hpieces : ∀ piece ∈ pieces, '"' ∉ piece) (before : Text)
    (hstart : before.length = start) :
    (∃ k, k < last ∧ CapturedAt rank k pieces) ↔
      ∃ literal ∈ literalsOf start pieces,
        Captures rank (before ++ spell pieces) (literalsOf start pieces) literal := by
  induction start, pieces using literalsOf.induct generalizing before with
  | case1 start => simp [CapturedAt, literalsOf]
  | case2 start piece => simp [CapturedAt, literalsOf]
  | case3 start value after rest hfeed ih =>
    have htext : before ++ spell (value :: after :: rest)
        = (before ++ '"' :: value) ++ spell (after :: rest) := by simp
    have hrest := ih (fun piece hpiece => hpieces piece (List.mem_cons_of_mem _ hpiece))
      (before ++ '"' :: value) (by simp; omega)
    simpa only [CapturedAt, if_pos hfeed, literalsOf, htext] using hrest
  | case4 start value after rest hfeed ih =>
    subst hstart
    have htext : before ++ spell (value :: after :: rest)
        = (before ++ quoted value ++ after) ++ spell rest := by simp [quoted]
    have hrest := ih (fun piece hpiece => hpieces piece (by simp [hpiece]))
      (before ++ quoted value ++ after) (by simp; omega)
    rw [← htext] at hrest
    -- The first literal stands behind no gap, so it only counts as the one that captures.
    let first : Literal := { raw := quoted value, position := before.length }
    have hbehind : first.position < first.position + first.raw.length := by simp [first]
    have hfirst := (captures_cons_iff hbehind).trans
      (captures_first_iff hrank hquote before value (hpieces after (by simp)) rest)
    have hlater : ∀ literal ∈ literalsOf (before.length + (quoted value).length + after.length) rest,
        first.position < literal.position + literal.raw.length := by
      intro literal hmem
      have hle := le_position_of_mem hmem
      rw [length_quoted] at hle
      show before.length < _
      omega
    simp only [CapturedAt, literalsOf, if_neg hfeed]
    constructor
    · rintro ⟨k, hk, ⟨hlt, rfl, hopen⟩ | hcap⟩
      · exact ⟨_, List.mem_cons_self, hfirst.mpr ⟨hlt, hopen⟩⟩
      · obtain ⟨literal, hmem, hcaptures⟩ := hrest.mp ⟨k, hk, hcap⟩
        exact ⟨literal, List.mem_cons_of_mem _ hmem,
          (captures_cons_iff (hlater literal hmem)).mpr hcaptures⟩
    · rintro ⟨literal, hmem, hcaptures⟩
      rcases List.mem_cons.mp hmem with rfl | hmem
      · obtain ⟨hlt, hopen⟩ := hfirst.mp hcaptures
        exact ⟨rank after, Nat.lt_of_lt_of_le hlt (hrank value), .inl ⟨hlt, rfl, hopen⟩⟩
      · obtain ⟨k, hk, hcap⟩ := hrest.mpr
          ⟨literal, hmem, (captures_cons_iff (hlater literal hmem)).mp hcaptures⟩
        exact ⟨k, hk, .inr hcap⟩

/-- `render` of `linked` of rank zero is the text of the pieces. -/
theorem render_linked_zero (ref : Text → Text) (rank : Text → Nat) (pieces : List Text) :
    render ref (linked rank 0 pieces) = spell pieces := by
  rw [linked_zero, render, spell, List.flatMap_map]
  rfl

section
variable {entries : List Entry} {head : Text} {pieces : List Text}

theorem relink_spell {mark : Text} (hquote : ∀ v, '"' ∉ referenceOf entries v)
    (hmark : ∀ v, mark <:+: referenceOf entries v)
    (hentries : ∀ entry ∈ entries, entry.raw = quoted entry.value ∧ '"' ∉ entry.value ∧
      ¬mark <:+: entry.value ∧ referenceOf entries entry.value = entry.reference)
    (hhead : '"' ∉ head) (hpieces : ∀ piece ∈ pieces, '"' ∉ piece) :
    relink .code entries (head ++ spell pieces)
      = head ++ render (referenceOf entries)
          (replaceEntries entries (linked (fun v => turn entries (quoted v)) 0 pieces)) := by
  rw [← relink_render hquote hmark hentries hhead (by rwa [pieces_linked]), render_linked_zero]

theorem inPlace_spell (hhead : '"' ∉ head) (hpieces : ∀ piece ∈ pieces, '"' ∉ piece) :
    inPlace entries (head ++ spell pieces)
      = head ++ render (referenceOf entries)
          (linked (fun v => turn entries (quoted v)) entries.length pieces) := by
  rw [inPlace, literals_spell hhead hpieces, substitute_literalsOf (Nat.zero_add _)]

theorem captured_spell_iff (h : AreQuoted entries) (hhead : '"' ∉ head)
    (hpieces : ∀ piece ∈ pieces, '"' ∉ piece) :
    Captured entries (head ++ spell pieces) ↔
      ∃ k, k < entries.length ∧ CapturedAt (fun v => turn entries (quoted v)) k pieces := by
  have hturn : ∀ v, turn entries (quoted v) ≤ entries.length := fun v => by
    rw [turn, ← List.length_map (f := Entry.raw)]
    exact List.idxOf_le_length
  have hquote : ∀ v, turn entries (quoted v) < entries.length → '"' ∉ v := by
    intro v hlt
    rw [turn, ← List.length_map (f := Entry.raw), List.idxOf_lt_length_iff, List.mem_map] at hlt
    obtain ⟨entry, hmem, hraw⟩ := hlt
    rw [h.raw entry hmem, quoted_inj] at hraw
    exact hraw ▸ h.noQuote entry hmem
  have hraw : ∀ literal ∈ literalsOf head.length pieces, quoted literal.value = literal.raw := by
    intro literal hmem
    obtain ⟨value, -, hvalue, -⟩ := exists_value_of_mem hmem
    rw [Literal.value, hvalue, unquoted_quoted]
  -- What is left apart is `quoted literal.value` on the one side and `literal.raw` on the other.
  rw [exists_capturedAt_iff hturn hquote hpieces head rfl, Captured, literals_spell hhead hpieces]
  refine exists_congr fun literal => and_congr_right fun hmem => ?_
  refine exists_congr fun gap => and_congr_right fun _ => ?_
  dsimp only
  rw [hraw literal hmem]
  refine and_congr_right fun _ => forall_congr' fun next => forall_congr' fun hnext => ?_
  rw [hraw next hnext]

end

end Quotation

/-! ### The entries of a scan -/

section
variable {scheme : NameScheme} {text : Text} {count : Int} {result : Scan}

/-- The `raw` of an entry of a `scan` of code is its value between quotes, and the value stands in the
text. -/
theorem entry_of_code (h : scan scheme .code text count = .ok result) {entry : Entry}
    (hmem : entry ∈ result.entries) :
    entry.raw = quoted entry.value ∧ '"' ∉ entry.value ∧ '\n' ∉ entry.value ∧
      entry.value <:+: text := by
  obtain ⟨literal, hliteral, -, hraw⟩ :=
    (mem_raws_of_scan h entry.raw).mp (List.mem_map_of_mem hmem)
  obtain ⟨value, hquoted, hquote, hfeed, hstands, -⟩ := exists_value_of_mem_literals hliteral
  have hvalue : entry.value = value := by
    rw [Entry.value, ← hraw, hquoted, unquoted_quoted]
  have hwithin : value <:+: literal.raw := hquoted ▸ ⟨['"'], ['"'], rfl⟩
  rw [hvalue, ← hraw]
  exact ⟨hquoted, hquote, hfeed, hwithin.trans hstands⟩

theorem areQuoted_of_scan (h : scan scheme .code text count = .ok result) :
    Quotation.AreQuoted result.entries where
  nodup := nodup_raws_of_scan h
  raw _ hmem := (entry_of_code h hmem).1
  noQuote _ hmem := (entry_of_code h hmem).2.1
  oneLine _ hmem := (entry_of_code h hmem).2.2.1

/-- Under the default names, the `referenceOf` a value holds the mark `R.string.` and no quote. -/
theorem referenceOf_of_scan {accessor : Bool}
    (hbuild : NameScheme.build none none accessor = .ok scheme)
    (h : scan scheme .code text count = .ok result) (value : Text) :
    '"' ∉ Quotation.referenceOf result.entries value ∧
      "R.string.".toList <:+: Quotation.referenceOf result.entries value := by
  rw [Quotation.referenceOf]
  split
  · rename_i entry hfind
    have hmem := List.mem_of_find?_eq_some hfind
    obtain ⟨number, hname⟩ := (scan_namesFrom h).exists_count hmem
    rw [scan_reference h hmem]
    exact ⟨NameScheme.quote_notMem_reference _ (NameScheme.quote_notMem_default_name hbuild hname),
      NameScheme.mark_infix_reference _ _⟩
  · exact ⟨by decide, List.infix_rfl⟩

end

/-- Take a `scan` of code under the default names, in which the mark of a reference does not stand. Every
literal that is not blank has an entry. `relink` replaces these literals where they stand and nothing else
(`inPlace`), exactly if no gap between literals is `Captured`. -/
theorem relink_eq_inPlace_iff {accessor : Bool} {scheme : NameScheme} {text : Text} {count : Int}
    {result : Scan} (hbuild : NameScheme.build none none accessor = .ok scheme)
    (hmark : ¬"R.string.".toList <:+: text) (hscan : scan scheme .code text count = .ok result) :
    (∀ literal ∈ literals .code text, literal.value.isAllBlank = false →
      ∃ entry ∈ result.entries, entry.raw = literal.raw) ∧
    (relink .code result.entries text = inPlace result.entries text ↔
      ¬Captured result.entries text) := by
  refine ⟨fun literal hmem hblank => ?_, ?_⟩
  · exact List.mem_map.mp ((mem_raws_of_scan hscan literal.raw).mpr ⟨literal, hmem, hblank, rfl⟩)
  have hquoted := areQuoted_of_scan hscan
  have href := referenceOf_of_scan hbuild hscan
  have hentries : ∀ entry ∈ result.entries, entry.raw = quoted entry.value ∧ '"' ∉ entry.value ∧
      ¬"R.string.".toList <:+: entry.value ∧
        Quotation.referenceOf result.entries entry.value = entry.reference := by
    intro entry hmem
    obtain ⟨hraw, hquote, -, hwithin⟩ := entry_of_code hscan hmem
    exact ⟨hraw, hquote, fun h => hmark (h.trans hwithin), Quotation.referenceOf_value hquoted hmem⟩
  -- Both sides are the rendering of stretches of the same pieces, so they can be compared there.
  obtain ⟨head, pieces, rfl, hhead, hpieces⟩ := Quotation.exists_spell text
  rw [Quotation.relink_spell (fun v => (href v).1) (fun v => (href v).2) hentries hhead hpieces,
    Quotation.inPlace_spell hhead hpieces, List.append_cancel_left_eq,
    Quotation.render_inj (fun v => (href v).1) (fun v => (href v).2) (by decide)
      (by rw [Quotation.pieces_replaceEntries, Quotation.pieces_linked, Quotation.pieces_linked]),
    Quotation.captured_spell_iff hquoted hhead hpieces]
  refine (Quotation.replaceEntries_linked_iff hquoted [] _ (List.nil_append _) pieces).trans ?_
  simp only [List.length_nil, Nat.zero_le, forall_const, not_exists, not_and]

/-- `relink_eq_inPlace_iff` at a literal that comes twice, with a blank one between: both are linked. -/
theorem relink_repeated_eq_inPlace :
    ∃ scheme result, NameScheme.build none none true = .ok scheme ∧
      ¬"R.string.".toList <:+: "f(\"a\" + \" \" + \"a\");".toList ∧
      scan scheme .code "f(\"a\" + \" \" + \"a\");".toList 0 = .ok result ∧
      relink .code result.entries "f(\"a\" + \" \" + \"a\");".toList
        = inPlace result.entries "f(\"a\" + \" \" + \"a\");".toList ∧
      ¬Captured result.entries "f(\"a\" + \" \" + \"a\");".toList := by
  have hmark : ¬"R.string.".toList <:+: "f(\"a\" + \" \" + \"a\");".toList := by decide +kernel
  have hbuild : NameScheme.build none none true
      = .ok ⟨NameScheme.defaultStem, NameScheme.defaultEnding, true⟩ := rfl
  have hscan : scan ⟨NameScheme.defaultStem, NameScheme.defaultEnding, true⟩ .code
      "f(\"a\" + \" \" + \"a\");".toList 0
        = .ok
          { kind := .code
            entries := [⟨Points.ofText "extracted_string1".toList, "\"a\"".toList,
              "ExtractedString.getString(R.string.extracted_string1)".toList⟩]
            found := 3, duplicates := 1, blanks := 1, count := 1 } := rfl
  have hsame := (relink_eq_inPlace_iff hbuild hmark hscan).2
  refine ⟨_, _, hbuild, hmark, hscan, ?_, hsame.mp ?_⟩
  · decide +kernel
  · decide +kernel

/-- `Captured` at a separator that is a literal itself and has the first `turn`: it is met between the
two literals behind it. They are not linked, and they lose the quotes that face each other. -/
theorem relink_separator_ne_inPlace :
    ∃ scheme result, NameScheme.build none none false = .ok scheme ∧
      ¬"R.string.".toList <:+: "f(\", \", \"a\", \"b\");".toList ∧
      scan scheme .code "f(\", \", \"a\", \"b\");".toList 0 = .ok result ∧
      relink .code result.entries "f(\", \", \"a\", \"b\");".toList
        ≠ inPlace result.entries "f(\", \", \"a\", \"b\");".toList := by
  refine ⟨⟨NameScheme.defaultStem, NameScheme.defaultEnding, false⟩,
    { kind := .code
      entries :=
        [⟨Points.ofText "extracted_string1".toList, "\", \"".toList,
            "getResources().getString(R.string.extracted_string1)".toList⟩,
          ⟨Points.ofText "extracted_string2".toList, "\"a\"".toList,
            "getResources().getString(R.string.extracted_string2)".toList⟩,
          ⟨Points.ofText "extracted_string3".toList, "\"b\"".toList,
            "getResources().getString(R.string.extracted_string3)".toList⟩]
      found := 3, duplicates := 0, blanks := 0, count := 3 },
    rfl, by decide +kernel, rfl, by decide +kernel⟩

end Externalize
