import Externalize.Proofs.Source.Attribute
import Externalize.Proofs.Text.Caseless

/-!
# `Externalize.Proofs.Source.Candidate`: every attribute of markup is found or covered

An attribute that holds a string is told here without the rule that looks for it: a front that spells
one of six names behind `android:`, in any letter case, and a value of one line between quotes that
does not begin with the mark of a reference (`Candidate.StandsIn`). `attributeRule_eq_some_iff` says
that the rule matches exactly these.

Attributes can overlap: the value of one may hold the front of another, and the quote that closes one
may be the quote that opens another. `literals_markup_attributes` says what becomes of them. Those that
are found are attributes of the text, in order and without overlap, and any other attribute of the text
begins within one that is found.
-/

set_option autoImplicit false

namespace Externalize

/-! ### Attributes and where they stand -/

/-- An attribute that holds a string, at a place. -/
structure Candidate where
  /-- Where its front begins. -/
  start : Nat
  /-- What stands before the quote that opens its value. -/
  front : Text
  /-- What stands between the quotes. -/
  value : Text
  deriving Repr, DecidableEq

namespace Candidate

/-- The names of the attributes that hold a string, as `Literal.attributeNames` has them. -/
def names : List String :=
  ["text", "title", "hint", "summary", "description", "label"]

/-- What stands before the value of the attribute `name`, in lower case. -/
def keyword (name : String) : Text :=
  "android:".toList ++ (name.toList ++ ['='])

/-- The text `front` spells the `keyword` of one of the `names`, with `Spells` for each letter. -/
def IsFront (front : Text) : Prop :=
  ∃ name ∈ names, List.Forall₂ Spells (keyword name) front

/-- The characters of the attribute, up to the quote that closes its value. -/
def text (candidate : Candidate) : Text :=
  candidate.front ++ quoted candidate.value

/-- Where the attribute ends: just behind the quote that closes its value. -/
def stop (candidate : Candidate) : Nat :=
  candidate.start + candidate.text.length

/-- The literal that `literals` gives for the attribute. -/
def literal (candidate : Candidate) : Literal :=
  { raw := quoted candidate.value, position := candidate.start + candidate.front.length }

/-- The `text` of the attribute stands in a text at its `start`, and its `front` and its value are as
`attributeRule` asks for. -/
structure StandsIn (candidate : Candidate) (text : Text) : Prop where
  here : candidate.text <+: text.drop candidate.start
  front : IsFront candidate.front
  /-- The first quote behind the one that opens the value closes it. -/
  closed : '"' ∉ candidate.value
  /-- No line feed comes before that quote. -/
  oneLine : '\n' ∉ candidate.value
  /-- The value does not begin with the mark of a reference. -/
  noReference : candidate.value.head? ≠ some '@' ∧ candidate.value.head? ≠ some '?'

/-- The `raw` of the `literal` stands at its `position`. -/
theorem StandsIn.prefix_drop {candidate : Candidate} {text : Text} (h : candidate.StandsIn text) :
    candidate.literal.raw <+: text.drop candidate.literal.position := by
  obtain ⟨rest, hrest⟩ := h.here
  rw [literal, ← List.drop_drop, ← hrest, Candidate.text, List.append_assoc, List.drop_left]
  exact List.prefix_append _ rest

end Candidate

/-! ### The rule matches the attributes -/

namespace Literal

open Candidate (IsFront keyword)

theorem dropKeyword?_keyword_iff {name : String} (h : name ∈ Candidate.names) (front : Text) :
    Text.dropKeyword? (keyword name) front = some [] ↔ List.Forall₂ Spells (keyword name) front := by
  have hlower : ∀ name ∈ Candidate.names, (keyword name).any Char.isUpper = false := by decide
  exact Text.dropKeyword?_eq_nil_iff (hlower name h) front

theorem isAttributeHead_iff (front : Text) : isAttributeHead front = true ↔ IsFront front := by
  have hnames : attributeNames = Candidate.names.map String.toList := rfl
  have hkeyword : ∀ name, keyword name = attributeSpace ++ (name.toList ++ ['=']) := fun _ => rfl
  -- An equals sign is met by itself alone, so that it is all that is left behind the name.
  have hequals : ∀ rest : Text, Text.dropKeyword? ['='] rest = some [] ↔ rest = ['='] := by
    intro rest
    rw [Text.dropKeyword?_eq_nil_iff (by decide)]
    simp [List.forall₂_cons_left_iff, Spells, otherCases, show Char.toUpper '=' = '=' by decide]
  rw [IsFront, isAttributeHead, hnames]
  simp only [Option.any_eq_true, List.any_eq_true, List.mem_map, beq_iff_eq]
  constructor
  · rintro ⟨rest, hspace, _, ⟨name, hname, rfl⟩, hdrop⟩
    refine ⟨name, hname, ?_⟩
    rw [← dropKeyword?_keyword_iff hname, hkeyword, Text.dropKeyword?_append, hspace,
      Option.bind_some, Text.dropKeyword?_append, hdrop, Option.bind_some, hequals]
  · rintro ⟨name, hname, hspells⟩
    rw [← dropKeyword?_keyword_iff hname, hkeyword, Text.dropKeyword?_append,
      Option.bind_eq_some_iff] at hspells
    obtain ⟨rest, hspace, hrest⟩ := hspells
    rw [Text.dropKeyword?_append, Option.bind_eq_some_iff] at hrest
    obtain ⟨left, hdrop, hleft⟩ := hrest
    exact ⟨rest, hspace, _, ⟨name, hname, rfl⟩, by rw [hdrop, (hequals left).mp hleft]⟩

theorem quote_notMem_of_isFront {front : Text} (h : IsFront front) : '"' ∉ front := by
  have hquotes : ∀ name ∈ Candidate.names, '"' ∉ keyword name := by decide
  obtain ⟨name, hname, hspells⟩ := h
  rw [← dropKeyword?_keyword_iff hname] at hspells
  obtain ⟨spelled, rfl, -, hspelled⟩ := Text.dropKeyword?_eq_some hspells (hquotes name hname)
  rwa [List.append_nil]

/-- `attributeRule` matches a text exactly if it begins with an `IsFront` and a quoted `IsPlainValue`,
and it matches up to the quote that closes the value. -/
theorem attributeRule_eq_some_iff {text : Text} {more : Nat} :
    attributeRule text = some more ↔
      ∃ front value, (front ++ quoted value) <+: text ∧ IsFront front ∧ '"' ∉ value ∧
        IsPlainValue value ∧ (front ++ quoted value).length = more + 1 := by
  -- `attributeRule_append` wants the two quotes written out.
  have hcut : ∀ front value rest : Text,
      front ++ (quoted value ++ rest) = front ++ '"' :: (value ++ '"' :: rest) := by
    intro front value rest
    simp [quoted]
  constructor
  · intro h
    obtain ⟨front, value, rest, rfl, hfront, hvalue, -, -, hmore⟩ := attributeRule_eq_some h
    rw [hcut, attributeRule_append hfront hvalue] at h
    split at h
    · rename_i hhit
      refine ⟨front, value, ?_, (isAttributeHead_iff front).mp hhit.1, hvalue, hhit.2, ?_⟩
      · rw [← List.append_assoc]
        exact List.prefix_append _ rest
      · rw [List.length_append, hmore]
    · cases h
  · rintro ⟨front, value, ⟨rest, rfl⟩, hfront, hvalue, hplain, hlength⟩
    rw [List.append_assoc, hcut, attributeRule_append (quote_notMem_of_isFront hfront) hvalue,
      if_pos ⟨(isAttributeHead_iff front).mpr hfront, hplain⟩, Option.some.injEq]
    rw [List.length_append, length_quoted] at hlength
    omega

end Literal

namespace Candidate

/-- The `Candidate` that a match of `attributeRule` is. -/
def ofHit (hit : Nat × Text) : Candidate :=
  let front := hit.2.takeWhile (· != '"')
  { start := hit.1, front, value := unquoted (hit.2.drop front.length) }

theorem ofHit_text {candidate : Candidate} {text : Text} (h : candidate.StandsIn text) :
    ofHit (candidate.start, candidate.text) = candidate := by
  have hfront := Literal.quote_notMem_of_isFront h.front
  have htake : candidate.text.takeWhile (· != '"') = candidate.front := by
    rw [Candidate.text, List.takeWhile_append_of_pos fun c hc => by
      simpa using fun heq : c = '"' => hfront (heq ▸ hc)]
    simp [quoted]
  simp only [ofHit, htake]
  rw [Candidate.text, List.drop_left, unquoted_quoted]

/-- `List.take` of a text gives the prefix `found` that is as long. -/
theorem cons_take_eq_of_prefix {c : Char} {rest found : Text} {more : Nat}
    (h : found <+: c :: rest) (hlength : found.length = more + 1) : c :: rest.take more = found := by
  rw [← List.take_succ_cons, ← hlength]
  exact (List.prefix_iff_eq_take.mp h).symm

/-- A match of `attributeRule` is a `Candidate` that `StandsIn` the text. -/
theorem standsIn_of_mem_hits {text : Text} {hit : Nat × Text}
    (h : hit ∈ Text.hits Literal.attributeRule text) :
    (ofHit hit).StandsIn text ∧ hit = ((ofHit hit).start, (ofHit hit).text) := by
  obtain ⟨start, found⟩ := hit
  obtain ⟨before, c, rest, more, rfl, rfl, hrule, rfl⟩ := Text.exists_of_mem_hitsFrom h
  obtain ⟨front, value, hprefix, hfront, hvalue, hplain, hlength⟩ :=
    Literal.attributeRule_eq_some_iff.mp hrule
  have hstands : StandsIn ⟨0 + before.length, front, value⟩ (before ++ c :: rest) := by
    refine ⟨?_, hfront, hvalue, hplain.1, hplain.2⟩
    rw [Nat.zero_add, List.drop_left]
    exact hprefix
  have hfound : c :: rest.take more = front ++ quoted value := cons_take_eq_of_prefix hprefix hlength
  have hhit := ofHit_text hstands
  rw [show Candidate.text ⟨0 + before.length, front, value⟩ = c :: rest.take more from hfound.symm]
    at hhit
  rw [hhit]
  exact ⟨hstands, Prod.ext rfl hfound⟩

/-- A `Candidate` that `StandsIn` the text is one of the `hits`, or one of them began before and reaches
past its start. -/
theorem StandsIn.mem_or_covered {candidate : Candidate} {text : Text} (h : candidate.StandsIn text) :
    (candidate.start, candidate.text) ∈ Text.hits Literal.attributeRule text ∨
      ∃ hit ∈ Text.hits Literal.attributeRule text,
        hit.1 < candidate.start ∧ candidate.start < hit.1 + hit.2.length := by
  have hne : text.drop candidate.start ≠ [] := by
    intro hnil
    have hlength := h.here.length_le
    simp [hnil, Candidate.text] at hlength
  obtain ⟨c, rest, hrest⟩ := List.exists_cons_of_ne_nil hne
  -- The text is cut where the candidate starts, and the rule matches behind the cut.
  have hstart : (text.take candidate.start).length = candidate.start := by
    have hlength := congrArg List.length hrest
    rw [List.length_drop, List.length_cons] at hlength
    rw [List.length_take]
    omega
  have htext : text = text.take candidate.start ++ c :: rest := by
    rw [← hrest, List.take_append_drop]
  have hprefix : candidate.text <+: c :: rest := hrest ▸ h.here
  obtain ⟨more, hmore⟩ : ∃ more, candidate.text.length = more + 1 :=
    ⟨candidate.front.length + candidate.value.length + 1, by simp [Candidate.text]; omega⟩
  have hrule : Literal.attributeRule (c :: rest) = some more :=
    Literal.attributeRule_eq_some_iff.mpr
      ⟨_, _, hprefix, h.front, h.closed, ⟨h.oneLine, h.noReference⟩, hmore⟩
  have hfound : c :: rest.take more = candidate.text := cons_take_eq_of_prefix hprefix hmore
  have hcovered := Text.mem_hitsFrom_or_covered hrule 0 (text.take candidate.start)
  rw [← htext, Nat.zero_add, hstart, hfound] at hcovered
  exact hcovered

/-- The `hits` of `attributeRule` are the texts of `Candidate`s that `StandsIn` the text. -/
theorem exists_candidates (text : Text) :
    ∃ found : List Candidate,
      Text.hits Literal.attributeRule text
          = found.map (fun candidate => (candidate.start, candidate.text)) ∧
        ∀ candidate ∈ found, candidate.StandsIn text := by
  refine ⟨(Text.hits Literal.attributeRule text).map ofHit, ?_, ?_⟩
  · rw [List.map_map]
    refine (List.map_id _).symm.trans (List.map_congr_left fun hit hmem => ?_)
    exact (standsIn_of_mem_hits hmem).2
  · intro candidate hmem
    obtain ⟨hit, hhit, rfl⟩ := List.mem_map.mp hmem
    exact (standsIn_of_mem_hits hhit).1

end Candidate

/-- `literals .markup` gives the literals of a list of `Candidate`s. Each of them `StandsIn` the text, with
the `raw` of its literal at the `position` of that, and each starts behind the one before. Any `Candidate`
that `StandsIn` the text is on the list or starts within one that is. -/
theorem literals_markup_attributes (text : Text) :
    ∃ found : List Candidate,
      literals .markup text = found.map Candidate.literal ∧
      (∀ candidate ∈ found, candidate.StandsIn text ∧
        candidate.literal.raw <+: text.drop candidate.literal.position) ∧
      found.Pairwise (fun earlier later => earlier.stop ≤ later.start) ∧
      ∀ candidate : Candidate, candidate.StandsIn text →
        candidate ∈ found ∨
          ∃ other ∈ found, other.start < candidate.start ∧ candidate.start < other.stop := by
  obtain ⟨found, hhits, hstands⟩ := Candidate.exists_candidates text
  refine ⟨found, ?_, ?_, ?_, ?_⟩
  · rw [literals, hhits, List.map_map]
    refine List.map_congr_left fun candidate hmem => ?_
    have hfront := Literal.quote_notMem_of_isFront (hstands candidate hmem).front
    exact Literal.ofAttribute_append hfront candidate.start candidate.value
  · intro candidate hmem
    exact ⟨hstands candidate hmem, (hstands candidate hmem).prefix_drop⟩
  · have hordered := Text.pairwise_hitsFrom 0 (Text.segments Literal.attributeRule text)
    rw [← Text.hits, hhits, List.pairwise_map] at hordered
    exact hordered
  · intro candidate hcandidate
    have hcovered := hcandidate.mem_or_covered
    rw [hhits] at hcovered
    rcases hcovered with hmem | ⟨_, hmem, hbefore, hwithin⟩
    · -- The match has the place and the characters of the attribute, and so it is the attribute.
      obtain ⟨other, hother, hsame⟩ := List.mem_map.mp hmem
      have heq : other = candidate := by
        rw [← Candidate.ofHit_text (hstands other hother), hsame, Candidate.ofHit_text hcandidate]
      exact .inl (heq ▸ hother)
    · obtain ⟨other, hother, rfl⟩ := List.mem_map.mp hmem
      exact .inr ⟨other, hother, hbefore, hwithin⟩

-- The second attribute begins in the value of the first one, whose last quote opens its own value.
example : literals .markup "android:text=\"android:HİNT=\"x\"".toList
    = [{ raw := "\"android:HİNT=\"".toList, position := 13 }] := by decide

end Externalize
