import Externalize.Proofs.Naming
import Externalize.Proofs.Source.Markup
import Externalize.Proofs.Source.Scan
import Externalize.Source.Relink

/-!
# `Externalize.Proofs.Source.Weight`: relinking never gives a text back

Entry by entry a source gets lighter. A quote weighs most and the mark `@` least, and texts are
compared from their heads on. A link is lighter than the literal whose place it takes, from within the
first two characters (`Outweighs`), so a replacement that does anything makes the text lighter
(`replaceAll_lighter`). Relinking with the entries of a scan therefore leads to another text, whatever
the entries do to each other: `relink_lighter`.
-/

set_option autoImplicit false

namespace Externalize

/-- The weight of a character: the mark of a reference is lighter than any other character, and the
quote is heaviest. -/
def charWeight (c : Char) : Nat :=
  if c = '@' then 0 else if c = '"' then 2 else 1

/-- `text` is lighter than `other` in the lexicographic order by `charWeight`. -/
def Lighter (text other : Text) : Prop :=
  text.map charWeight < other.map charWeight

namespace Lighter

theorem irrefl (text : Text) : ¬Lighter text text :=
  List.lt_irrefl _

theorem trans {text other third : Text} (h : Lighter text other) (h' : Lighter other third) :
    Lighter text third :=
  List.lt_trans h h'

theorem cons (c : Char) {text other : Text} (h : Lighter text other) :
    Lighter (c :: text) (c :: other) :=
  List.Lex.cons h

theorem of_head {c d : Char} (h : charWeight c < charWeight d) (text other : Text) :
    Lighter (c :: text) (d :: other) :=
  List.Lex.rel h

theorem ne {text other : Text} (h : Lighter text other) : text ≠ other := by
  rintro rfl
  exact irrefl text h

end Lighter

/-- `text` is `other` or `Lighter`. -/
def NotHeavier (text other : Text) : Prop :=
  text = other ∨ Lighter text other

theorem NotHeavier.trans_lighter {text other third : Text} (h : NotHeavier text other)
    (h' : Lighter other third) : Lighter text third := by
  rcases h with rfl | h
  · exact h'
  · exact h.trans h'

theorem NotHeavier.trans {text other third : Text} (h : NotHeavier text other)
    (h' : NotHeavier other third) : NotHeavier text third := by
  rcases h' with rfl | h'
  · exact h
  · exact .inr (h.trans_lighter h')

/-- A text that begins with `link` is `Lighter` than one that begins with `raw`, whatever follows them. -/
def Outweighs (raw link : Text) : Prop :=
  ∀ text other, Lighter (link ++ text) (raw ++ other)

/-- `replaceAll` gives a text that is `NotHeavier`, if `raw` `Outweighs` the link. -/
theorem replaceAll_notHeavier {raw link : Text} (hne : raw ≠ []) (h : Outweighs raw link)
    (text : Text) : NotHeavier (Text.replaceAll raw link text) text := by
  obtain ⟨first, raw, rfl⟩ := List.exists_cons_of_ne_nil hne
  induction text with
  | nil => exact .inl rfl
  | cons c rest ih =>
    by_cases hp : (first :: raw) <+: (c :: rest)
    · obtain ⟨behind, hbehind⟩ := hp
      rw [← hbehind, Text.replaceAll_append]
      exact .inr (h _ _)
    · rw [Text.replaceAll_cons_of_miss _ hp]
      rcases ih with heq | hlighter
      · exact .inl (by rw [heq])
      · exact .inr (hlighter.cons c)

/-- `replaceAll` gives a `Lighter` text, if `raw` occurs in it and `Outweighs` the link. -/
theorem replaceAll_lighter {raw link : Text} (hne : raw ≠ []) (h : Outweighs raw link)
    {text : Text} (hwithin : raw <:+: text) : Lighter (Text.replaceAll raw link text) text := by
  obtain ⟨first, raw, rfl⟩ := List.exists_cons_of_ne_nil hne
  induction text with
  | nil => simp at hwithin
  | cons c rest ih =>
    by_cases hp : (first :: raw) <+: (c :: rest)
    · obtain ⟨behind, hbehind⟩ := hp
      rw [← hbehind, Text.replaceAll_append]
      exact h _ _
    · rw [Text.replaceAll_cons_of_miss _ hp]
      exact (ih ((List.infix_cons_iff.mp hwithin).resolve_left hp)).cons c

/-- A literal of code `Outweighs` its `reference`: it begins with a quote and the reference does not. -/
theorem outweighs_code (value : Text) (scheme : NameScheme) (name : Points) :
    Outweighs (quoted value) (scheme.reference .code name) := by
  intro text other
  rw [NameScheme.reference_code]
  cases scheme.accessor with
  | false => exact .of_head (by decide) _ _
  | true => exact .of_head (by decide) _ _

/-- A literal of markup `Outweighs` its `reference` in quotes: both begin with a quote, and then comes
the mark of a reference. -/
theorem outweighs_markup {value : Text} (hquote : '"' ∉ value) (hne : value ≠ [])
    (hat : value.head? ≠ some '@') (scheme : NameScheme) (name : Points) :
    Outweighs (quoted value) ('"' :: scheme.reference .markup name ++ ['"']) := by
  obtain ⟨c, value, rfl⟩ := List.exists_cons_of_ne_nil hne
  have hc : charWeight c = 1 := by
    have hc : c ≠ '@' := by simpa using hat
    have hc' : c ≠ '"' := fun heq => hquote (heq ▸ List.mem_cons_self)
    simp [charWeight, hc, hc']
  intro text other
  exact .cons _ (.of_head (by rw [hc]; decide) _ _)

section
variable {scheme : NameScheme} {kind : Kind} {text : Text} {count : Int} {result : Scan}

/-- The `raw` of every entry of a `scan` stands in the text and `Outweighs` its `link`. -/
theorem outweighs_of_scan (h : scan scheme kind text count = .ok result) {entry : Entry}
    (hmem : entry ∈ result.entries) :
    entry.raw ≠ [] ∧ Outweighs entry.raw (entry.link kind) ∧ entry.raw <:+: text := by
  obtain ⟨literal, hliteral, hblank, hraw⟩ :=
    (mem_raws_of_scan h entry.raw).mp (List.mem_map_of_mem hmem)
  obtain ⟨value, hquoted, hquote, -, hwithin, hat⟩ := exists_value_of_mem_literals hliteral
  have hvalue : value ≠ [] := by
    rintro rfl
    simp [Literal.value, hquoted, Text.isAllBlank] at hblank
  have href := scan_reference h hmem
  rw [← hraw]
  refine ⟨by simp [hquoted, quoted], ?_, hwithin⟩
  rw [hquoted]
  cases kind with
  | code =>
    rw [Entry.link, href]
    exact outweighs_code value scheme entry.name
  | markup =>
    rw [Entry.link, href]
    exact outweighs_markup hquote hvalue (hat rfl) scheme entry.name

theorem relink_cons (kind : Kind) (entry : Entry) (entries : List Entry) (text : Text) :
    relink kind (entry :: entries) text
      = relink kind entries (Text.replaceAll entry.raw (entry.link kind) text) := rfl

/-- `relink` gives a text that is `NotHeavier`. -/
theorem relink_notHeavier {entries : List Entry}
    (h : ∀ entry ∈ entries, entry.raw ≠ [] ∧ Outweighs entry.raw (entry.link kind)) (text : Text) :
    NotHeavier (relink kind entries text) text := by
  induction entries generalizing text with
  | nil => exact .inl rfl
  | cons entry entries ih =>
    obtain ⟨hne, hentry⟩ := h entry (by simp)
    rw [relink_cons]
    exact (ih (fun other hother => h other (by simp [hother])) _).trans
      (replaceAll_notHeavier hne hentry text)

/-- `relink` with the entries of a `scan` gives a `Lighter` text, if there are any. -/
theorem relink_lighter (h : scan scheme kind text count = .ok result) (hne : result.entries ≠ []) :
    Lighter (relink kind result.entries text) text := by
  -- The first entry stands in the text as it is, so its turn makes the text lighter, and no later turn
  -- makes it heavier.
  have houtweighs : ∀ entry ∈ result.entries, _ := fun entry hmem => outweighs_of_scan h hmem
  obtain ⟨entry, entries, hentries⟩ := List.exists_cons_of_ne_nil hne
  rw [hentries] at houtweighs ⊢
  obtain ⟨hraw, hentry, hwithin⟩ := houtweighs entry (by simp)
  have hrest : ∀ other ∈ entries, other.raw ≠ [] ∧ Outweighs other.raw (other.link kind) :=
    fun other hother =>
      let ⟨hraw, hother, _⟩ := houtweighs other (by simp [hother])
      ⟨hraw, hother⟩
  rw [relink_cons]
  exact (relink_notHeavier hrest _).trans_lighter (replaceAll_lighter hraw hentry hwithin)

end

end Externalize
