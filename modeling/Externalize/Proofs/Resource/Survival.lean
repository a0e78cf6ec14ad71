import Externalize.Proofs.Extraction.Store
import Externalize.Proofs.Naming
import Externalize.Proofs.Resource.Canonical
import Externalize.Proofs.Resource.Renumber

/-!
# `Externalize.Proofs.Resource.Survival`: values that survive in a resource document

The value of an entry is written as it is, and the document is read as lines with marks. So the line
of an entry is canonical exactly if its value has none of the marks that would cut the line or drop a
part of it (`canonical_entryLine_iff`). `Survives` names them; of the end of an entry it asks only
that no tag follows it.

Names from `Tame` templates have no marks and differ from count to count. The lines of entries that
are named in turn therefore come back from a document exactly if all their values survive:
`NamesFrom.entryLines_stored_iff`.
-/

set_option autoImplicit false

namespace Externalize

/-! ### Marks within an entry line -/

/-- A needle that ends with the `mark` and holds it nowhere else is not met across a `tail` without the
mark. -/
theorem infix_of_append_notMem {mark : Char} {front text tail : Text} (htail : mark ∉ tail)
    (h : (front ++ [mark]) <:+: (text ++ tail)) : (front ++ [mark]) <:+: text := by
  -- Read backwards the mark comes first, and a needle is told by its first character.
  have hback : (mark :: front.reverse) <:+: (tail.reverse ++ text.reverse) := by
    rw [← List.reverse_infix] at h
    simpa using h
  have hfront := infix_append_of_notMem (by simpa using htail) hback
  rw [← List.reverse_infix]
  simpa using hfront

namespace Document

open Text (IsOneLine)

/-- What `entryLines` reads of a value within its `entryLine` is the value: it `IsOneLine` and holds no
mark that reading acts on. `entryEnd` may stand within it, if no tag follows there. -/
structure Survives (value : Text) : Prop where
  oneLine : IsOneLine value
  opening : ¬openingStart <:+: value
  closing : ¬closing <:+: value
  declarationSingle : ¬declarationSingle <:+: value
  boundary : ∀ blanks, (∀ c ∈ blanks, isBlank c = true) →
    ¬(entryEnd ++ blanks ++ ['<']) <:+: (value ++ ['<'])

section
variable {name value : Text}

/-- A tag other than `<s` is met in an `entryLine` only from its value on. -/
theorem infix_of_infix_entryLine (hname : '<' ∉ name) {c : Char} {tail : Text} (hc : c ≠ 's')
    (h : ('<' :: c :: tail) <:+: entryLine name value) :
    ('<' :: c :: tail) <:+: (value ++ entryEnd) := by
  have hhead : '<' ∉ entryHead ++ name ++ ['"', '>'] := by
    have hfixed : '<' ∉ entryHead := by decide
    simp [hfixed, hname]
  have hline : entryLine name value
      = '<' :: ((entryHead ++ name ++ ['"', '>']) ++ (value ++ entryEnd)) := by
    rw [entryLine_eq, entryFront]
    simp
  rw [hline] at h
  rcases List.infix_cons_iff.mp h with hstart | hwithin
  · exact absurd (List.cons_prefix_cons.mp (List.cons_prefix_cons.mp hstart).2).1 hc
  · exact infix_append_of_notMem hhead hwithin

/-- What stands in the value and `entryEnd` stands in the `entryLine`. -/
theorem infix_entryLine {needle : Text} (h : needle <:+: (value ++ entryEnd)) (name : Text) :
    needle <:+: entryLine name value := by
  have hline : entryLine name value
      = ('<' :: (entryHead ++ name ++ ['"', '>'])) ++ (value ++ entryEnd) := by
    rw [entryLine_eq, entryFront]
    simp
  rw [hline]
  exact h.trans (List.suffix_append _ _).isInfix

/-- A tag that is not part of `entryEnd` is met in an `entryLine` exactly if the value holds it. -/
theorem infix_entryLine_iff (hname : '<' ∉ name) {needle : Text} {c : Char} {tail : Text}
    (hneedle : needle = '<' :: c :: tail) (hc : c ≠ 's') (htail : '<' ∉ c :: tail)
    (hend : ¬needle <:+: entryEnd) : needle <:+: entryLine name value ↔ needle <:+: value := by
  subst hneedle
  constructor
  · intro h
    rcases infix_append_mark htail (infix_of_infix_entryLine hname hc h) with hvalue | hback
    · exact hvalue
    · exact absurd hback hend
  · intro h
    exact infix_entryLine (h.trans (List.prefix_append _ _).isInfix) name

/-- An `openingStart` in the value is closed by the end of the `entryLine`. -/
theorem opening_entryLine_iff (hname : '<' ∉ name) :
    (∃ between, (openingStart ++ between ++ ['>']) <:+: entryLine name value) ↔
      openingStart <:+: value := by
  have hiff : openingStart <:+: entryLine name value ↔ openingStart <:+: value :=
    infix_entryLine_iff hname
      (show openingStart = '<' :: 'r' :: openingStart.drop 2 by decide +kernel)
      (by decide +kernel) (by decide +kernel) (by decide +kernel)
  constructor
  · rintro ⟨between, h⟩
    rw [List.append_assoc] at h
    exact hiff.mp ((List.prefix_append _ _).isInfix.trans h)
  · rintro ⟨front, rest, hrest⟩
    -- The last character of the line closes the tag, if none before it does.
    have hend : entryEnd = entryEnd.dropLast ++ ['>'] := by decide
    refine ⟨rest ++ entryEnd.dropLast, infix_entryLine ⟨front, [], ?_⟩ name⟩
    rw [← hrest, hend]
    simp

/-- An entry ends within its `entryLine` exactly if it does so within its value, where `entryEnd` counts
as a tag that follows. -/
theorem boundary_entryLine_iff (hname : '<' ∉ name) (blanks : Text) :
    (entryEnd ++ blanks ++ ['<']) <:+: entryLine name value ↔
      (entryEnd ++ blanks ++ ['<']) <:+: (value ++ ['<']) := by
  -- Of the tag at the end only its first character can belong to such an end of the entry.
  have hend : entryEnd = '<' :: '/' :: entryEnd.drop 2 := by decide
  have hsplit : value ++ entryEnd = (value ++ ['<']) ++ ('/' :: entryEnd.drop 2) := by
    rw [hend]
    simp
  constructor
  · intro h
    have hvalue : (entryEnd ++ blanks ++ ['<']) <:+: (value ++ entryEnd) :=
      infix_of_infix_entryLine hname (show '/' ≠ 's' by decide) h
    rw [hsplit] at hvalue
    exact infix_of_append_notMem (by decide) hvalue
  · intro h
    refine infix_entryLine (h.trans ?_) name
    rw [hsplit]
    exact (List.prefix_append _ _).isInfix

/-- An `entryLine` `IsOneLine` exactly if its value is, for a name that is. -/
theorem isOneLine_entryLine_iff (hname : IsOneLine name) :
    IsOneLine (entryLine name value) ↔ IsOneLine value := by
  have hhead : IsOneLine ('<' :: entryHead) := by decide
  have hmiddle : IsOneLine ['"', '>'] := by decide
  have hend : IsOneLine entryEnd := by decide
  rw [entryLine_eq, entryFront, ← List.cons_append, ← List.cons_append, ← List.cons_append]
  simp only [Text.isOneLine_append]
  exact ⟨fun h => h.1.2, fun h => ⟨⟨⟨⟨hhead, hname⟩, hmiddle⟩, h⟩, hend⟩⟩

/-- An `entryLine` is `Canonical` exactly if its value `Survives`. -/
theorem canonical_entryLine_iff (hline : IsOneLine name) (htag : '<' ∉ name) (hquote : '"' ∉ value) :
    Canonical (entryLine name value) ↔ Survives value := by
  have hclosing : closing <:+: entryLine name value ↔ closing <:+: value :=
    infix_entryLine_iff htag (show closing = '<' :: '/' :: closing.drop 2 by decide +kernel)
      (by decide +kernel) (by decide +kernel) (by decide +kernel)
  have hdouble : declaration <:+: entryLine name value ↔ declaration <:+: value :=
    infix_entryLine_iff htag (show declaration = '<' :: '?' :: declaration.drop 2 by decide +kernel)
      (by decide +kernel) (by decide +kernel) (by decide +kernel)
  have hsingle : declarationSingle <:+: entryLine name value ↔ declarationSingle <:+: value :=
    infix_entryLine_iff htag
      (show declarationSingle = '<' :: '?' :: declarationSingle.drop 2 by decide +kernel)
      (by decide +kernel) (by decide +kernel) (by decide +kernel)
  constructor
  · intro h
    exact
      { oneLine := (isOneLine_entryLine_iff hline).mp h.oneLine
        opening := fun hmark =>
          let ⟨between, hbetween⟩ := (opening_entryLine_iff htag).mpr hmark
          h.opening between hbetween
        closing := fun hmark => h.closing (hclosing.mpr hmark)
        declarationSingle := fun hmark => h.declarationSingle (hsingle.mpr hmark)
        boundary := fun blanks hblank hmark =>
          h.boundary blanks hblank ((boundary_entryLine_iff htag blanks).mpr hmark) }
  · intro h
    have hends : (entryLine name value).head? = some '<' ∧
        (entryLine name value).getLast? = some '>' := by
      rw [entryLine_eq, List.getLast?_append]
      exact ⟨rfl, rfl⟩
    exact
      { ne_nil := by rw [entryLine_eq]; simp [entryFront]
        stripped := Text.strip_of_ends hends.1 hends.2 (by decide) (by decide)
        oneLine := (isOneLine_entryLine_iff hline).mpr h.oneLine
        opening := fun between hmark => h.opening ((opening_entryLine_iff htag).mp ⟨between, hmark⟩)
        closing := fun hmark => h.closing (hclosing.mp hmark)
        -- The declaration holds quotes, and the value none.
        declaration := fun hmark => hquote ((hdouble.mp hmark).subset (by decide +kernel))
        declarationSingle := fun hmark => h.declarationSingle (hsingle.mp hmark)
        boundary := fun blanks hblank hmark =>
          h.boundary blanks hblank ((boundary_entryLine_iff htag blanks).mp hmark) }

end

end Document

/-! ### Tame names -/

/-- A character that has no meaning in a template, a replacement or a tag, and ends no line. -/
def TameChar (c : Char) : Prop :=
  c ∉ ['%', '\\', '"', '<', '>'] ∧ isLineBreak c = false

instance (c : Char) : Decidable (TameChar c) :=
  inferInstanceAs (Decidable (_ ∧ _))

/-- A template that is `none` or made of characters that are `TameChar`. -/
def Tame (template : Option Points) : Prop :=
  ∀ points ∈ template, ∀ c, Point.char c ∈ points → TameChar c

theorem Tame.isPlainTemplate {template : Option Points} (h : Tame template) :
    IsPlainTemplate template :=
  fun points hpoints hmem => (h points hpoints '%' hmem).1 (by simp)

theorem tame_ofText {text : Text} (h : (text.all fun c => TameChar c) = true) :
    Tame (some (Points.ofText text)) := by
  rintro _ ⟨⟩ c hc
  obtain ⟨_, hmem, ⟨⟩⟩ := List.mem_map.mp hc
  exact of_decide_eq_true (List.all_eq_true.mp h c hmem)

/-- `shown` of a template that is `Tame`, or of its `fallback`, is made of `TameChar`. -/
theorem Tame.tameChar {template : Option Points} (h : Tame template) {fallback : Points}
    (hfallback : (fallback.shown.all fun c => TameChar c) = true) :
    ∀ c ∈ (template.getD fallback).shown, TameChar c := by
  cases template with
  | none => exact fun c hc => of_decide_eq_true (List.all_eq_true.mp hfallback c hc)
  | some points =>
    intro c hc
    obtain ⟨point, hpoint, rfl⟩ := List.mem_map.mp hc
    cases point with
    | char c => exact h points rfl c hpoint
    | half n => exact (by decide : TameChar Point.replacement)

theorem tameChar_of_isDigit {c : Char} (h : c.isDigit = true) : TameChar c := by
  refine ⟨fun hmem => ?_, ?_⟩
  · simp only [List.mem_cons, List.not_mem_nil, or_false] at hmem
    rcases hmem with rfl | rfl | rfl | rfl | rfl <;> exact absurd h (by decide)
  · have hbounds : 48 ≤ c.toNat ∧ c.toNat ≤ 57 := by
      simpa [Char.isDigit, UInt32.le_iff_toNat_le] using h
    simp only [isLineBreak, Bool.or_eq_false_iff, Bool.and_eq_false_iff, decide_eq_false_iff_not,
      beq_eq_false_iff_ne]
    omega

namespace NameScheme

variable {stem ending : Option Points} {accessor : Bool} {scheme : NameScheme}

/-- `name` gives names of `TameChar`, if both templates are `Tame`. -/
theorem tameChar_of_mem_name (hstem : Tame stem) (hending : Tame ending)
    (h : build stem ending accessor = .ok scheme) {count : Int} {name : Points}
    (hname : scheme.name count = .ok name) {c : Char} (hc : c ∈ name.shown) : TameChar c := by
  obtain ⟨digits, hdigits, hshown⟩ :=
    exists_shown_name hstem.isPlainTemplate hending.isPlainTemplate h hname
  rw [hshown, label, Points.shown, List.map_append, List.mem_append, List.mem_append] at hc
  rcases hc with (hc | hc) | hc
  · exact hstem.tameChar (by decide) c hc
  · exact hending.tameChar (by decide) c hc
  · rcases Template.mem_decimal hdigits hc with rfl | hdigit
    · decide
    · exact tameChar_of_isDigit hdigit

end NameScheme

/-! ### Entries that are named in turn -/

/-- `Job.entryText` of entries: their `Entry.line`s, with a `Document.lineBreak` before each. -/
theorem flatMap_entryText (entries : List Entry) :
    entries.flatMap Job.entryText = (entries.map Entry.line).flatMap (Document.lineBreak ++ ·) := by
  rw [List.flatMap_map]
  rfl

namespace NameScheme.NamesFrom

variable {stem ending : Option Points} {accessor : Bool} {scheme : NameScheme} {count : Int}
  {entries : List Entry}

/-- The names of entries with `NamesFrom` are made of `TameChar`, if both templates are `Tame`. -/
theorem tameChar (hstem : Tame stem) (hending : Tame ending)
    (h : build stem ending accessor = .ok scheme) (hnames : scheme.NamesFrom count entries)
    {entry : Entry} (hmem : entry ∈ entries) : ∀ c ∈ entry.name.shown, TameChar c := by
  obtain ⟨number, hname⟩ := hnames.exists_count hmem
  intro c hc
  exact tameChar_of_mem_name hstem hending h hname hc

/-- The names of entries with `NamesFrom` differ, if both templates are `Tame`. -/
theorem nodup (hstem : Tame stem) (hending : Tame ending)
    (h : build stem ending accessor = .ok scheme) (hnames : scheme.NamesFrom count entries) :
    (entries.map fun entry => entry.name.shown).Nodup := by
  rw [List.Nodup, List.pairwise_map, List.pairwise_iff_getElem]
  intro i j hi hj hlt heq
  -- The names at two places are those of two counts.
  have hsame := shown_name_injective hstem.isPlainTemplate hending.isPlainTemplate h
    (hnames.name_getElem i hi) (hnames.name_getElem j hj) heq
  omega

/-- The `Entry.line`s of entries with `NamesFrom` differ, if both templates are `Tame`. -/
theorem nodup_lines (hstem : Tame stem) (hending : Tame ending)
    (h : build stem ending accessor = .ok scheme) (hnames : scheme.NamesFrom count entries) :
    (entries.map Entry.line).Nodup := by
  have hnodup := hnames.nodup hstem hending h
  rw [List.Nodup, List.pairwise_map] at hnodup ⊢
  refine hnodup.imp_of_mem fun hmem hmem' hne heq => hne ?_
  have hquote : ∀ entry ∈ entries, '"' ∉ entry.name.shown := fun entry hentry hc =>
    (hnames.tameChar hstem hending h hentry _ hc).1 (by simp)
  exact Document.entryLine_name_eq (hquote _ hmem) (hquote _ hmem') heq

/-- The `Entry.line` of an entry with `NamesFrom` is `Canonical` exactly if its value `Survives`. -/
theorem canonical_line_iff (hstem : Tame stem) (hending : Tame ending)
    (h : build stem ending accessor = .ok scheme) (hnames : scheme.NamesFrom count entries)
    {entry : Entry} (hmem : entry ∈ entries) (hquote : '"' ∉ entry.value) :
    Document.Canonical entry.line ↔ Document.Survives entry.value := by
  have htame := hnames.tameChar hstem hending h hmem
  exact Document.canonical_entryLine_iff (fun c hc => (htame c hc).2)
    (fun hc => (htame _ hc).1 (by simp)) hquote

/-- `Document.entryLines` of the entries as they are stored and laid out gives their `Entry.line`s
exactly if every value `Survives`. -/
theorem entryLines_stored_iff (hstem : Tame stem) (hending : Tame ending)
    (h : build stem ending accessor = .ok scheme) (hnames : scheme.NamesFrom count entries)
    (hquote : ∀ entry ∈ entries, '"' ∉ entry.value) :
    Document.entryLines (Document.format (Text.unifyBreaks (entries.flatMap Job.entryText)))
        = entries.map Entry.line ↔
      ∀ entry ∈ entries, Document.Survives entry.value := by
  have hne : ∀ line ∈ entries.map Entry.line, line ≠ [] := by
    intro line hmem
    obtain ⟨entry, -, rfl⟩ := List.mem_map.mp hmem
    rw [Entry.line, Document.entryLine_eq, Document.entryFront]
    simp
  rw [flatMap_entryText, Document.entryLines_format_iff hne (hnames.nodup_lines hstem hending h)]
  simp only [List.mem_map, forall_exists_index, and_imp, forall_apply_eq_imp_iff₂]
  exact forall₂_congr fun entry hmem =>
    hnames.canonical_line_iff hstem hending h hmem (hquote entry hmem)

end NameScheme.NamesFrom

end Externalize
