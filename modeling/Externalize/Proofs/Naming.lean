import Externalize.Proofs.Template.Fill

/-!
# `Externalize.Proofs.Naming`: the names that templates of escaped text give

A template of escaped text stands for a text before the value (`StandsFor`), be the placeholder
written or added. A scheme of two such templates names a count by the two texts followed by the count
in decimal: `name_eq_ok_iff_of_standsFor`. Since decimals are injective, no two counts get one name.
Escaped text that ends like the placeholder gets none added and has no place for the value, and then
there is no scheme. Together this is `escaped_templates_name`.

Templates without a percent sign stand for themselves, so they name a count by a label of their own
and the count in decimal: `name_eq_ok_iff`, `shown_name_injective`.
-/

set_option autoImplicit false

namespace Externalize

/-! ### Templates of escaped text -/

/-- The text that a template of `Template.IsEscaped` text puts before the value: `fallback` for no
template, and else what `Template.unescape` makes of it. -/
inductive StandsFor (fallback : Points) : Option Points → Points → Prop
  | absent : StandsFor fallback none fallback
  /-- A placeholder is added. -/
  | bare {text : Points} (escaped : Template.IsEscaped text) (unplaced : ¬placeholder <:+ text) :
      StandsFor fallback (some text) (Template.unescape text)
  | placed {text : Points} (escaped : Template.IsEscaped text) :
      StandsFor fallback (some (text ++ placeholder)) (Template.unescape text)

/-- A template that is `none` or `Template.IsEscaped` text, with or without the `placeholder` behind
it. -/
def IsEscapedTemplate (template : Option Points) : Prop :=
  ∀ points ∈ template, ∃ text, Template.IsEscaped text ∧ (points = text ∨ points = text ++ placeholder)

/-- A template of escaped text that ends with the letters of the `placeholder`, though the percent sign
there belongs to the text. `completeTemplate` adds no placeholder to it. -/
def HidesPlaceholder (template : Option Points) : Prop :=
  ∃ text ∈ template, Template.IsEscaped text ∧ placeholder <:+ text

/-- A template that is `none`, or in which no percent sign stands. -/
def IsPlainTemplate (template : Option Points) : Prop :=
  ∀ points ∈ template, Point.char '%' ∉ points

theorem isPlainTemplate_none : IsPlainTemplate none := by
  intro points h
  simp at h

theorem isPlainTemplate_some {points : Points} (h : Point.char '%' ∉ points) :
    IsPlainTemplate (some points) := by
  rintro _ ⟨⟩
  exact h

section
variable {template : Option Points} {fallback text : Points}

/-- `completeTemplate` of a template that `StandsFor` a text is escaped text and the `placeholder`. -/
theorem StandsFor.exists_complete (h : StandsFor fallback template text)
    (hfallback : .char '%' ∉ fallback) :
    ∃ escaped, Template.IsEscaped escaped ∧ Template.unescape escaped = text ∧
      completeTemplate template (fallback ++ placeholder) = escaped ++ placeholder := by
  cases h with
  | absent =>
    exact ⟨fallback, Template.isEscaped_of_notMem hfallback, Template.unescape_of_notMem hfallback, rfl⟩
  | @bare text hescaped hunplaced =>
    refine ⟨text, hescaped, rfl, ?_⟩
    simp only [completeTemplate, List.isSuffixOf_iff_suffix, if_neg hunplaced]
  | @placed text hescaped =>
    refine ⟨text, hescaped, rfl, ?_⟩
    simp only [completeTemplate, List.isSuffixOf_iff_suffix, if_pos (List.suffix_append _ _)]

/-- `Template.fill` of a template that `HidesPlaceholder` ends with `unusedValue`. -/
theorem HidesPlaceholder.fill (h : HidesPlaceholder template) (fallback : Points)
    (value : Template.Value) :
    Template.fill (completeTemplate template fallback) value
      = .error (.mismatch .unusedValue) := by
  obtain ⟨text, hmem, hescaped, hsuffix⟩ := h
  obtain rfl : template = some text := hmem
  simp only [completeTemplate, List.isSuffixOf_iff_suffix, if_pos hsuffix]
  exact Template.fill_escaped hescaped value

/-- A template with `IsEscapedTemplate` either `HidesPlaceholder` or `StandsFor` some text. -/
theorem IsEscapedTemplate.hides_or_stands (h : IsEscapedTemplate template) (fallback : Points) :
    HidesPlaceholder template ∨ ∃ text, StandsFor fallback template text := by
  cases template with
  | none => exact .inr ⟨_, .absent⟩
  | some points =>
    obtain ⟨text, hescaped, rfl | rfl⟩ := h points rfl
    · by_cases hsuffix : placeholder <:+ points
      · exact .inl ⟨points, rfl, hescaped, hsuffix⟩
      · exact .inr ⟨_, .bare hescaped hsuffix⟩
    · exact .inr ⟨_, .placed hescaped⟩

/-- A template with `IsPlainTemplate` `StandsFor` itself. -/
theorem IsPlainTemplate.standsFor (h : IsPlainTemplate template) (fallback : Points) :
    StandsFor fallback template (template.getD fallback) := by
  cases template with
  | none => exact .absent
  | some points =>
    have hplain : Point.char '%' ∉ points := h points rfl
    have hsuffix : ¬placeholder <:+ points := by
      rintro ⟨front, rfl⟩
      exact hplain (List.mem_append_right _ (by decide))
    have hstands : StandsFor fallback (some points) _ :=
      .bare (Template.isEscaped_of_notMem hplain) hsuffix
    rwa [Template.unescape_of_notMem hplain] at hstands

end

namespace NameScheme

/-- The text before the count in a name from the template `defaultStem`. -/
def defaultLabel : Points := Points.ofText "extracted_string".toList

/-- The text before the count in the names of a scheme with `IsPlainTemplate` templates. -/
def label (stem ending : Option Points) : Points :=
  stem.getD (Points.ofText "extracted_string".toList) ++ ending.getD []

/-- The scheme that `build` checks, without the check. -/
def ofTemplates (stem ending : Option Points) (accessor : Bool) : NameScheme :=
  { stem := completeTemplate stem defaultStem
    ending := completeTemplate ending defaultEnding
    accessor }

variable {stem ending : Option Points} {accessor : Bool} {scheme : NameScheme} {front back : Points}

theorem build_eq (stem ending : Option Points) (accessor : Bool) :
    build stem ending accessor
      = ((ofTemplates stem ending accessor).name 0).map fun _ => ofTemplates stem ending accessor := rfl

theorem build_eq_ok (h : build stem ending accessor = .ok scheme) :
    scheme = ofTemplates stem ending accessor := by
  rw [build_eq] at h
  cases hname : (ofTemplates stem ending accessor).name 0 with
  | error fault => rw [hname] at h; simp [Except.map] at h
  | ok zero => rw [hname] at h; exact (Except.ok.inj h).symm

theorem accessor_of_build (h : build stem ending accessor = .ok scheme) :
    scheme.accessor = accessor := by
  rw [build_eq_ok h]
  rfl

/-- `name` puts `Template.decimal count` behind `front ++ back`, if the templates are `StandsFor` these
texts. -/
theorem name_eq_ok_iff_of_standsFor (hstem : StandsFor defaultLabel stem front)
    (hending : StandsFor [] ending back) (accessor : Bool) (count : Int) (name : Points) :
    (ofTemplates stem ending accessor).name count = .ok name ↔
      ∃ digits, Template.decimal count = .ok digits ∧
        name = front ++ back ++ Points.ofText digits := by
  -- The defaults are plain templates, completed already.
  have hdefaults : defaultStem = defaultLabel ++ placeholder ∧ defaultEnding = [] ++ placeholder :=
    ⟨by decide, rfl⟩
  obtain ⟨stemText, hstemEscaped, rfl, hstemComplete⟩ := hstem.exists_complete (by decide)
  obtain ⟨endingText, hendingEscaped, rfl, hendingComplete⟩ := hending.exists_complete (by simp)
  rw [ofTemplates, hdefaults.1, hdefaults.2, hstemComplete, hendingComplete, NameScheme.name]
  simp only [Template.fill_placed_number hendingEscaped]
  cases Template.decimal count with
  | error fault => cases fault <;> simp [Except.map, Except.bind]
  | ok digits =>
    simp only [Except.map, Except.bind, Template.fill_placed_text hstemEscaped, Except.ok.injEq,
      exists_eq_left', List.append_assoc]
    exact eq_comm

/-- Take a `stem` that `StandsFor` the text `front`, and an `ending` that `StandsFor` the text `back`. Then
`build` gives a scheme. It names every count below `Template.decimalLimit` by `front ++ back` and the count
in decimal, and no two counts alike. Take two templates with `IsEscapedTemplate`, one of which
`HidesPlaceholder`. Then `build` ends with `badTemplates`. -/
theorem escaped_templates_name (stem ending : Option Points) (accessor : Bool) :
    (∀ front back, StandsFor defaultLabel stem front → StandsFor [] ending back →
      ∃ scheme, build stem ending accessor = .ok scheme ∧
        (∀ count : Int, count.natAbs < Template.decimalLimit →
          scheme.name count = .ok (front ++ back ++ Points.ofText (toString count).toList)) ∧
        ∀ count other : Int, count.natAbs < Template.decimalLimit →
          other.natAbs < Template.decimalLimit → count ≠ other →
            scheme.name count ≠ scheme.name other) ∧
    (IsEscapedTemplate stem → IsEscapedTemplate ending →
      HidesPlaceholder stem ∨ HidesPlaceholder ending →
        build stem ending accessor = .error (.badTemplates (completeTemplate stem defaultStem)
          (completeTemplate ending defaultEnding) .unusedValue)) := by
  constructor
  · intro front back hstem hending
    have hname : ∀ count : Int, count.natAbs < Template.decimalLimit →
        (ofTemplates stem ending accessor).name count
          = .ok (front ++ back ++ Points.ofText (toString count).toList) := fun count hcount =>
      (name_eq_ok_iff_of_standsFor hstem hending accessor count _).mpr
        ⟨_, Template.decimal_eq_ok_iff.mpr ⟨hcount, rfl⟩, rfl⟩
    refine ⟨ofTemplates stem ending accessor, ?_, hname, fun count other hcount hother hne heq => hne ?_⟩
    · rw [build_eq, hname 0 Template.decimalLimit_pos]
      rfl
    · rw [hname count hcount, hname other hother, Except.ok.injEq] at heq
      have hdigits := congrArg Points.shown (List.append_cancel_left heq)
      rw [Points.shown_ofText, Points.shown_ofText] at hdigits
      exact Template.decimal_injective (Template.decimal_eq_ok_iff.mpr ⟨hcount, rfl⟩)
        (Template.decimal_eq_ok_iff.mpr ⟨hother, hdigits⟩)
  · intro hstem hending hhides
    rw [build_eq, NameScheme.name]
    -- The ending is filled first, and the stem only if that went well.
    rcases hending.hides_or_stands [] with hhidden | ⟨back, hback⟩
    · rw [ofTemplates, hhidden.fill]
      rfl
    · obtain ⟨endingText, hescaped, -, hcomplete⟩ := hback.exists_complete (by simp)
      have hfill : Template.fill (completeTemplate ending defaultEnding) (.number 0)
          = .ok (Template.unescape endingText ++ Points.ofText ['0']) := by
        rw [show defaultEnding = [] ++ placeholder from rfl, hcomplete,
          Template.fill_placed_number hescaped]
        rfl
      have hhidden : HidesPlaceholder stem := by
        refine hhides.resolve_right fun ⟨text, hmem, hescaped', hsuffix⟩ => ?_
        have hunused := HidesPlaceholder.fill ⟨text, hmem, hescaped', hsuffix⟩ defaultEnding (.number 0)
        simp [hfill] at hunused
      simp only [ofTemplates, hfill, Except.bind, hhidden.fill]
      rfl

/-- `escaped_templates_name` at a stem `a%%`, to which the placeholder is added, and an ending in which
it is written; and at a stem that `HidesPlaceholder`. -/
theorem escaped_templates_name_percent :
    let stem := Points.ofText "a%%".toList
    let ending := Points.ofText "_%%s%s".toList
    let hidden := Points.ofText "a%%s".toList
    (∃ scheme, build (some stem) (some ending) false = .ok scheme ∧
      scheme.name 12 = .ok (Points.ofText "a%_%s12".toList) ∧ scheme.name 12 ≠ scheme.name (-3)) ∧
    build (some hidden) (some stem) false
      = .error (.badTemplates hidden (stem ++ placeholder) .unusedValue) := by
  intro stem ending hidden
  have hstem : StandsFor defaultLabel (some stem) (Points.ofText "a%".toList) :=
    .bare (by decide) (by decide)
  have hending : StandsFor [] (some ending) (Points.ofText "_%s".toList) :=
    @StandsFor.placed [] (Points.ofText "_%%s".toList) (by decide)
  have htwelve : (12 : Int).natAbs < Template.decimalLimit := by decide +kernel
  have hthree : (-3 : Int).natAbs < Template.decimalLimit := by decide +kernel
  refine ⟨?_, ?_⟩
  · obtain ⟨scheme, hbuild, hname, hne⟩ :=
      (escaped_templates_name (some stem) (some ending) false).1 _ _ hstem hending
    exact ⟨scheme, hbuild, (hname 12 htwelve).trans (congrArg _ (by decide)), hne 12 (-3) htwelve hthree (by decide)⟩
  · have hhidden : IsEscapedTemplate (some hidden) := by
      rintro _ ⟨⟩
      exact ⟨hidden, by decide, .inl rfl⟩
    have hbare : IsEscapedTemplate (some stem) := by
      rintro _ ⟨⟩
      exact ⟨stem, by decide, .inl rfl⟩
    exact (escaped_templates_name (some hidden) (some stem) false).2 hhidden hbare
      (.inl ⟨hidden, rfl, by decide, by decide⟩)

/-! ### Schemes of plain templates -/

/-- `name` puts `Template.decimal count` behind the `label`, if both templates are `IsPlainTemplate`. -/
theorem name_eq_ok_iff (hstem : IsPlainTemplate stem) (hending : IsPlainTemplate ending)
    (h : build stem ending accessor = .ok scheme) (count : Int) (name : Points) :
    scheme.name count = .ok name ↔
      ∃ digits, Template.decimal count = .ok digits ∧
        name = label stem ending ++ Points.ofText digits := by
  rw [build_eq_ok h]
  exact name_eq_ok_iff_of_standsFor (hstem.standsFor defaultLabel) (hending.standsFor []) _ count name

/-- `shown` of such a name: the `label` as it is shown, and the digits. -/
theorem exists_shown_name (hstem : IsPlainTemplate stem) (hending : IsPlainTemplate ending)
    (h : build stem ending accessor = .ok scheme) {count : Int} {name : Points}
    (hname : scheme.name count = .ok name) :
    ∃ digits, Template.decimal count = .ok digits ∧
      name.shown = Points.shown (label stem ending) ++ digits := by
  obtain ⟨digits, hdigits, rfl⟩ := (name_eq_ok_iff hstem hending h count name).mp hname
  refine ⟨digits, hdigits, ?_⟩
  rw [Points.shown, List.map_append]
  exact congrArg _ (Points.shown_ofText digits)

/-- `name` gives no two counts names with the same `shown` text, if both templates are
`IsPlainTemplate`. -/
theorem shown_name_injective (hstem : IsPlainTemplate stem) (hending : IsPlainTemplate ending)
    (h : build stem ending accessor = .ok scheme) {m n : Int} {name other : Points}
    (hm : scheme.name m = .ok name) (hn : scheme.name n = .ok other)
    (hshown : name.shown = other.shown) : m = n := by
  obtain ⟨digits, hdigits, hname⟩ := exists_shown_name hstem hending h hm
  obtain ⟨digits', hdigits', hother⟩ := exists_shown_name hstem hending h hn
  rw [hname, hother] at hshown
  obtain rfl := List.append_cancel_left hshown
  exact Template.decimal_injective hdigits hdigits'

/-! ### References -/

theorem reference_code (scheme : NameScheme) (name : Points) :
    scheme.reference .code name
      = (if scheme.accessor then "ExtractedString.getString(" else "getResources().getString(").toList
        ++ "R.string.".toList ++ name.shown ++ [')'] := rfl

/-- A `reference` of code holds the mark `R.string.`. -/
theorem mark_infix_reference (scheme : NameScheme) (name : Points) :
    "R.string.".toList <:+: scheme.reference .code name := by
  rw [reference_code, List.append_assoc]
  exact List.infix_append _ _ _

/-- A `reference` of code holds a quote only if the name does. -/
theorem quote_notMem_reference (scheme : NameScheme) {name : Points} (h : '"' ∉ name.shown) :
    '"' ∉ scheme.reference .code name := by
  have hcall : '"' ∉ (if scheme.accessor then "ExtractedString.getString("
      else "getResources().getString(").toList := by
    split <;> decide
  have hmark : '"' ∉ "R.string.".toList := by decide
  rw [reference_code, List.mem_append, List.mem_append, List.mem_append]
  rintro (((hmem | hmem) | hmem) | hmem)
  · exact hcall hmem
  · exact hmark hmem
  · exact h hmem
  · simp at hmem

/-- A character that is neither in the `label` nor a digit nor a minus sign is in no name from
`IsPlainTemplate` templates. -/
theorem notMem_name (hstem : IsPlainTemplate stem) (hending : IsPlainTemplate ending)
    (hbuild : build stem ending accessor = .ok scheme) {number : Int} {name : Points}
    (h : scheme.name number = .ok name) {c : Char} (hlabel : c ∉ Points.shown (label stem ending))
    (hminus : c ≠ '-') (hdigit : c.isDigit = false) : c ∉ name.shown := by
  obtain ⟨digits, hdigits, hshown⟩ := exists_shown_name hstem hending hbuild h
  rw [hshown, List.mem_append]
  rintro (hmem | hmem)
  · exact hlabel hmem
  · rcases Template.mem_decimal hdigits hmem with hsign | hnumber
    · exact hminus hsign
    · simp [hdigit] at hnumber

theorem notMem_default_name {accessor : Bool} {scheme : NameScheme}
    (hbuild : build none none accessor = .ok scheme) {number : Int} {name : Points}
    (h : scheme.name number = .ok name) {c : Char} (hlabel : c ∉ Points.shown (label none none))
    (hminus : c ≠ '-') (hdigit : c.isDigit = false) : c ∉ name.shown :=
  notMem_name isPlainTemplate_none isPlainTemplate_none hbuild h hlabel hminus hdigit

/-- No name from the default templates holds a quote. -/
theorem quote_notMem_default_name {accessor : Bool} {scheme : NameScheme}
    (hbuild : build none none accessor = .ok scheme) {number : Int} {name : Points}
    (h : scheme.name number = .ok name) : '"' ∉ name.shown :=
  notMem_default_name hbuild h (by decide) (by decide) (by decide)

end NameScheme

end Externalize
