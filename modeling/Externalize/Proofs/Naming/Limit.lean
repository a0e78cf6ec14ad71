import Externalize.Proofs.Naming
import Externalize.Proofs.Template.Reach

/-!
# `Externalize.Proofs.Naming.Limit`: how far the counts of a scheme go

A scheme is only checked with the count zero. Of the counts that can be written in decimal, it then
names those below its `limit` and no others (`exists_name_iff_lt_limit`). The ending sets the limit by
the letter of its field, and a stem that asks for a character leaves only counts of one digit. So the
check is enough for every count exactly if neither of the templates has such a letter
(`built_scheme_names_iff`).
-/

set_option autoImplicit false

namespace Externalize.NameScheme

open Template (decimalLimit letter? letterLimit realLetters realLimit)

/-- The count at which the names of the scheme end: ten if the `letter?` of the `stem` is `c`, and else
the `letterLimit` of the `letter?` of the `ending`. -/
def limit (scheme : NameScheme) : Nat :=
  if letter? scheme.stem = some (.char 'c') then 10
  else (letter? scheme.ending).elim 0 letterLimit

variable {stem ending : Option Points} {accessor : Bool} {scheme : NameScheme}

/-- `name` ends well if `Template.fill` does twice: for the count in `scheme.ending`, and for its result
in `scheme.stem`. -/
theorem exists_name_iff {count : Int} :
    (∃ name, scheme.name count = .ok name) ↔
      ∃ filled, Template.fill scheme.ending (.number count) = .ok filled ∧
        ∃ name, Template.fill scheme.stem (.text filled) = .ok name := by
  rw [← Template.exists_bind_eq_ok, NameScheme.name]
  generalize (Template.fill scheme.ending (.number count)).bind _ = named
  rcases named with (m | o) | name <;> simp

/-- `completeTemplate` gives a template that ends with the `placeholder`. -/
theorem exists_completeTemplate {template : Option Points} {fallback : Points}
    (hfallback : placeholder <:+ fallback) :
    ∃ text, completeTemplate template fallback = text ++ placeholder := by
  cases template with
  | none => exact hfallback.imp fun _ h => h.symm
  | some points =>
    simp only [completeTemplate, List.isSuffixOf_iff_suffix]
    split
    · rename_i hsuffix
      exact hsuffix.imp fun _ h => h.symm
    · exact ⟨points, rfl⟩

/-- The counts that `Template.decimal` writes with one digit are those below ten. -/
theorem exists_digit_iff {count : Nat} (hcount : count < decimalLimit) :
    (∃ digits, Template.decimal count = .ok digits ∧ digits.length = 1) ↔ count < 10 := by
  have hlength : (Nat.toDigits 10 count).length = 1 ↔ count < 10 := by
    have hpos := @Nat.length_toDigits_pos 10 count
    rw [← Nat.pow_one 10, ← Nat.length_toDigits_le_iff (by decide) (by decide), Nat.pow_one]
    omega
  simp only [Template.decimal_eq_ok_iff, Int.natAbs_natCast, hcount, true_and, exists_eq_left,
    Template.toList_toString, if_neg (Int.not_lt.mpr (Int.natCast_nonneg count)), hlength]

/-- A scheme that `build` gave names the count zero: this is the check that `build` makes. -/
theorem exists_name_zero (hbuild : build stem ending accessor = .ok scheme) :
    ∃ name, scheme.name 0 = .ok name := by
  have hscheme := build_eq_ok hbuild
  rw [build_eq, ← hscheme] at hbuild
  cases hname : scheme.name 0 with
  | error fault => simp [hname, Except.map] at hbuild
  | ok name => exact ⟨name, rfl⟩

/-- A scheme that `build` gave names exactly the counts below its `limit`. -/
theorem exists_name_iff_lt_limit (hbuild : build stem ending accessor = .ok scheme) {count : Nat}
    (hcount : count < decimalLimit) :
    (∃ name, scheme.name count = .ok name) ↔ count < scheme.limit := by
  obtain ⟨zero, hending, name, hstem⟩ := exists_name_iff.mp (exists_name_zero hbuild)
  obtain ⟨before, endingField, after, hendingReads⟩ := Template.exists_readsAs hending
  obtain ⟨front, stemField, back, hstemReads⟩ := Template.exists_readsAs hstem
  have hendingTakes := (Template.exists_fill_iff hendingReads).mp ⟨zero, hending⟩
  have hstemTakes := (Template.exists_fill_iff hstemReads).mp ⟨name, hstem⟩
  -- The check has settled all but what the two letters say about the value.
  simp only [exists_name_iff, Template.exists_fill_iff hstemReads, Template.takes_text_iff hstemTakes,
    limit, Template.letter?_readsAs hstemReads, Template.letter?_readsAs hendingReads,
    Option.some.injEq, Option.elim_some]
  by_cases hletter : stemField.conversion = .char 'c'
  · -- The ending gave a single code point for zero, so it is the placeholder alone.
    obtain ⟨text, htext⟩ : ∃ text, scheme.ending = text ++ placeholder := by
      rw [build_eq_ok hbuild]
      exact exists_completeTemplate (List.suffix_refl _)
    have hzero : zero.length = 1 := (Template.takes_text_iff hstemTakes).mp hstemTakes hletter
    rw [htext] at hending ⊢
    simp only [Template.fill_of_length_le_one hending (Nat.le_of_eq hzero), hletter, forall_const,
      if_true]
    rw [← exists_digit_iff hcount]
    cases Template.decimal (count : Int) <;> simp [Except.map, Points.ofText]
  · simp only [hletter, false_imp_iff, and_true, if_false]
    rw [Template.exists_fill_iff hendingReads, Template.takes_number_iff hendingTakes hcount]

/-- The letters whose `letterLimit` is below `decimalLimit`. -/
def boundedLetters : Points := .char 'c' :: realLetters

/-- `letterLimit` is below `decimalLimit` for the `boundedLetters` and for no other letter. -/
theorem letterLimit_lt_iff (letter : Point) :
    letterLimit letter < decimalLimit ↔ letter ∈ boundedLetters := by
  have hcharacter : 0x110000 < decimalLimit := by decide +kernel
  have hreal : realLimit < decimalLimit := by decide +kernel
  rw [letterLimit, boundedLetters, List.mem_cons]
  split
  · simp_all
  · split <;> simp_all

theorem limit_lt_iff {letter : Point} (hletter : letter? scheme.ending = some letter) :
    scheme.limit < decimalLimit ↔
      letter? scheme.stem = some (.char 'c') ∨ letter ∈ boundedLetters := by
  have hdigit : 10 < decimalLimit := by decide +kernel
  rw [limit, hletter, Option.elim_some]
  split
  · simp_all
  · simp_all [letterLimit_lt_iff]

/-- `letter?` finds a field in the `ending` of a scheme that `build` gave. -/
theorem exists_letter_ending (hbuild : build stem ending accessor = .ok scheme) :
    ∃ letter, letter? scheme.ending = some letter := by
  obtain ⟨zero, hending, -⟩ := exists_name_iff.mp (exists_name_zero hbuild)
  obtain ⟨before, field, after, hreads⟩ := Template.exists_readsAs hending
  exact ⟨_, Template.letter?_readsAs hreads⟩

/-- Take a scheme that `build` gave. Of the counts from zero to below `decimalLimit`, `scheme.name` names
exactly those below `scheme.limit`. These are all of them exactly if the `letter?` of `scheme.stem` is not
`c` and the `letter?` of `scheme.ending` is none of the `boundedLetters`. -/
theorem built_scheme_names_iff (hbuild : build stem ending accessor = .ok scheme) :
    (∀ count : Int, 0 ≤ count → count.natAbs < decimalLimit →
      ((∃ name, scheme.name count = .ok name) ↔ count.natAbs < scheme.limit)) ∧
    ((∀ count : Int, 0 ≤ count → count.natAbs < decimalLimit →
        ∃ name, scheme.name count = .ok name) ↔
      letter? scheme.stem ≠ some (.char 'c') ∧
        ∀ letter ∈ letter? scheme.ending, letter ∉ boundedLetters) := by
  have hnamed : ∀ count : Int, 0 ≤ count → count.natAbs < decimalLimit →
      ((∃ name, scheme.name count = .ok name) ↔ count.natAbs < scheme.limit) := by
    intro count hnonneg hcount
    obtain ⟨n, rfl⟩ := Int.eq_ofNat_of_zero_le hnonneg
    exact exists_name_iff_lt_limit hbuild hcount
  obtain ⟨letter, hletter⟩ := exists_letter_ending hbuild
  refine ⟨hnamed, ?_⟩
  simp only [hletter, Option.mem_some_iff, forall_eq', ne_eq, ← not_or, ← limit_lt_iff hletter]
  constructor
  · -- Otherwise the limit itself is a count that is not named.
    intro hall hlimit
    have hself := (hnamed scheme.limit (Int.natCast_nonneg _) hlimit).mp
      (hall scheme.limit (Int.natCast_nonneg _) hlimit)
    exact Nat.lt_irrefl _ hself
  · intro hlimit count hnonneg hcount
    exact (hnamed count hnonneg hcount).mpr (Nat.lt_of_lt_of_le hcount (Nat.le_of_not_lt hlimit))

/-- `built_scheme_names_iff` at the ending `%c%%s`: `name` gives the last character `0x10FFFF` a name,
and no count beyond it. -/
theorem built_scheme_names_iff_characters :
    ∃ scheme, build none (some (Points.ofText "%c%%s".toList)) false = .ok scheme ∧
      scheme.limit = 0x110000 ∧
      (∃ name, scheme.name 0x10FFFF = .ok name) ∧ ¬∃ name, scheme.name 0x110000 = .ok name := by
  have hbuild : build none (some (Points.ofText "%c%%s".toList)) false
      = .ok (ofTemplates none (some (Points.ofText "%c%%s".toList)) false) := rfl
  have hlimit : (ofTemplates none (some (Points.ofText "%c%%s".toList)) false).limit = 0x110000 := by
    decide
  have hnamed := (built_scheme_names_iff hbuild).1
  rw [hlimit] at hnamed
  exact ⟨_, hbuild, hlimit, (hnamed _ (by decide) (by decide +kernel)).mpr (by decide),
    fun h => absurd ((hnamed _ (by decide) (by decide +kernel)).mp h) (by decide)⟩

/-- The stem `%c%%s` passes the check of `build`, and `name` fails at ten, the first count of two
digits. -/
theorem character_stem_fails_at_ten :
    let stem := Points.ofText "%c%%s".toList
    ∃ scheme, build (some stem) none false = .ok scheme ∧
      scheme.name 9 = .ok (Points.ofText "9%s".toList) ∧
      scheme.name 10 = .error (.badTemplates stem placeholder .needsCharacter) :=
  ⟨_, rfl, rfl, rfl⟩

end Externalize.NameScheme
