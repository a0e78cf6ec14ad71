import Externalize.Text.Caseless
import Mathlib.Data.List.Forall2

/-!
# `Externalize.Proofs.Text.Caseless`: what spells a keyword

A keyword is given in lower case. `Spells` lists the characters that a letter of it can be met by: the
letter in either case, and a few characters outside ASCII. `foldsTo_iff` says that these are the ones
that are read as the letter, and `dropKeyword?_eq_nil_iff` that a keyword is met by the texts that spell
it letter by letter.
-/

set_option autoImplicit false

namespace Externalize

/-! ### Letters -/

/-- The characters outside ASCII that are read as a letter of ASCII if letter case does not count: the
dotted capital and the dotless small `i`, the long `s` and the kelvin sign. -/
def otherCases : Char → List Char
  | 'i' => ['İ', 'ı']
  | 's' => ['ſ']
  | 'k' => ['\u212a']
  | _ => []

/-- The character `c` spells `letter`, which is given in lower case: `c` is the letter, its upper case
or one of its `otherCases`. -/
def Spells (letter c : Char) : Prop :=
  c = letter ∨ c = letter.toUpper ∨ c ∈ otherCases letter

theorem toNat_toLower (c : Char) :
    c.toLower.toNat = if 65 ≤ c.toNat ∧ c.toNat ≤ 90 then c.toNat + 32 else c.toNat := by
  have hrange : 'A'.val ≤ c.val ∧ c.val ≤ 'Z'.val ↔ 65 ≤ c.toNat ∧ c.toNat ≤ 90 := Iff.rfl
  delta Char.toLower
  split
  · rename_i hupper
    have hbounds := hrange.mp hupper
    rw [if_pos hbounds]
    show (c.val + 32).toNat = c.toNat + 32
    rw [UInt32.toNat_add]
    show (c.toNat + 32) % 2 ^ 32 = c.toNat + 32
    omega
  · rename_i hupper
    rw [if_neg fun h => hupper (hrange.mpr h)]

theorem toNat_toUpper (c : Char) :
    c.toUpper.toNat = if 97 ≤ c.toNat ∧ c.toNat ≤ 122 then c.toNat - 32 else c.toNat := by
  have hrange : 'a'.val ≤ c.val ∧ c.val ≤ 'z'.val ↔ 97 ≤ c.toNat ∧ c.toNat ≤ 122 := Iff.rfl
  delta Char.toUpper
  split
  · rename_i hlower
    have hbounds := hrange.mp hlower
    rw [if_pos hbounds]
    show (c.val + ('A'.val - 'a'.val)).toNat = c.toNat - 32
    rw [UInt32.toNat_add]
    -- The difference of the two cases is negative, so it is added as a complement.
    show (c.toNat + 4294967264) % 4294967296 = c.toNat - 32
    omega
  · rename_i hlower
    rw [if_neg fun h => hlower (hrange.mpr h)]

/-- `Char.toLower` gives a `letter` for the letter itself and for its `Char.toUpper`, and for nothing
else. -/
theorem toLower_eq_iff {letter c : Char} (h : letter.isUpper = false) :
    c.toLower = letter ↔ c = letter ∨ c = letter.toUpper := by
  have hletter : ¬(65 ≤ letter.toNat ∧ letter.toNat ≤ 90) := of_decide_eq_false h
  simp only [← Char.toNat_inj, toNat_toLower, toNat_toUpper]
  split <;> split <;> omega

/-- `foldsTo` holds exactly for the characters that `Spells` the letter. -/
theorem foldsTo_iff {letter : Char} (h : letter.isUpper = false) (c : Char) :
    foldsTo letter c = true ↔ Spells letter c := by
  have hothers : c ∈ otherCases letter ↔
      (letter = 'i' ∧ (c = 'İ' ∨ c = 'ı')) ∨ (letter = 's' ∧ c = 'ſ') ∨
        (letter = 'k' ∧ c = '\u212a') := by
    unfold otherCases
    split <;> simp_all
  simp only [Spells, foldsTo, Bool.or_eq_true, Bool.and_eq_true, beq_iff_eq, toLower_eq_iff h, hothers,
    or_assoc]

/-! ### Keywords -/

/-- `dropKeyword?` leaves nothing exactly if the text `Spells` the keyword letter by letter. -/
theorem Text.dropKeyword?_eq_nil_iff {keyword : Text} (h : keyword.any Char.isUpper = false)
    (text : Text) :
    dropKeyword? keyword text = some [] ↔ List.Forall₂ Spells keyword text := by
  induction keyword generalizing text with
  | nil => simp [dropKeyword?]
  | cons letter keyword ih =>
    rw [List.any_cons, Bool.or_eq_false_iff] at h
    obtain ⟨hletter, hrest⟩ := h
    have hkeyword := ih hrest
    cases text with
    | nil => simp [dropKeyword?]
    | cons c text =>
      rw [dropKeyword?, List.forall₂_cons, ← foldsTo_iff hletter, ← hkeyword text]
      by_cases hfolds : foldsTo letter c = true
      · simp [hfolds]
      · simp [hfolds]

theorem Text.dropKeyword?_append (first second text : Text) :
    dropKeyword? (first ++ second) text = (dropKeyword? first text).bind (dropKeyword? second) := by
  induction first generalizing text with
  | nil => rfl
  | cons letter first ih =>
    cases text with
    | nil => rfl
    | cons c text =>
      rw [List.cons_append, dropKeyword?, dropKeyword?]
      split
      · exact ih text
      · rfl

end Externalize
