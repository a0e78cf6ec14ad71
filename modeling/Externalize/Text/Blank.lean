import Externalize.Text.Basic

/-!
# `Externalize.Text.Blank`: blank characters

The characters that count as blank are the Unicode spaces and separators together with the control
characters that separate fields, lines and pages. A value made of blanks only is never extracted,
and lines of a resource document are kept without the blanks around them.
-/

set_option autoImplicit false

namespace Externalize

/-- Blank characters: tab to carriage return, the four information separators, the space, the next
line control and the Unicode space, line and paragraph separators. -/
def isBlank (c : Char) : Bool :=
  let n := c.toNat
  (0x09 ≤ n && n ≤ 0x0D) || (0x1C ≤ n && n ≤ 0x20) || n == 0x85 || n == 0xA0 || n == 0x1680 ||
    (0x2000 ≤ n && n ≤ 0x200A) || n == 0x2028 || n == 0x2029 || n == 0x202F || n == 0x205F ||
    n == 0x3000

namespace Text

/-- The text without the characters that `drops` holds of at its two ends. -/
def stripWhere (drops : Char → Bool) (text : Text) : Text :=
  ((text.dropWhile drops).reverse.dropWhile drops).reverse

/-- The text without the characters with `isBlank` at its two ends. -/
def strip (text : Text) : Text :=
  stripWhere isBlank text

/-- Whether all characters of the text are `isBlank`. -/
def isAllBlank (text : Text) : Bool :=
  text.all isBlank

theorem dropWhile_isBlank_eq_nil_iff (text : Text) :
    text.dropWhile isBlank = [] ↔ isAllBlank text = true := by
  induction text with
  | nil => simp [isAllBlank]
  | cons c rest ih =>
    rw [List.dropWhile_cons]
    split
    · simp_all [isAllBlank]
    · simp_all [isAllBlank]

/-- `strip` leaves nothing exactly of the texts with `isAllBlank`. -/
theorem strip_eq_nil_iff (text : Text) : strip text = [] ↔ isAllBlank text = true := by
  rw [strip, stripWhere, List.reverse_eq_nil_iff, dropWhile_isBlank_eq_nil_iff,
    ← dropWhile_isBlank_eq_nil_iff text]
  constructor
  · intro h
    cases hd : text.dropWhile isBlank with
    | nil => rfl
    | cons c rest =>
      have hc : isBlank c = false := by
        have := List.head?_dropWhile_not isBlank text
        simp_all
      simp [isAllBlank, hd, hc] at h
  · intro h
    simp [h, isAllBlank]

end Text

end Externalize
