import Externalize.Text.Blank

/-!
# `Externalize.Text.Points`: texts with halves of pairs

Some notations write the characters beyond the first 65536 code points as pairs of numbers, and
nothing keeps them from writing half of a pair alone. Such a half is no character and no file can
hold it, but a name template may, and it may even be gone again from the name. `Points` are texts in
which halves may stand. `text?` gives the text if there are none, and `shown` puts the replacement
character in their place.
-/

set_option autoImplicit false

namespace Externalize

/-- A code point. -/
inductive Point
  | char (c : Char)
  /-- Half of a pair, a number from `0xD800` to `0xDFFF`. -/
  | half (n : Nat)
  deriving Repr, DecidableEq

namespace Point

/-- The number of a code point. -/
def number : Point → Nat
  | .char c => c.toNat
  | .half n => n

/-- Whether a number is that of the first half of a pair. -/
def isFirstHalf (n : Nat) : Bool :=
  0xD800 ≤ n && n < 0xDC00

/-- Whether a number is that of the second half of a pair. -/
def isSecondHalf (n : Nat) : Bool :=
  0xDC00 ≤ n && n < 0xE000

/-- The code point with that number. -/
def ofNumber (n : Nat) : Point :=
  if isFirstHalf n || isSecondHalf n then .half n else .char (Char.ofNat n)

/-- The character that the halves `first` and `second` make. -/
def ofHalves (first second : Nat) : Point :=
  .char (Char.ofNat (0x10000 + (first - 0xD800) * 1024 + (second - 0xDC00)))

/-- Whether the code point is no character. -/
def isHalf : Point → Bool
  | .char _ => false
  | .half _ => true

/-- What stands for a half where only characters can be shown. -/
def replacement : Char := Char.ofNat 0xFFFD

/-- The character that the code point is shown as: a half as `replacement`. -/
def shown : Point → Char
  | .char c => c
  | .half _ => replacement

end Point

/-- A text in which halves of pairs may stand. -/
abbrev Points := List Point

namespace Points

/-- A text as code points, each a `char`. -/
def ofText (text : Text) : Points :=
  text.map .char

instance : Coe Text Points := ⟨ofText⟩

/-- The text, if no code point of it is a `half`. -/
def text? : Points → Option Text
  | [] => some []
  | .char c :: rest => (text? rest).map (c :: ·)
  | .half _ :: _ => none

/-- The text as far as it can be shown, with `replacement` for each half. -/
def shown (points : Points) : Text :=
  points.map Point.shown

/-- Whether all code points are blank characters. -/
def isAllBlank (points : Points) : Bool :=
  points.all fun
    | .char c => isBlank c
    | .half _ => false

@[simp]
theorem text?_ofText (text : Text) : text? (ofText text) = some text := by
  induction text with
  | nil => rfl
  | cons c rest ih =>
    show (text? (ofText rest)).map (c :: ·) = _
    rw [ih]
    rfl

@[simp]
theorem shown_ofText (text : Text) : shown (ofText text) = text := by
  induction text with
  | nil => rfl
  | cons c rest ih =>
    show c :: shown (ofText rest) = _
    rw [ih]

theorem text?_eq_none_iff (points : Points) :
    points.text? = none ↔ ∃ point ∈ points, point.isHalf = true := by
  induction points with
  | nil => simp [text?]
  | cons point rest ih =>
    cases point with
    | char c => simp [text?, ih, Point.isHalf]
    | half n => simp [text?, Point.isHalf]

/-- `text?` of a text without halves is what is `shown`. -/
theorem text?_eq_some {points : Points} (h : points.text? ≠ none) :
    points.text? = some points.shown := by
  induction points with
  | nil => rfl
  | cons point rest ih =>
    cases point with
    | char c =>
      have hrest : text? rest ≠ none := fun hnone => h (by simp [text?, hnone])
      simp [text?, ih hrest, shown, Point.shown]
    | half n => exact absurd rfl h

/-- `shown` has the characters of a text. -/
theorem mem_shown {points : Points} {c : Char} (h : .char c ∈ points) : c ∈ points.shown :=
  List.mem_map.mpr ⟨.char c, h, rfl⟩

/-- `ofText` undoes `shown` on a text without halves. -/
theorem ofText_shown {points : Points} (h : points.text? ≠ none) : ofText points.shown = points := by
  induction points with
  | nil => rfl
  | cons point rest ih =>
    cases point with
    | char c =>
      have hrest : text? rest ≠ none := fun hnone => h (by simp [text?, hnone])
      show Point.char c :: ofText (shown rest) = _
      rw [ih hrest]
    | half n => exact absurd rfl h

end Points

end Externalize
