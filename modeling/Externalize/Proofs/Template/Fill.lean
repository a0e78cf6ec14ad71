import Externalize.Naming

/-!
# `Externalize.Proofs.Template.Fill`: what filling a template gives

A number is written in decimal if it has not too many digits (`decimal_eq_ok_iff`), and no two numbers
are written alike (`decimal_injective`).

A template is escaped text if every longest run of percent signs in it is of even length: `IsEscaped`.
The reader takes percent signs from the left, so it meets them in pairs, and each pair stands for one
of them: `unescape`, `piecesFrom_escaped`. Escaped text alone has no place for a value
(`fill_escaped`). With the placeholder behind it, it is filled with what it stands for and then the
value (`fill_placed`). A text without any percent sign is escaped and stands for itself
(`isEscaped_of_notMem`, `unescape_of_notMem`).
-/

set_option autoImplicit false

namespace Externalize.Template

/-! ### Decimals -/

/-- The first number with more than `Text.maxDigits` digits. -/
def decimalLimit : Nat := Nat.pow 10 Text.maxDigits

theorem decimalLimit_pos : 0 < decimalLimit := by decide +kernel

theorem decimalDigits_eq_ok_iff {n : Nat} {digits : Text} :
    decimalDigits n = .ok digits ↔ n < decimalLimit ∧ digits = Nat.toDigits 10 n := by
  have hlength (k : Nat) (hk : 0 < k) : (Nat.toDigits 10 n).length ≤ k ↔ n < Nat.pow 10 k :=
    Nat.length_toDigits_le_iff (by decide) hk
  unfold decimalLimit
  rw [← hlength _ (by decide)]
  simp only [decimalDigits]
  split
  · rename_i hfits
    simp [hfits, eq_comm]
  · rename_i hfits
    simp [hfits]

/-- `toString` of a number: its digits, with a minus sign if it is negative. -/
theorem toList_toString (n : Int) :
    (toString n).toList
      = if n < 0 then '-' :: Nat.toDigits 10 n.natAbs else Nat.toDigits 10 n.natAbs := by
  cases n with
  | ofNat n =>
    show (Nat.repr n).toList = _
    rw [if_neg (by simp), Nat.repr, String.toList_ofList]
    rfl
  | negSucc n =>
    show ("-" ++ Nat.repr (n + 1)).toList = _
    rw [if_pos (Int.negSucc_lt_zero n), String.toList_append, Nat.repr, String.toList_ofList,
      String.toList_ofList]
    rfl

/-- `decimal` writes exactly the numbers whose `natAbs` is below `decimalLimit`. -/
theorem decimal_eq_ok_iff {n : Int} {digits : Text} :
    decimal n = .ok digits ↔ n.natAbs < decimalLimit ∧ digits = (toString n).toList := by
  rw [toList_toString, decimal]
  cases hdigits : decimalDigits n.natAbs with
  | error fault =>
    have hlarge : ¬n.natAbs < decimalLimit := fun hlt => by
      simp [decimalDigits_eq_ok_iff.mpr ⟨hlt, rfl⟩] at hdigits
    simp [Except.map, hlarge]
  | ok ds =>
    obtain ⟨hlt, rfl⟩ := decimalDigits_eq_ok_iff.mp hdigits
    simp [Except.map, hlt, eq_comm]

/-- `decimal` gives digits and at most a minus sign. -/
theorem mem_decimal {n : Int} {digits : Text} (h : decimal n = .ok digits) {c : Char}
    (hc : c ∈ digits) : c = '-' ∨ c.isDigit = true := by
  rw [(decimal_eq_ok_iff.mp h).2, toList_toString] at hc
  split at hc
  · rcases List.mem_cons.mp hc with rfl | hc
    · exact .inl rfl
    · exact .inr (Nat.isDigit_of_mem_toDigits (by decide) (by decide) hc)
  · exact .inr (Nat.isDigit_of_mem_toDigits (by decide) (by decide) hc)

theorem toDigits_injective {m n : Nat} (h : Nat.toDigits 10 m = Nat.toDigits 10 n) : m = n := by
  rw [← Nat.ofDigitChars_ten_toDigits (n := m), h, Nat.ofDigitChars_ten_toDigits]

/-- Digits alone are no number with a minus sign. -/
theorem minus_toDigits_ne (m n : Nat) : '-' :: Nat.toDigits 10 m ≠ Nat.toDigits 10 n := by
  intro h
  have hmem : '-' ∈ Nat.toDigits 10 n := by rw [← h]; exact List.mem_cons_self
  have hdigit := Nat.isDigit_of_mem_toDigits (by decide) (by decide) hmem
  simp at hdigit

/-- `decimal` writes no two numbers alike. -/
theorem decimal_injective {m n : Int} {digits : Text} (hm : decimal m = .ok digits)
    (hn : decimal n = .ok digits) : m = n := by
  have h := (decimal_eq_ok_iff.mp hm).2.symm.trans (decimal_eq_ok_iff.mp hn).2
  rw [toList_toString, toList_toString] at h
  split at h
  · split at h
    · have habs := toDigits_injective (List.cons.inj h).2
      omega
    · exact absurd h (minus_toDigits_ne _ _)
  · split at h
    · exact absurd h.symm (minus_toDigits_ne _ _)
    · have habs := toDigits_injective h
      omega

/-! ### The placeholder -/

/-- The field that the reader makes of a `placeholder`. -/
def placeholderField (index : Nat) : Field :=
  { flags := {}, width := none, precision := none, conversion := .char 's', index }

theorem fill_placeholderField_text (index : Nat) (t : Points) :
    (placeholderField index).fill (.text t) = .ok t := by
  simp [Field.fill, Field.fillText, placeholderField, Field.place, Field.checkWidth, Flags.place,
    cut, bind, Except.bind, pure, Except.pure]

theorem fill_placeholderField_number (index : Nat) (n : Int) :
    (placeholderField index).fill (.number n) = (decimal n).map Points.ofText := by
  cases h : decimal n <;>
    simp [Field.fill, Field.fillNumber, placeholderField, Field.place, Field.checkWidth,
      Flags.place, cut, bind, Except.bind, pure, Except.pure, h, Except.map]

/-! ### Escaped texts -/

/-- Every longest run of percent signs in the text is of even length. -/
def IsEscaped (text : Points) : Prop :=
  ∀ (before : Points) (length : Nat) (after : Points),
    text = before ++ List.replicate length (.char '%') ++ after →
      before.getLast? ≠ some (.char '%') → after.head? ≠ some (.char '%') → 2 ∣ length

/-- The text with each pair of percent signs read as one, as the reader does with text that
`IsEscaped`. -/
def unescape : Points → Points
  | .char '%' :: .char '%' :: rest => .char '%' :: unescape rest
  | p :: rest => p :: unescape rest
  | [] => []

section
variable {p : Point} {rest text : Points}

theorem isEscaped_nil : IsEscaped [] := by
  intro before length after h _ _
  have hlength := congrArg List.length h
  simp only [List.length_nil, List.length_append, List.length_replicate] at hlength
  omega

/-- `IsEscaped` does not depend on a code point that is no percent sign. -/
theorem isEscaped_cons (hp : p ≠ .char '%') : IsEscaped (p :: rest) ↔ IsEscaped rest := by
  constructor
  · intro h before length after heq hbefore hafter
    refine h (p :: before) length after (by rw [heq]; rfl) ?_ hafter
    cases before with
    | nil => simpa using hp
    | cons q before => simpa using hbefore
  · intro h before length after heq hbefore hafter
    cases before with
    | nil =>
      cases length with
      | zero => exact ⟨0, rfl⟩
      | succ length => exact absurd (List.cons.inj heq).1 hp
    | cons q before =>
      refine h before length after (List.cons.inj heq).2 ?_ hafter
      cases before with
      | nil => simp
      | cons r before => simpa using hbefore

/-- `IsEscaped` does not depend on a pair of percent signs, which makes a run longer by two. -/
theorem isEscaped_pair : IsEscaped (.char '%' :: .char '%' :: rest) ↔ IsEscaped rest := by
  constructor
  · intro h before length after heq hbefore hafter
    cases before with
    | nil =>
      have hrun := h [] (length + 2) after (by rw [heq]; rfl) (by simp) hafter
      omega
    | cons q before =>
      exact h (.char '%' :: .char '%' :: q :: before) length after (by rw [heq]; rfl)
        (by simpa using hbefore) hafter
  · intro h before length after heq hbefore hafter
    -- The run begins with the pair, or behind it; it cannot begin between the two.
    match before, length with
    | [], 0 => exact ⟨0, rfl⟩
    | [], 1 =>
      obtain rfl : .char '%' :: rest = after := (List.cons.inj heq).2
      simp at hafter
    | [], length + 2 =>
      have hrun := h [] length after (List.cons.inj (List.cons.inj heq).2).2 (by simp) hafter
      omega
    | [q], length => simp [← (List.cons.inj heq).1] at hbefore
    | [q, r], length =>
      simp [← (List.cons.inj (List.cons.inj heq).2).1] at hbefore
    | q :: r :: s :: before, length =>
      exact h (s :: before) length after (List.cons.inj (List.cons.inj heq).2).2
        (by simpa using hbefore) hafter

/-- A percent sign that stands alone is a run of one, so that the text is not `IsEscaped`. -/
theorem not_isEscaped_lone (h : rest.head? ≠ some (.char '%')) : ¬IsEscaped (.char '%' :: rest) := by
  intro hrest
  have hrun := hrest [] 1 rest rfl (by simp) h
  omega

/-- `IsEscaped` is decided by looking at the percent signs in pairs, from the left. -/
instance decidableIsEscaped : (text : Points) → Decidable (IsEscaped text)
  | [] => .isTrue isEscaped_nil
  | [p] =>
    if hp : p = .char '%' then .isFalse (hp ▸ not_isEscaped_lone (by simp))
    else .isTrue ((isEscaped_cons hp).mpr isEscaped_nil)
  | p :: q :: rest =>
    if hp : p = .char '%' then
      if hq : q = .char '%' then
        have := decidableIsEscaped rest
        decidable_of_iff (IsEscaped rest) (by rw [hp, hq, isEscaped_pair])
      else .isFalse (hp ▸ not_isEscaped_lone (by simpa using hq))
    else
      have := decidableIsEscaped (q :: rest)
      decidable_of_iff (IsEscaped (q :: rest)) (isEscaped_cons hp).symm

theorem isEscaped_of_notMem (h : .char '%' ∉ text) : IsEscaped text := by
  induction text with
  | nil => exact isEscaped_nil
  | cons p rest ih =>
    have hp : p ≠ .char '%' := fun hp => h (by simp [hp])
    exact (isEscaped_cons hp).mpr (ih fun hmem => h (by simp [hmem]))

theorem unescape_of_notMem (h : .char '%' ∉ text) : unescape text = text := by
  fun_induction unescape text with
  | case1 rest ih => simp at h
  | case2 p rest hpair ih => rw [ih fun hmem => h (by simp [hmem])]
  | case3 => rfl

/-- `piecesFrom` gives the literals of `unescape text` for a text that `IsEscaped`, whatever comes
behind it. -/
theorem piecesFrom_escaped (h : IsEscaped text) (index : Nat) (rest : Points) :
    piecesFrom none index (text ++ rest)
      = (unescape text).map .literal ++ piecesFrom none (index + text.length) rest := by
  fun_induction unescape text generalizing index with
  | case1 text ih =>
    -- The first sign of a pair opens a field, and the second closes it.
    have hpair : piecesFrom none index (.char '%' :: .char '%' :: text ++ rest)
        = .literal (.char '%') :: piecesFrom none (index + 2) (text ++ rest) := rfl
    rw [hpair, ih (isEscaped_pair.mp h), List.length_cons, List.length_cons, Nat.add_assoc,
      Nat.add_comm 2]
    rfl
  | case2 p text hpair ih =>
    have hp : p ≠ .char '%' := by
      rintro rfl
      refine not_isEscaped_lone (fun hhead => ?_) h
      obtain ⟨after, rfl⟩ := List.head?_eq_some_iff.mp hhead
      exact hpair after rfl rfl
    rw [List.cons_append, piecesFrom, if_neg hp, ih ((isEscaped_cons hp).mp h), List.length_cons,
      Nat.add_assoc, Nat.add_comm 1]
    rfl
  | case3 => rfl

end

/-! ### Filling escaped texts -/

/-- `fillPieces` carries literals over. -/
theorem fillPieces_literals (value : Option Value) (plain : Points) (rest : List Piece) :
    fillPieces value (plain.map .literal ++ rest) = (fillPieces value rest).map (plain ++ ·) := by
  induction plain with
  | nil => cases h : fillPieces value rest <;> simp [h, Except.map]
  | cons p plain ih =>
    rw [List.map_cons, List.cons_append]
    have hstep : fillPieces value (.literal p :: (plain.map .literal ++ rest))
        = (fillPieces value (plain.map .literal ++ rest)).map (p :: ·) := by
      cases value <;> rw [fillPieces]
    rw [hstep, ih]
    cases fillPieces value rest <;> rfl

section
variable {text : Points}

/-- `fill` of a text that `IsEscaped` ends with `unusedValue`. -/
theorem fill_escaped (h : IsEscaped text) (value : Value) :
    fill text value = .error (.mismatch .unusedValue) := by
  have hpieces := piecesFrom_escaped h 0 []
  rw [List.append_nil] at hpieces
  rw [fill, pieces, hpieces, fillPieces_literals]
  rfl

/-- `fill` of a text that `IsEscaped` and the `placeholder`: the `placeholderField` decides. -/
theorem fill_placed (h : IsEscaped text) (value : Value) :
    fill (text ++ placeholder) value
      = ((placeholderField (text.length + 1)).fill value).map (unescape text ++ ·) := by
  have hplaceholder : piecesFrom none (0 + text.length) placeholder
      = [.field (placeholderField (text.length + 1))] := by
    rw [Nat.zero_add]
    rfl
  rw [fill, pieces, piecesFrom_escaped h, fillPieces_literals, hplaceholder, fillPieces]
  cases (placeholderField (text.length + 1)).fill value with
  | error fault => rfl
  | ok filled => simp [fillPieces, Except.map]

theorem fill_placed_text (h : IsEscaped text) (t : Points) :
    fill (text ++ placeholder) (.text t) = .ok (unescape text ++ t) := by
  rw [fill_placed h, fill_placeholderField_text]
  rfl

theorem fill_placed_number (h : IsEscaped text) (n : Int) :
    fill (text ++ placeholder) (.number n)
      = (decimal n).map fun digits => unescape text ++ Points.ofText digits := by
  rw [fill_placed h, fill_placeholderField_number]
  cases decimal n <;> rfl

end

end Externalize.Template
