import Externalize.Proofs.Template.Fill

/-!
# `Externalize.Proofs.Template.Reach`: which values a template can be filled with

A template that can be filled at all reads as text with one field in it (`ReadsAs`): a width or a
precision that the value supplies leaves nothing for the field itself (`exists_readsAs`). Then the
field alone decides about every other value (`fill_readsAs`).

A field that takes the number zero takes the numbers below a limit that its letter sets
(`takes_number_iff`). Conversions to a character end with the last character. Those with a fraction
end where rounding reaches the first power of two that is no real number any more
(`nearestReal?_isSome_iff`). All others go as far as decimals are written. A field that takes one text
takes every text, unless it asks for a character (`takes_text_iff`).
-/

set_option autoImplicit false

namespace Externalize.Template

/-! ### Reals within reach -/

/-- The first number that is too large to be written with a fraction. It lies half-way between the
largest real number and the power of two above it. -/
def realLimit : Nat := Nat.pow 2 1024 - Nat.pow 2 970

theorem roundDiv_le (n d : Nat) : roundDiv n d ≤ n / d + 1 := by
  simp only [roundDiv]
  split <;> omega

theorem le_roundDiv (n d : Nat) : n / d ≤ roundDiv n d := by
  simp only [roundDiv]
  split <;> omega

/-- `roundDiv` goes up at the half above an odd number. -/
theorem roundDiv_le_odd_iff {n d k : Nat} (hd : 0 < d) (hk : k % 2 = 1) :
    roundDiv n d ≤ k ↔ 2 * n < (2 * k + 1) * d := by
  have hn : n = d * (n / d) + n % d := (Nat.div_add_mod n d).symm
  have hmod := Nat.mod_lt n hd
  simp only [roundDiv]
  generalize n / d = q at *
  generalize n % d = r at *
  subst hn
  rcases Nat.lt_trichotomy q k with hlt | rfl | hgt
  · have hmul : d * (q + 1) ≤ d * k := Nat.mul_le_mul_left d hlt
    rw [Nat.mul_add, Nat.mul_one] at hmul
    refine iff_of_true (by split <;> omega) ?_
    rw [Nat.add_mul, Nat.one_mul, Nat.mul_assoc, Nat.mul_comm k]
    omega
  · rw [Nat.add_mul, Nat.one_mul, Nat.mul_assoc, Nat.mul_comm q]
    split <;> omega
  · have hmul : d * (k + 1) ≤ d * q := Nat.mul_le_mul_left d hgt
    rw [Nat.mul_add, Nat.mul_one] at hmul
    refine iff_of_false (by split <;> omega) ?_
    rw [Nat.add_mul, Nat.one_mul, Nat.mul_assoc, Nat.mul_comm k]
    omega

/-- `roundDiv` to so many significant `bits` stays below a power of two exactly if the number lies
before the half of the last unit there. -/
theorem roundDiv_log2_lt_iff {bits : Nat} (hbits : 0 < bits) (n k : Nat) :
    roundDiv n (Nat.pow 2 (Nat.log2 n + 1 - bits)) * Nat.pow 2 (Nat.log2 n + 1 - bits)
        < Nat.pow 2 (bits + 1 + k) ↔
      n < Nat.pow 2 (bits + 1 + k) - Nat.pow 2 k := by
  simp only [Nat.pow_eq]
  have hk := Nat.two_pow_pos k
  have hb := Nat.two_pow_pos bits
  have htop : 2 ^ (bits + 1 + k) = 2 * (2 ^ bits * 2 ^ k) := by
    rw [Nat.pow_add, Nat.pow_succ, Nat.mul_comm _ 2, Nat.mul_assoc]
  have hle : 2 ^ k ≤ 2 ^ bits * 2 ^ k := Nat.le_mul_of_pos_left _ hb
  rcases Nat.lt_trichotomy (Nat.log2 n) (bits + k) with hlog | hlog | hlog
  · -- Far below, rounding adds at most the unit.
    have hn : n < 2 ^ bits * 2 ^ k := by
      rw [← Nat.pow_add]
      exact Nat.lt_of_lt_of_le Nat.lt_log2_self (Nat.pow_le_pow_right (by decide) hlog)
    have hunit : 2 ^ (Nat.log2 n + 1 - bits) ≤ 2 ^ k := Nat.pow_le_pow_right (by decide) (by omega)
    have hround := Nat.mul_le_mul_right (2 ^ (Nat.log2 n + 1 - bits))
      (roundDiv_le n (2 ^ (Nat.log2 n + 1 - bits)))
    have hquotient := Nat.div_mul_le_self n (2 ^ (Nat.log2 n + 1 - bits))
    rw [Nat.add_mul, Nat.one_mul] at hround
    refine iff_of_true ?_ ?_ <;> omega
  · -- Here the last number below the power is an odd number of units.
    have hunit : Nat.log2 n + 1 - bits = k + 1 := by omega
    have hodd : (2 ^ bits - 1) % 2 = 1 := by
      obtain ⟨b, rfl⟩ : ∃ b, bits = b + 1 := ⟨bits - 1, by omega⟩
      rw [Nat.pow_succ] at hb ⊢
      omega
    have hsplit : 2 ^ (bits + 1 + k) = 2 ^ bits * 2 ^ (k + 1) := by
      rw [← Nat.pow_add]
      congr 1
      omega
    rw [hunit]
    calc roundDiv n (2 ^ (k + 1)) * 2 ^ (k + 1) < 2 ^ (bits + 1 + k)
        ↔ roundDiv n (2 ^ (k + 1)) < 2 ^ bits := by
          rw [hsplit, Nat.mul_lt_mul_right (Nat.two_pow_pos (k + 1))]
      _ ↔ roundDiv n (2 ^ (k + 1)) ≤ 2 ^ bits - 1 := by omega
      _ ↔ 2 * n < (2 * (2 ^ bits - 1) + 1) * 2 ^ (k + 1) :=
          roundDiv_le_odd_iff (Nat.two_pow_pos (k + 1)) hodd
      _ ↔ n < 2 ^ (bits + 1 + k) - 2 ^ k := by
          have hfactor : 2 * (2 ^ bits - 1) + 1 = 2 * 2 ^ bits - 1 := by omega
          rw [hfactor, htop, Nat.pow_succ, Nat.sub_mul, Nat.one_mul, Nat.mul_assoc,
            ← Nat.mul_assoc (2 ^ bits)]
          omega
  · -- A power of two that the number reaches is a whole number of units, so rounding keeps above it.
    have hreach : 2 ^ (bits + 1 + k) ≤ 2 ^ Nat.log2 n := Nat.pow_le_pow_right (by decide) (by omega)
    have hself : 2 ^ Nat.log2 n ≤ n := Nat.log2_self_le (by rintro rfl; simp at hlog)
    have hunits : 2 ^ (Nat.log2 n + 1 - bits) ∣ 2 ^ Nat.log2 n := Nat.pow_dvd_pow 2 (by omega)
    have hround : 2 ^ Nat.log2 n ≤
        roundDiv n (2 ^ (Nat.log2 n + 1 - bits)) * 2 ^ (Nat.log2 n + 1 - bits) := by
      rw [← Nat.div_mul_cancel hunits]
      exact Nat.mul_le_mul_right _ (Nat.le_trans (Nat.div_le_div_right hself) (le_roundDiv _ _))
    refine iff_of_false ?_ ?_ <;> omega

theorem nearestReal?_isSome_iff (n : Nat) : (nearestReal? n).isSome = true ↔ n < realLimit := by
  have hlimit := @roundDiv_log2_lt_iff significantBits (by decide) n 970
  rw [show significantBits + 1 + 970 = 1024 from rfl] at hlimit
  unfold nearestReal? realLimit
  -- The powers are too large to be computed, so they are kept apart from their exponents.
  generalize 1024 = top at hlimit ⊢
  generalize 970 = half at hlimit ⊢
  rw [Option.isSome_ite]
  exact hlimit

/-! ### What a field takes -/

/-- `Field.fill` ends well with the value. -/
def Field.Takes (field : Field) (value : Value) : Prop :=
  ∃ text, field.fill value = .ok text

/-- The letters of the conversions with a fraction. -/
def realLetters : Points := Points.ofText "eEfFgG".toList

/-- The number at which those end that a conversion with the letter takes: `0x110000` for `c`,
`realLimit` for the `realLetters`, and `decimalLimit` for the others. -/
def letterLimit (letter : Point) : Nat :=
  if letter = .char 'c' then 0x110000
  else if letter ∈ realLetters then realLimit
  else decimalLimit

section
variable {α β : Type} {field : Field} {n : Int} {precision : Option Nat}

theorem exists_bind_eq_ok {first : Except Fault α} {next : α → Except Fault β} :
    (∃ b, first.bind next = .ok b) ↔ ∃ a, first = .ok a ∧ ∃ b, next a = .ok b := by
  cases first <;> simp [Except.bind]

theorem exists_place_eq_ok {text : Points} :
    (∃ placed, field.place text = .ok placed) ↔ field.width.getD 0 ≤ memoryLimit := by
  simp only [Field.place, Field.checkWidth]
  split <;> simp_all [bind, Except.bind, pure, Except.pure]

theorem exists_placeFigure_eq_ok {figure : Figure} :
    (∃ placed, field.placeFigure figure = .ok placed) ↔ field.width.getD 0 ≤ memoryLimit := by
  simp only [Field.placeFigure, Field.checkWidth]
  split <;> simp_all [bind, Except.bind, pure, Except.pure]

theorem exists_decimal_eq_ok :
    (∃ digits, decimal n = .ok digits) ↔ n.natAbs < decimalLimit := by
  simp [decimal_eq_ok_iff]

theorem exists_character_eq_ok :
    (∃ point, character n = .ok point) ↔ 0 ≤ n ∧ n.natAbs < 0x110000 := by
  simp only [character]
  split
  · simp
    omega
  · simp
    omega

theorem exists_decimalFigure_eq_ok :
    (∃ figure, decimalFigure precision n = .ok figure) ↔
      precision.getD 0 ≤ maxDigitPrecision ∧ n.natAbs < decimalLimit := by
  have hdigits : (∃ digits, decimalDigits n.natAbs = .ok digits) ↔ n.natAbs < decimalLimit := by
    simp [decimalDigits_eq_ok_iff]
  simp only [decimalFigure, checkPrecision]
  rw [← hdigits]
  split
  · cases decimalDigits n.natAbs <;> simp_all [bind, Except.bind, pure, Except.pure]
  · simp_all [bind, Except.bind, Nat.not_le_of_lt]

theorem exists_baseFigure_eq_ok {base : Nat} {letter : Char} {marked : Bool} :
    (∃ figure, baseFigure base letter marked precision n = .ok figure) ↔
      precision.getD 0 ≤ maxDigitPrecision := by
  simp only [baseFigure, checkPrecision]
  split <;> simp_all [bind, Except.bind, pure, Except.pure]

theorem exists_realFigure_eq_ok {conversion : Char} {alternate : Bool} :
    (∃ figure, realFigure conversion alternate precision n = .ok figure) ↔ n.natAbs < realLimit := by
  rw [← nearestReal?_isSome_iff]
  unfold realFigure
  generalize nearestReal? n.natAbs = nearest
  cases nearest <;> simp

/-- A field that `Takes` zero takes exactly the numbers below the `letterLimit` of its `conversion`. -/
theorem takes_number_iff {m : Nat} (hzero : field.Takes (.number 0)) (hm : m < decimalLimit) :
    field.Takes (.number m) ↔ m < letterLimit field.conversion := by
  -- Width and precision are checked alike for every number, and the letter decides on the rest.
  simp only [Field.Takes, Field.fill, Field.fillNumber] at hzero ⊢
  split at hzero <;> rename_i hletter
  all_goals
    simp only [exists_bind_eq_ok, exists_and_right, exists_place_eq_ok, exists_placeFigure_eq_ok,
      exists_decimal_eq_ok, exists_character_eq_ok, exists_decimalFigure_eq_ok,
      exists_baseFigure_eq_ok, exists_realFigure_eq_ok, Int.natAbs_natCast, reduceCtorEq,
      exists_false] at hzero ⊢
  all_goals simp [hletter, letterLimit, realLetters, Points.ofText, hm, hzero]

/-- A field that `Takes` one text takes every text, unless its `conversion` is `c`, which takes one
character. -/
theorem takes_text_iff {first text : Points} (hfirst : field.Takes (.text first)) :
    field.Takes (.text text) ↔ (field.conversion = .char 'c' → text.length = 1) := by
  have hcharacter (t : Points) (h : field.conversion = .char 'c') :
      field.Takes (.text t) ↔ t.length = 1 ∧ field.width.getD 0 ≤ memoryLimit := by
    simp only [Field.Takes, Field.fill, Field.fillText, h]
    rcases t with _ | ⟨p, _ | ⟨q, t⟩⟩
    · simp
    · simp [exists_place_eq_ok]
    · simp
  by_cases hletter : field.conversion = .char 'c'
  · rw [hcharacter _ hletter] at hfirst ⊢
    simp [hletter, hfirst]
  · simp only [Field.Takes, Field.fill, Field.fillText] at hfirst ⊢
    split at hfirst <;> simp_all [exists_place_eq_ok]

end

/-! ### Templates with one field -/

/-- The pieces of a text with one field in it. -/
def oneField (before : Points) (field : Field) (after : Points) : List Piece :=
  before.map .literal ++ .field field :: after.map .literal

/-- `pieces` of the template are `oneField`. -/
def ReadsAs (template before : Points) (field : Field) (after : Points) : Prop :=
  pieces template = oneField before field after

/-- The `conversion` of a piece that is a field. -/
def Piece.letter? : Piece → Option Point
  | .field f => some f.conversion
  | _ => none

/-- The `conversion` of the first field of a template. -/
def letter? (template : Points) : Option Point :=
  (pieces template).findSome? Piece.letter?

/-- The `Move` goes on with a draft that has begun, or ends the field. -/
def Move.Keeps : Move → Prop
  | .next draft | .starred draft => draft.stage ≠ .opened
  | .percent => False
  | .done _ | .stop _ => True

namespace Draft

theorem keeps_afterPrecision (draft : Draft) (index : Nat) (c : Char) :
    (draft.afterPrecision index c).Keeps := by
  simp only [afterPrecision, complete]
  split <;> simp [Move.Keeps]

theorem keeps_afterWidth (draft : Draft) (index : Nat) (c : Char) :
    (draft.afterWidth index c).Keeps := by
  rw [afterWidth]
  split
  · simp [Move.Keeps]
  · exact keeps_afterPrecision draft index c

theorem keeps_atFlags (draft : Draft) (index : Nat) (c : Char) :
    (draft.atFlags index c).Keeps := by
  simp only [atFlags, afterFlags]
  split
  · simp [Move.Keeps]
  · split
    · simp [Move.Keeps]
    · split
      · simp [Move.Keeps]
      · exact keeps_afterWidth draft index c

/-- `Draft.move` leaves a field without a piece only at a second percent sign right behind the first. -/
theorem move_cases (draft : Draft) (index : Nat) (c : Char) :
    (draft.stage = .opened ∧ draft.move index c = .percent) ∨ (draft.move index c).Keeps := by
  rw [move]
  cases hstage : draft.stage with
  | opened =>
    dsimp only
    split
    · exact .inl ⟨rfl, rfl⟩
    · split
      · exact .inr trivial
      · exact .inr (keeps_atFlags draft index c)
  | flags => exact .inr (keeps_atFlags draft index c)
  | width =>
    dsimp only
    split
    · exact .inr (keeps_afterWidth draft index c)
    · split <;> simp [Move.Keeps]
  | widthDone => exact .inr (keeps_afterWidth draft index c)
  | point =>
    dsimp only
    split
    · simp [Move.Keeps]
    · split
      · simp [Move.Keeps]
      · exact .inr (keeps_afterPrecision draft index c)
  | precision =>
    dsimp only
    split
    · exact .inr (keeps_afterPrecision draft index c)
    · split <;> simp [Move.Keeps]
  | precisionDone => exact .inr (keeps_afterPrecision draft index c)
  | sized => exact .inr trivial

end Draft

section
variable {draft : Draft} {value : Value} {template before after filled : Points} {field : Field}

/-- `piecesFrom` in a field that has begun never gives literals alone. -/
theorem piecesFrom_begun_ne (hbegun : draft.stage ≠ .opened) (index : Nat) (rest plain : Points) :
    piecesFrom (some draft) index rest ≠ plain.map .literal := by
  induction rest generalizing draft index with
  | nil => cases plain <;> simp [piecesFrom]
  | cons p rest ih =>
    cases p with
    | half n => cases plain <;> simp [piecesFrom]
    | char c =>
      have hkeeps := (draft.move_cases index c).resolve_left fun h => hbegun h.1
      rw [piecesFrom]
      split <;> rename_i hmove
      · rw [hmove] at hkeeps
        exact ih hkeeps (index + 1)
      · cases plain <;> simp
      · simp [hmove, Move.Keeps] at hkeeps
      · cases plain <;> simp
      · cases plain <;> simp

/-- `piecesFrom` never gives a `star` with nothing but literals behind it: the letter of its field is
missing yet. -/
theorem piecesFrom_ne_star (state : Option Draft) (index : Nat) (rest before after : Points) :
    piecesFrom state index rest ≠ before.map .literal ++ .star :: after.map .literal := by
  fun_induction piecesFrom state index rest generalizing before with
  | case1 => cases before <;> simp
  | case2 => cases before <;> simp
  | case3 index rest ih => exact ih before
  -- A literal in front is one of `before`.
  | case4 index p rest hp ih =>
    cases before with
    | nil => simp
    | cons q before =>
      intro h
      exact ih before (List.cons.inj h).2
  | case5 draft index n rest ih => cases before <;> simp
  | case6 draft index c rest next hmove ih => exact ih before
  -- A star: the field has begun, so that its letter still makes a piece.
  | case7 draft index c rest next hmove ih =>
    cases before with
    | nil =>
      have hkeeps := (draft.move_cases index c).resolve_left fun h => by simp [hmove] at h
      rw [hmove] at hkeeps
      intro h
      exact piecesFrom_begun_ne hkeeps _ _ _ (List.cons.inj h).2
    | cons q before => simp
  | case8 draft index c rest hmove ih =>
    cases before with
    | nil => simp
    | cons q before =>
      intro h
      exact ih before (List.cons.inj h).2
  | case9 => cases before <;> simp
  | case10 => cases before <;> simp

/-- `fillPieces` without a value ends well for literals only. -/
theorem eq_literals_of_fillPieces {rest : List Piece} (h : fillPieces none rest = .ok filled) :
    rest = filled.map .literal := by
  induction rest generalizing filled with
  | nil =>
    obtain rfl : [] = filled := Except.ok.inj h
    rfl
  | cons piece rest ih =>
    cases piece with
    | literal p =>
      rw [fillPieces] at h
      cases hrest : fillPieces none rest with
      | error fault => simp [hrest, Except.map] at h
      | ok tail =>
        rw [hrest] at h
        obtain rfl : p :: tail = filled := Except.ok.inj h
        rw [ih hrest, List.map_cons]
    | star => simp [fillPieces] at h
    | field field => simp [fillPieces] at h
    | broken m => simp [fillPieces] at h

/-- `fillPieces` ends well only for pieces with one place for the value: a field, or a `star`. -/
theorem fillPieces_cases {rest : List Piece} (h : fillPieces (some value) rest = .ok filled) :
    (∃ before field after, rest = oneField before field after) ∨
      ∃ before after : Points, rest = before.map .literal ++ .star :: after.map .literal := by
  induction rest generalizing filled with
  | nil => simp [fillPieces] at h
  | cons piece rest ih =>
    cases piece with
    | literal p =>
      rw [fillPieces] at h
      cases hrest : fillPieces (some value) rest with
      | error fault => simp [hrest, Except.map] at h
      | ok tail =>
        rcases ih hrest with ⟨before, field, after, rfl⟩ | ⟨before, after, rfl⟩
        · exact .inl ⟨p :: before, field, after, rfl⟩
        · exact .inr ⟨p :: before, after, rfl⟩
    | star =>
      -- A width takes the value itself, so nothing is left for what follows.
      cases value with
      | number n => exact .inr ⟨[], filled, by rw [eq_literals_of_fillPieces h]; rfl⟩
      | text t => simp [fillPieces] at h
    | field field =>
      rw [fillPieces] at h
      cases hfield : field.fill value with
      | error fault => simp [hfield] at h
      | ok text =>
        cases hrest : fillPieces none rest with
        | error fault => simp [hfield, hrest, Except.map] at h
        | ok tail => exact .inl ⟨[], field, tail, by rw [eq_literals_of_fillPieces hrest]; rfl⟩
    | broken m => simp [fillPieces] at h

/-- `fillPieces` of `oneField` ends as `Field.fill` does. -/
theorem fillPieces_oneField (before : Points) (field : Field) (after : Points) (value : Value) :
    fillPieces (some value) (oneField before field after)
      = (field.fill value).map (before ++ · ++ after) := by
  have hafter : fillPieces none (after.map .literal) = .ok after := by
    have h := fillPieces_literals none after []
    rw [List.append_nil] at h
    rw [h, fillPieces, Except.map, List.append_nil]
  rw [oneField, fillPieces_literals, fillPieces]
  cases field.fill value with
  | error fault => rfl
  | ok text => simp [hafter, Except.map]

/-- A template for which `fill` ended well `ReadsAs` a text with one field. -/
theorem exists_readsAs (h : fill template value = .ok filled) :
    ∃ before field after, ReadsAs template before field after :=
  (fillPieces_cases h).resolve_right fun ⟨before, after, hstar⟩ =>
    piecesFrom_ne_star none 0 template before after hstar

theorem fill_readsAs (h : ReadsAs template before field after) (value : Value) :
    fill template value = (field.fill value).map (before ++ · ++ after) := by
  rw [fill, h, fillPieces_oneField]

/-- `fill` of a template that `ReadsAs` a text with one field ends well exactly if the field `Takes` the
value. -/
theorem exists_fill_iff (h : ReadsAs template before field after) :
    (∃ filled, fill template value = .ok filled) ↔ field.Takes value := by
  rw [fill_readsAs h, Field.Takes]
  cases field.fill value <;> simp [Except.map]

theorem letter?_readsAs (h : ReadsAs template before field after) :
    letter? template = some field.conversion := by
  have hbefore : (before.map Piece.literal).findSome? Piece.letter? = none := by
    simp [List.findSome?_eq_none_iff, Piece.letter?]
  rw [letter?, h, oneField, List.findSome?_append, hbefore]
  rfl

end

/-! ### The placeholder at the end -/

/-- What `piecesFrom` can make of a `placeholder` at the end of a template. -/
inductive EndsPlaced : List Piece → Prop
  | placed (index : Nat) : EndsPlaced [.field (placeholderField index)]
  /-- The percent sign is the second of a pair. -/
  | escaped : EndsPlaced [.literal (.char '%'), .literal (.char 's')]
  /-- The percent sign is the letter of a field. -/
  | taken {field : Field} (letter : field.conversion = .char '%') :
      EndsPlaced [.field field, .literal (.char 's')]
  | broken (m : Mismatch) : EndsPlaced [.broken m]
  | cons (piece : Piece) {rest : List Piece} (ends : EndsPlaced rest) : EndsPlaced (piece :: rest)

theorem endsPlaced_piecesFrom (state : Option Draft) (index : Nat) (text : Points) :
    EndsPlaced (piecesFrom state index (text ++ placeholder)) := by
  induction text generalizing state index with
  -- The placeholder is read in the state that the text has left.
  | nil =>
    cases state with
    | none => exact .placed (index + 1)
    | some draft =>
      obtain ⟨stage, flags, width, precision⟩ := draft
      cases stage with
      | opened => exact .escaped
      | _ => exact .taken rfl
  | cons p text ih =>
    match state, p with
    | none, p =>
      rw [List.cons_append, piecesFrom]
      split
      · exact ih _ _
      · exact .cons _ (ih _ _)
    | some draft, .half n => exact .cons _ (ih _ _)
    | some draft, .char c =>
      rw [List.cons_append, piecesFrom]
      split
      · exact ih _ _
      · exact .cons _ (ih _ _)
      · exact .cons _ (ih _ _)
      · exact .cons _ (ih _ _)
      · exact .broken _

/-- A placeholder that is read as literals is two code points. -/
theorem EndsPlaced.two_le {plain : Points} (h : EndsPlaced (plain.map .literal)) :
    2 ≤ plain.length := by
  induction plain with
  | nil => cases h
  | cons p plain ih =>
    generalize hps : (p :: plain).map Piece.literal = ps at h
    cases h with
    | placed => simp at hps
    | escaped => rw [← List.length_map (f := Piece.literal), hps]; decide
    | taken => simp at hps
    | broken => simp at hps
    | cons piece ends =>
      rw [← (List.cons.inj hps).2] at ends
      exact Nat.le_succ_of_le (ih ends)

/-- If the pieces are `oneField`, then the field is the `placeholderField`, or two code points follow
it, or its `conversion` is a percent sign. -/
theorem EndsPlaced.oneField_cases {before after : Points} {field : Field}
    (h : EndsPlaced (oneField before field after)) :
    (after = [] ∧ ∃ index, field = placeholderField index) ∨ 2 ≤ after.length ∨
      field.conversion = .char '%' := by
  induction before with
  | nil =>
    generalize hps : oneField [] field after = ps at h
    obtain ⟨hfield, hafter⟩ : ps.head? = some (.field field) ∧ ps.tail = after.map .literal := by
      rw [← hps]
      exact ⟨rfl, rfl⟩
    cases h with
    | placed index =>
      have hnil : after = [] := List.map_eq_nil_iff.mp hafter.symm
      exact .inl ⟨hnil, index, by simpa using hfield.symm⟩
    | escaped => simp at hfield
    | taken hletter =>
      have hsame : _ = field := Piece.field.inj (Option.some.inj hfield)
      exact .inr (.inr (hsame ▸ hletter))
    | broken => simp at hfield
    | cons piece ends =>
      rw [List.tail_cons] at hafter
      exact .inr (.inl (EndsPlaced.two_le (hafter ▸ ends)))
  | cons p before ih =>
    -- A piece of text more in front changes nothing.
    generalize hps : oneField (p :: before) field after = ps at h
    have hmem : .field field ∈ ps.tail ∧ ps.tail = oneField before field after := by
      rw [← hps]
      exact ⟨by simp [oneField], rfl⟩
    cases h with
    | placed index => simp at hmem
    | escaped => simp at hmem
    | taken hletter => simp at hmem
    | broken => simp at hmem
    | cons piece ends => exact ih (hmem.2 ▸ ends)

/-- A field whose `conversion` is a percent sign `Takes` no number. -/
theorem not_takes_percent {field : Field} (hletter : field.conversion = .char '%') (n : Int) :
    ¬field.Takes (.number n) := by
  simp [Field.Takes, Field.fill, Field.fillNumber, hletter]

/-- If `fill` of a template with a `placeholder` at its end gives at most one code point for zero, then
it gives nothing but the digits for each number. -/
theorem fill_of_length_le_one {text zero : Points}
    (hzero : fill (text ++ placeholder) (.number 0) = .ok zero) (hlength : zero.length ≤ 1) (n : Int) :
    fill (text ++ placeholder) (.number n) = (decimal n).map Points.ofText := by
  obtain ⟨before, field, after, hreads⟩ := exists_readsAs hzero
  have htakes : field.Takes (.number 0) := (exists_fill_iff hreads).mp ⟨zero, hzero⟩
  obtain ⟨written, hwritten⟩ := htakes
  rw [fill_readsAs hreads, hwritten] at hzero
  obtain rfl : before ++ written ++ after = zero := Except.ok.inj hzero
  have hends : EndsPlaced (oneField before field after) := hreads ▸ endsPlaced_piecesFrom none 0 text
  rw [List.length_append, List.length_append] at hlength
  rcases hends.oneField_cases with ⟨rfl, index, rfl⟩ | hafter | hletter
  · rw [fill_placeholderField_number] at hwritten
    obtain rfl : Points.ofText ['0'] = written := Except.ok.inj hwritten
    have hdigit : (Points.ofText ['0']).length = 1 := rfl
    obtain rfl : before = [] := List.eq_nil_of_length_eq_zero (by omega)
    rw [fill_readsAs hreads, fill_placeholderField_number]
    cases decimal n <;> simp [Except.map]
  · omega
  · exact absurd ⟨written, hwritten⟩ (not_takes_percent hletter 0)

end Externalize.Template
