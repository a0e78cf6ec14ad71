import Externalize.Text.Utf8

/-!
# `Externalize.Proofs.Text.Utf8`: texts and their octets

* `decode_encode`: the octets of a text spell that text.
* `decode_append`: what follows octets that spell a text is decoded on its own.
* `decode_append_error`: octets that spell no text do not get to spell one by what is written behind
  them, as long as that begins with a character of ASCII. Such a character cannot continue a sequence
  that was broken off.
-/

set_option autoImplicit false

namespace Externalize.Utf8

@[simp]
theorem encode_nil : encode [] = [] := rfl

@[simp]
theorem encode_append (a b : Text) : encode (a ++ b) = encode a ++ encode b := by
  simp [encode]

theorem encode_cons (c : Char) (rest : Text) :
    encode (c :: rest) = String.utf8EncodeChar c ++ encode rest := rfl

/-! ### Decoding what was encoded -/

/-- The numbers of `Char` leave out the halves of pairs. -/
theorem toNat_val_cases (c : Char) :
    c.val.toNat < 0xD800 ∨ 0xDFFF < c.val.toNat ∧ c.val.toNat < 0x110000 :=
  c.valid

theorem ofNat_toNat_val (c : Char) : Char.ofNat c.val.toNat = c :=
  Char.ofNat_toNat c

/-- `UInt8.ofNat` of a number below 256 is this number. -/
theorem toNat_ofNat_of_lt {n : Nat} (h : n < 256) : (UInt8.ofNat n).toNat = n := by
  rw [UInt8.toNat_ofNat', Nat.mod_eq_of_lt h]

theorem isContinuation_ofNat (n : Nat) : isContinuation (UInt8.ofNat (n % 64 + 128)) = true := by
  have h : (UInt8.ofNat (n % 64 + 128)).toNat = n % 64 + 128 := toNat_ofNat_of_lt (by omega)
  simp only [isContinuation, Bool.and_eq_true, decide_eq_true_eq, UInt8.le_iff_toNat_le, h]
  constructor
  · simp
  · simp
    omega

theorem payload_ofNat (n : Nat) : payload (UInt8.ofNat (n % 64 + 128)) = n % 64 := by
  rw [payload, toNat_ofNat_of_lt (by omega)]
  omega

/-- `follows3` holds for the first two of three octets: the number is neither too small for three octets
nor a half. -/
theorem follows3_ofNat {v : Nat} (hlow : 0x7FF < v) (hhigh : v ≤ 0xFFFF)
    (hvalid : v < 0xD800 ∨ 0xDFFF < v) :
    follows3 (UInt8.ofNat (v / 4096 % 16 + 224)) (UInt8.ofNat (v / 64 % 64 + 128)) = true := by
  have hfirst : (UInt8.ofNat (v / 4096 % 16 + 224)).toNat = v / 4096 % 16 + 224 :=
    toNat_ofNat_of_lt (by omega)
  have hsecond : (UInt8.ofNat (v / 64 % 64 + 128)).toNat = v / 64 % 64 + 128 :=
    toNat_ofNat_of_lt (by omega)
  simp only [follows3, isContinuation_ofNat, Bool.true_and, Bool.and_eq_true, Bool.or_eq_true,
    bne_iff_ne, ne_eq, decide_eq_true_eq, UInt8.le_iff_toNat_le, ← UInt8.toNat_inj, hfirst, hsecond,
    UInt8.toNat_ofNat]
  omega

/-- `follows4` holds for the first two of four octets: the number is neither too small for four octets
nor too large for a `Char`. -/
theorem follows4_ofNat {v : Nat} (hlow : 0xFFFF < v) (hhigh : v < 0x110000) :
    follows4 (UInt8.ofNat (v / 262144 % 8 + 240)) (UInt8.ofNat (v / 4096 % 64 + 128)) = true := by
  have hfirst : (UInt8.ofNat (v / 262144 % 8 + 240)).toNat = v / 262144 % 8 + 240 :=
    toNat_ofNat_of_lt (by omega)
  have hsecond : (UInt8.ofNat (v / 4096 % 64 + 128)).toNat = v / 4096 % 64 + 128 :=
    toNat_ofNat_of_lt (by omega)
  simp only [follows4, isContinuation_ofNat, Bool.true_and, Bool.and_eq_true, Bool.or_eq_true,
    bne_iff_ne, ne_eq, decide_eq_true_eq, UInt8.le_iff_toNat_le, ← UInt8.toNat_inj, hfirst, hsecond,
    UInt8.toNat_ofNat]
  omega

/-- `decodeFrom` reads the octets of one character back as this character. -/
theorem decodeFrom_utf8EncodeChar (start : Nat) (c : Char) (rest : Octets) (done : Text) :
    decodeFrom start (String.utf8EncodeChar c ++ rest) done
      = decodeFrom (start + (String.utf8EncodeChar c).length) rest (c :: done) := by
  have hvalid := toNat_val_cases c
  have hchar := ofNat_toNat_val c
  unfold String.utf8EncodeChar
  generalize c.val.toNat = v at hvalid hchar
  simp only
  -- The four cases are the four sizes; in each the first octet alone picks the branch.
  split
  · have h : (UInt8.ofNat v).toNat = v := toNat_ofNat_of_lt (by omega)
    rw [List.cons_append, decodeFrom.eq_def]
    simp only [List.nil_append, h, hchar, List.length_singleton]
    rw [if_pos (by simp only [UInt8.lt_iff_toNat_lt, h]; exact Nat.lt_succ_of_le ‹_›)]
  split
  · have h : (UInt8.ofNat (v / 64 % 32 + 192)).toNat = v / 64 % 32 + 192 :=
      toNat_ofNat_of_lt (by omega)
    rw [List.cons_append, decodeFrom.eq_def]
    simp only [List.cons_append, List.nil_append, isContinuation_ofNat, if_true, payload_ofNat, h]
    rw [if_neg (by simp [UInt8.lt_iff_toNat_lt]; omega),
      if_neg (by simp [UInt8.lt_iff_toNat_lt]; omega),
      if_pos (by simp [UInt8.lt_iff_toNat_lt]; omega),
      show (v / 64 % 32 + 192) % 32 * 64 + v % 64 = v by omega, hchar]
    rfl
  split
  · have h : (UInt8.ofNat (v / 4096 % 16 + 224)).toNat = v / 4096 % 16 + 224 :=
      toNat_ofNat_of_lt (by omega)
    have hfollows := follows3_ofNat (v := v) (by omega) (by omega) (by omega)
    rw [List.cons_append, decodeFrom.eq_def]
    simp only [List.cons_append, List.nil_append, isContinuation_ofNat, hfollows, if_true,
      payload_ofNat, h]
    rw [if_neg (by simp [UInt8.lt_iff_toNat_lt]; omega),
      if_neg (by simp [UInt8.lt_iff_toNat_lt]; omega),
      if_neg (by simp [UInt8.lt_iff_toNat_lt]; omega),
      if_pos (by simp [UInt8.lt_iff_toNat_lt]; omega),
      show (v / 4096 % 16 + 224) % 16 * 4096 + v / 64 % 64 * 64 + v % 64 = v by omega, hchar]
    rfl
  · have h : (UInt8.ofNat (v / 262144 % 8 + 240)).toNat = v / 262144 % 8 + 240 :=
      toNat_ofNat_of_lt (by omega)
    have hfollows := follows4_ofNat (v := v) (by omega) (by omega)
    rw [List.cons_append, decodeFrom.eq_def]
    simp only [List.cons_append, List.nil_append, isContinuation_ofNat, hfollows, if_true,
      payload_ofNat, h]
    rw [if_neg (by simp [UInt8.lt_iff_toNat_lt]; omega),
      if_neg (by simp [UInt8.lt_iff_toNat_lt]; omega),
      if_neg (by simp [UInt8.lt_iff_toNat_lt]; omega),
      if_neg (by simp [UInt8.lt_iff_toNat_lt]; omega),
      show (v / 262144 % 8 + 240) % 8 * 262144 + v / 4096 % 64 * 4096 + v / 64 % 64 * 64
        + v % 64 = v by omega, hchar]
    rfl

theorem decodeFrom_encode (start : Nat) (text : Text) (done : Text) :
    decodeFrom start (encode text) done = .ok (done.reverse ++ text) := by
  induction text generalizing start done with
  | nil => simp [decodeFrom]
  | cons c rest ih => rw [encode_cons, decodeFrom_utf8EncodeChar, ih]; simp

/-- `decode` undoes `encode`. -/
@[simp]
theorem decode_encode (text : Text) : decode (encode text) = .ok text :=
  decodeFrom_encode 0 text []

/-! ### What follows octets -/

theorem decodeFrom_append {start : Nat} {octets : Octets} {done text : Text} (more : Octets)
    (h : decodeFrom start octets done = .ok text) :
    decodeFrom start (octets ++ more) done
      = decodeFrom (start + octets.length) more text.reverse := by
  -- Characters of one, two, three and four octets: each takes the same octets with more behind them.
  -- All other cases are refusals.
  fun_induction decodeFrom start octets done with
  | case1 start done =>
    cases h
    simp
  | case2 start a rest done ha ih =>
    rw [List.cons_append, decodeFrom.eq_def]
    simp only [ha, if_true, ih h, List.length_cons]
    congr 1
    omega
  | case5 start a done h1 h2 h3 b rest hb ih =>
    rw [List.cons_append, decodeFrom.eq_def]
    simp only [h1, h2, h3, hb, if_true, if_false, List.cons_append, ih h, List.length_cons]
    congr 1
    omega
  | case9 start a done h1 h2 h3 h4 b hb c rest hc ih =>
    rw [List.cons_append, decodeFrom.eq_def]
    simp only [h1, h2, h3, h4, hb, hc, if_true, if_false, List.cons_append, ih h,
      List.length_cons]
    congr 1
    omega
  | case15 start a done h1 h2 h3 h4 b hb c hc d rest hd ih =>
    rw [List.cons_append, decodeFrom.eq_def]
    simp only [h1, h2, h3, h4, hb, hc, hd, if_true, if_false, List.cons_append, ih h,
      List.length_cons]
    congr 1
    omega
  | _ => cases h

/-- `decode` reads the octets of the text `more` apart from the octets before them. -/
theorem decode_append {octets : Octets} {text : Text} (more : Text)
    (h : decode octets = .ok text) : decode (octets ++ encode more) = .ok (text ++ more) := by
  rw [decode, decodeFrom_append _ h, decodeFrom_encode, List.reverse_reverse]

theorem isContinuation_of_lt {b : UInt8} (hb : b < 0x80) : isContinuation b = false := by
  simp only [isContinuation, Bool.and_eq_false_iff, decide_eq_false_iff_not,
    UInt8.le_iff_toNat_le]
  exact Or.inl (Nat.not_le_of_lt hb)

/-- `decode` fails on octets that it failed on before, with an octet of ASCII and anything `more` behind
them. -/
theorem decode_append_error {octets : Octets} {fault : Fault} {b : UInt8} (more : Octets)
    (hb : b < 0x80) (h : decode octets = .error fault) :
    ∃ fault', decode (octets ++ b :: more) = .error fault' := by
  have hb1 := isContinuation_of_lt hb
  have hb3 : ∀ a, follows3 a b = false := by simp [follows3, hb1]
  have hb4 : ∀ a, follows4 a b = false := by simp [follows4, hb1]
  unfold decode at h ⊢
  generalize (0 : Nat) = start at h ⊢
  generalize ([] : Text) = done at h ⊢
  fun_induction decodeFrom start octets done
  case case1 => cases h
  -- The longer octets take the same branch; where they ended inside a sequence, `b` breaks it.
  all_goals
    rw [List.cons_append, decodeFrom.eq_def]
    simp only [*, if_true, if_false, List.cons_append, List.nil_append, Bool.false_eq_true]
  all_goals exact ⟨_, rfl⟩

end Externalize.Utf8
