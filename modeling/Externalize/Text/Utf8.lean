import Externalize.Text.Points

/-!
# `Externalize.Text.Utf8`: texts as octets

`encode` and `decode` go between texts and their UTF-8 octets. Decoding refuses overlong forms,
surrogates and numbers past the last code point, and a refusal says where the bad sequence starts,
how many octets belong to it and why it is bad: the longest start of a well-formed sequence counts as
one bad sequence. Halves of pairs have no octets: `encodePoints` fails with `firstHalves`, which says
where the first of them stand.
-/

set_option autoImplicit false

namespace Externalize

/-- A file's content. -/
abbrev Octets := List UInt8

namespace Utf8

/-- Why octets are no text. -/
inductive Reason
  /-- The octet can begin no character. -/
  | invalidStart
  /-- The sequence is broken off by an octet that cannot continue it. -/
  | invalidContinuation
  /-- The octets end inside a sequence. -/
  | unexpectedEnd
  deriving Repr, DecidableEq

/-- A bad sequence: where it starts, its first octet, and how many octets it has. -/
structure Fault where
  start : Nat
  octet : UInt8
  size : Nat
  reason : Reason
  deriving Repr, DecidableEq

/-- The octets of a text, by `String.utf8EncodeChar`. -/
def encode (text : Text) : Octets :=
  text.flatMap String.utf8EncodeChar

/-- Halves of pairs one after the other, which have no octets. -/
structure Halves where
  start : Nat
  /-- The first of them. -/
  number : Nat
  size : Nat
  deriving Repr, DecidableEq

/-- The first halves of pairs in a text that has some. -/
def firstHalves (points : Points) : Halves :=
  let before := points.takeWhile (!·.isHalf)
  let halves := (points.drop before.length).takeWhile Point.isHalf
  { start := before.length, number := (halves.head?.map Point.number).getD 0, size := halves.length }

/-- The octets of a text in which halves of pairs may stand, or the `firstHalves` if there are some. -/
def encodePoints (points : Points) : Except Halves Octets :=
  match points.text? with
  | some text => .ok (encode text)
  | none => .error (firstHalves points)

/-- Whether an octet continues a sequence. -/
def isContinuation (octet : UInt8) : Bool :=
  0x80 ≤ octet && octet ≤ 0xBF

/-- Whether `second` may follow the first octet of a sequence of three. -/
def follows3 (first second : UInt8) : Bool :=
  isContinuation second && (first != 0xE0 || 0xA0 ≤ second) && (first != 0xED || second ≤ 0x9F)

/-- Whether `second` may follow the first octet of a sequence of four. -/
def follows4 (first second : UInt8) : Bool :=
  isContinuation second && (first != 0xF0 || 0x90 ≤ second) && (first != 0xF4 || second ≤ 0x8F)

/-- The six payload bits of a continuation. -/
def payload (octet : UInt8) : Nat :=
  octet.toNat % 64

/-- The loop of `decode`: `start` octets are behind, and `done` holds their characters, latest
first. -/
def decodeFrom : Nat → Octets → Text → Except Fault Text
  | _, [], done => .ok done.reverse
  | start, a :: rest, done =>
    if a < 0x80 then decodeFrom (start + 1) rest (Char.ofNat a.toNat :: done)
    else if a < 0xC2 ∨ 0xF4 < a then .error ⟨start, a, 1, .invalidStart⟩
    else if a < 0xE0 then
      match rest with
      | [] => .error ⟨start, a, 1, .unexpectedEnd⟩
      | b :: rest =>
        if isContinuation b then
          decodeFrom (start + 2) rest (Char.ofNat (a.toNat % 32 * 64 + payload b) :: done)
        else .error ⟨start, a, 1, .invalidContinuation⟩
    else if a < 0xF0 then
      match rest with
      | [] => .error ⟨start, a, 1, .unexpectedEnd⟩
      | b :: rest =>
        if follows3 a b then
          match rest with
          | [] => .error ⟨start, a, 2, .unexpectedEnd⟩
          | c :: rest =>
            if isContinuation c then
              decodeFrom (start + 3) rest
                (Char.ofNat (a.toNat % 16 * 4096 + payload b * 64 + payload c) :: done)
            else .error ⟨start, a, 2, .invalidContinuation⟩
        else .error ⟨start, a, 1, .invalidContinuation⟩
    else
      match rest with
      | [] => .error ⟨start, a, 1, .unexpectedEnd⟩
      | b :: rest =>
        if follows4 a b then
          match rest with
          | [] => .error ⟨start, a, 2, .unexpectedEnd⟩
          | c :: rest =>
            if isContinuation c then
              match rest with
              | [] => .error ⟨start, a, 3, .unexpectedEnd⟩
              | d :: rest =>
                if isContinuation d then
                  decodeFrom (start + 4) rest
                    (Char.ofNat (a.toNat % 8 * 262144 + payload b * 4096 + payload c * 64 +
                      payload d) :: done)
                else .error ⟨start, a, 3, .invalidContinuation⟩
            else .error ⟨start, a, 2, .invalidContinuation⟩
        else .error ⟨start, a, 1, .invalidContinuation⟩

/-- The text that the octets spell, or the first bad sequence: `decodeFrom` their beginning. -/
def decode (octets : Octets) : Except Fault Text :=
  decodeFrom 0 octets []

/-- The loop of `decodeWith`. -/
def decodeWithFrom (mend : Octets → Text) : Nat → Octets → Text
  | 0, _ => []
  | fuel + 1, octets =>
    match decode octets with
    | .ok text => text
    | .error fault =>
      let before := match decode (octets.take fault.start) with
        | .ok text => text
        | .error _ => []
      before ++ mend ((octets.drop fault.start).take fault.size) ++
        decodeWithFrom mend fuel (octets.drop (fault.start + fault.size))

/-- The text that the octets spell, with `mend` giving what stands in the place of a bad sequence.
Every bad sequence has an octet, so their number bounds the loop. -/
def decodeWith (mend : Octets → Text) (octets : Octets) : Text :=
  decodeWithFrom mend (octets.length + 1) octets

/-- The text with one character for every octet. -/
def widen (octets : Octets) : Text :=
  octets.map fun octet => Char.ofNat octet.toNat

/-- The text that is told of a reason. -/
def Reason.message : Reason → String
  | .invalidStart => "invalid start byte"
  | .invalidContinuation => "invalid continuation byte"
  | .unexpectedEnd => "unexpected end of data"

/-- The text that is told of a fault. -/
def Fault.message (fault : Fault) : String :=
  if fault.size = 1 then
    let octet := String.ofList (Nat.toDigits 16 fault.octet.toNat)
    s!"'utf-8' codec can't decode byte 0x{octet} in position {fault.start}: {fault.reason.message}"
  else
    let last := fault.start + fault.size - 1
    s!"'utf-8' codec can't decode bytes in position {fault.start}-{last}: {fault.reason.message}"

/-- The text that is told of halves. -/
def Halves.message (halves : Halves) : String :=
  let ending := "surrogates not allowed"
  if halves.size = 1 then
    let number := String.ofList (Nat.toDigits 16 halves.number)
    s!"'utf-8' codec can't encode character '\\u{number}' in position {halves.start}: {ending}"
  else
    let last := halves.start + halves.size - 1
    s!"'utf-8' codec can't encode characters in position {halves.start}-{last}: {ending}"

end Utf8

end Externalize
