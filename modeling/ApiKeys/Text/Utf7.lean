import ApiKeys.Text.Units

/-!
# UTF-7

ASCII characters stand for themselves, but for the plus sign, which starts a shift: digits to base
64 that make up units of UTF-16, the first digit of a unit first, up to a character that is no such
digit. A hyphen that ends a shift is dropped, and a shift of a hyphen alone stands for the plus
sign. The bits that are left over at the end of a shift are zero, and fewer than a digit has.
-/

namespace ApiKeys.Utf7

/-- The digit to base 64 that an octet is. -/
def digit? (b : UInt8) : Option Nat :=
  let n := b.toNat
  if 0x41 ≤ n ∧ n ≤ 0x5a then some (n - 0x41)
  else if 0x61 ≤ n ∧ n ≤ 0x7a then some (n - 0x61 + 26)
  else if 0x30 ≤ n ∧ n ≤ 0x39 then some (n - 0x30 + 52)
  else if n = 0x2b then some 62
  else if n = 0x2f then some 63
  else none

/-- A shift: where it starts, the bits that are no unit yet, and a high surrogate that waits for its
low one. -/
structure Shift where
  start : Nat
  count : Nat
  bits : Nat
  high : Option Nat

/-- A fault of the octets from `start` up to `stop`. -/
def fault (octet : UInt8) (start stop : Nat) (reason : String) : Undecodable :=
  ⟨"utf7", octet, start, stop - start, reason⟩

/-- The code point of a number that has one. -/
def point (n : Nat) : Text := (CodePoint.ofNat? n).toList

/-- The code points that a unit completes, and the high surrogate that waits after it. -/
def unit (high : Option Nat) (n : Nat) : Text × Option Nat :=
  let isHigh := 0xd800 ≤ n && n < 0xdc00
  let alone : Text × Option Nat := if isHigh then ([], some n) else (point n, none)
  match high with
  | none => alone
  | some h =>
    if 0xdc00 ≤ n ∧ n < 0xe000 then
      (point (0x10000 + (h - 0xd800) * 0x400 + (n - 0xdc00)), none)
    else (point h ++ alone.1, alone.2)

/-- What one more digit does to a shift: the code points that it completes. -/
def Shift.push (s : Shift) (digit : Nat) : Text × Shift :=
  let bits := s.bits * 64 + digit
  let count := s.count + 6
  if count < 16 then ([], { s with count, bits })
  else
    let rest := Nat.pow 2 (count - 16)
    let (t, high) := unit s.high (bits / rest)
    (t, { s with count := count - 16, bits := bits % rest, high })

/-- What is wrong with the bits that are left over, if anything is. -/
def Shift.leftOver? (s : Shift) : Option String :=
  if 6 ≤ s.count then some "partial character in shift sequence"
  else if s.bits ≠ 0 then some "non-zero padding bits in shift sequence"
  else none

/-- The text of octets that start at a position, outside a shift or in one. `all` are the octets
from the first position on. -/
def decodeFrom (all : List UInt8) (position : Nat) :
    Option Shift → List UInt8 → Except Undecodable Text
  | none, [] => .ok []
  | some s, [] =>
    if s.high.isSome ∨ s.leftOver?.isSome then
      .error (fault (all.getD s.start 0) s.start position "unterminated shift sequence")
    else .ok []
  | none, b :: rest =>
    if b = 0x2b then decodeFrom all (position + 1) (some ⟨position, 0, 0, none⟩) rest
    else if b < 0x80 then
      (decodeFrom all (position + 1) none rest).map (.char (Char.ofNat b.toNat) :: ·)
    else .error (fault b position (position + 1) "unexpected special character")
  | some s, b :: rest =>
    match digit? b with
    | some d =>
      let (t, s) := s.push d
      (decodeFrom all (position + 1) (some s) rest).map (t ++ ·)
    | none =>
      let opens := position = s.start + 1
      match s.leftOver? with
      | some reason => .error (fault (all.getD s.start 0) s.start (position + 1) reason)
      | none =>
        if opens ∧ b ≠ 0x2d then
          .error (fault (all.getD s.start 0) s.start (position + 1) "ill-formed sequence")
        else if 0x80 ≤ b then
          .error (fault b position (position + 1) "unexpected special character")
        else
          let waiting := (s.high.map point).getD []
          let itself : Text := if b = 0x2d then [] else [.char (Char.ofNat b.toNat)]
          let opened : Text := if opens then [.char '+'] else []
          (decodeFrom all (position + 1) none rest).map ((waiting ++ itself ++ opened) ++ ·)

/-- The text of octets. -/
def decode (octets : List UInt8) : Except Undecodable Text := decodeFrom octets 0 none octets

end ApiKeys.Utf7
