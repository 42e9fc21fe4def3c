import ApiKeys.Text.Fault

/-!
# Faults of UTF-8

Octets that are no UTF-8 have a first fault: an octet that starts no character, together with those
that follow it and could still go on with the same character. `Utf8.fault?` finds it, and
`Text.ofUtf8` reads the text or reports the fault. The other way round only lone surrogates are at
fault, which have no octets: `Text.unencodable?` finds the first run of them.
-/

namespace ApiKeys

namespace Utf8

/-- What a first octet asks for: the number of octets that follow it in its character, and the least
and the greatest value of the first of them. -/
def tail? (b : UInt8) : Option (Nat × UInt8 × UInt8) :=
  if b < 0x80 then some (0, 0x80, 0xbf)
  else if b < 0xc2 then none
  else if b < 0xe0 then some (1, 0x80, 0xbf)
  else if b = 0xe0 then some (2, 0xa0, 0xbf)
  else if b = 0xed then some (2, 0x80, 0x9f)
  else if b < 0xf0 then some (2, 0x80, 0xbf)
  else if b = 0xf0 then some (3, 0x90, 0xbf)
  else if b < 0xf4 then some (3, 0x80, 0xbf)
  else if b = 0xf4 then some (3, 0x80, 0x8f)
  else none

/-- How many of the octets that a character asks for are there. -/
def present (count : Nat) (least greatest : UInt8) : List UInt8 → Nat
  | [] => 0
  | b :: s =>
    if count = 0 ∨ b < least ∨ greatest < b then 0
    else 1 + min (count - 1) (s.takeWhile fun b => 0x80 ≤ b && b ≤ 0xbf).length

/-- Position and length of the first fault, where some octets of the current character have been
judged already. -/
def faultFrom? (judged position : Nat) : List UInt8 → Option (Nat × Nat)
  | [] => none
  | b :: s =>
    match judged, tail? b with
    | judged + 1, _ => faultFrom? judged (position + 1) s
    | 0, none => some (position, 1)
    | 0, some (count, least, greatest) =>
      let n := present count least greatest s
      if n < count then some (position, n + 1) else faultFrom? count (position + 1) s

/-- Position and length of the first fault. -/
def fault? (octets : List UInt8) : Option (Nat × Nat) := faultFrom? 0 0 octets

end Utf8

namespace Text

/-- The text that octets encode in UTF-8. -/
def ofUtf8 (octets : List UInt8) : Except Undecodable Text :=
  match ofUtf8? octets with
  | some t => .ok t
  | none =>
    let (position, length) := (Utf8.fault? octets).getD (0, octets.length)
    .error ⟨"utf-8", octets.getD position 0, position, length, "invalid utf-8"⟩

/-- The first lone surrogate that has no octets, with those that follow it in its run of lone
surrogates. Those that `passes` tells of have octets. -/
def unencodable? (passes : CodePoint → Bool) (t : Text) : Option Unencodable :=
  let rest := t.dropWhile fun p => !p.isSurrogate || passes p
  rest.head?.map fun p =>
    ⟨p, t.length - rest.length, (rest.takeWhile CodePoint.isSurrogate).length⟩

end Text

end ApiKeys
