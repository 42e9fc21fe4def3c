import ApiKeys.Text.Utf8

/-!
# Units of several octets

Two encodings put a character into units of two octets (UTF-16) or of four (UTF-32). The octets of a
unit come with the least or with the greatest one first, and a file may start with a mark that shows
which it is.
-/

namespace ApiKeys

/-- Which octet of a unit comes first. -/
inductive OctetOrder where
  | leastFirst
  | greatestFirst
  deriving DecidableEq

namespace OctetOrder

/-- The short name of an order. -/
def title : OctetOrder → String
  | leastFirst => "le"
  | greatestFirst => "be"

/-- The number that the octets of a unit make up. -/
def number (o : OctetOrder) (octets : List UInt8) : Nat :=
  let greatestFirst := match o with
    | leastFirst => octets.reverse
    | greatestFirst => octets
  greatestFirst.foldl (fun n b => n * 0x100 + b.toNat) 0

end OctetOrder

/-- The mark of the order of octets, as a code point. -/
def octetOrderMark : Nat := 0xfeff

namespace Utf16

/-- The name of the encoding in an order. -/
def title (o : OctetOrder) : String := "utf-16-" ++ o.title

/-- The text of units of two octets that start at a position. Of two surrogates that make up a
character the high one comes first. -/
def decodeFrom (o : OctetOrder) (position : Nat) : List UInt8 → Except Undecodable Text
  | [] => .ok []
  | [a] => .error ⟨title o, a, position, 1, "truncated data"⟩
  | a :: b :: s =>
    let unit := o.number [a, b]
    if unit < 0xd800 ∨ 0xe000 ≤ unit then
      (decodeFrom o (position + 2) s).map (.char (Char.ofNat unit) :: ·)
    else if 0xdc00 ≤ unit then .error ⟨title o, a, position, 2, "illegal encoding"⟩
    else
      match s with
      | c :: d :: s =>
        let low := o.number [c, d]
        if 0xdc00 ≤ low ∧ low < 0xe000 then
          let point := 0x10000 + (unit - 0xd800) * 0x400 + (low - 0xdc00)
          (decodeFrom o (position + 4) s).map (.char (Char.ofNat point) :: ·)
        else .error ⟨title o, a, position, 2, "illegal UTF-16 surrogate"⟩
      | rest => .error ⟨title o, a, position, 2 + rest.length, "unexpected end of data"⟩

end Utf16

namespace Utf32

/-- The name of the encoding in an order. -/
def title (o : OctetOrder) : String := "utf-32-" ++ o.title

/-- The text of units of four octets that start at a position. -/
def decodeFrom (o : OctetOrder) (position : Nat) : List UInt8 → Except Undecodable Text
  | a :: b :: c :: d :: s =>
    let unit := o.number [a, b, c, d]
    if 0x110000 ≤ unit then
      .error ⟨title o, a, position, 4, "code point not in range(0x110000)"⟩
    else if 0xd800 ≤ unit ∧ unit < 0xe000 then
      .error ⟨title o, a, position, 4, "code point in surrogate code point range(0xd800, 0xe000)"⟩
    else (decodeFrom o (position + 4) s).map (.char (Char.ofNat unit) :: ·)
  | [] => .ok []
  | a :: rest => .error ⟨title o, a, position, 1 + rest.length, "truncated data"⟩

end Utf32

end ApiKeys
