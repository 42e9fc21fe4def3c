import ApiKeys.Text.Fault
import ApiKeys.Text.Stretch

/-!
# Code pages

A code page gives each octet at most one character. It is written as stretches, from some octet on;
the octets before that are ASCII.
-/

namespace ApiKeys

/-- A code page. -/
structure CodePage where
  /-- The name, with a low line between words. -/
  title : String
  otherNames : List String
  /-- The octet at which the stretches start. -/
  first : Nat
  stretches : List Stretch
  deriving DecidableEq

namespace CodePage

/-- The characters of all octets. -/
def table (p : CodePage) : List (Option Char) :=
  (List.range p.first).map (fun n => some (Char.ofNat n)) ++ p.stretches.flatMap Stretch.chars?

/-- The code page of ASCII and no other characters. -/
def ascii : CodePage where
  title := "ascii"
  otherNames :=
    ["646", "ansi_x3.4_1968", "ansi_x3.4_1986", "ansi_x3_4_1968", "cp367", "csascii", "ibm367",
      "iso646_us", "iso_646.irv_1991", "iso_ir_6", "us", "us_ascii"]
  first := 0x80
  stretches := [.gap 0x80]

/-- The text of octets, or the first octet without a character, which is reported under a name and
with a reason. -/
def decodeAs (p : CodePage) (name reason : String) (octets : List UInt8) :
    Except Undecodable Text :=
  let table := p.table.toArray
  let charOf? := fun b : UInt8 => (table[b.toNat]?).join
  match octets.findIdx? fun b => (charOf? b).isNone with
  | some i => .error ⟨name, octets.getD i 0, i, 1, reason⟩
  | none => .ok (Text.ofChars (octets.filterMap charOf?))

/-- The text of octets. -/
def decode (p : CodePage) (octets : List UInt8) : Except Undecodable Text :=
  p.decodeAs "charmap" "character maps to <undefined>" octets

end CodePage

end ApiKeys
