import ApiKeys.Draws.Basic
import ApiKeys.Text.Basic

/-!
# Key identifiers

An identifier has 64 characters of an alphabet of 62. Each character is the one that an accepted
draw numbers; a draw of 62 or 63 numbers none and is rejected, and the next draw is taken in its
place. Nothing is done here to keep identifiers apart from each other.
-/

namespace ApiKeys.KeyId

/-- The number of characters of an identifier. -/
def length : Nat := 64

/-- The characters of identifiers: small letters, digits, capitals. -/
def alphabet : List Char :=
  "abcdefghijklmnopqrstuvwxyz0123456789ABCDEFGHIJKLMNOPQRSTUVWXYZ".toList

/-- The code point is a character of the alphabet. -/
def ofAlphabet : CodePoint → Bool
  | .char c => alphabet.contains c
  | .surrogate _ => false

/-- The text has the form of an identifier. -/
def Valid (t : Text) : Prop := t.length = length ∧ ∀ p ∈ t, ofAlphabet p = true

instance (t : Text) : Decidable (Valid t) := by unfold Valid; infer_instance

/-- The character that a draw numbers. -/
def character? (d : Draw) : Option Char := alphabet[d.val]?

/-- Draws until a draw numbers a character: the character, or none when the supply ends first, and
the source after it. -/
def pick : (supply : Nat) → Generator → Option Char × Draws
  | 0, g => (none, ⟨0, g⟩)
  | supply + 1, g =>
    match character? g.next.1 with
    | some c => (some c, ⟨supply, g.next.2⟩)
    | none => pick supply g.next.2

/-- Draws some characters, in order; none if the supply ends before the last one. -/
def pickMany : (count : Nat) → Draws → Option (List Char) × Draws
  | 0, s => (some [], s)
  | count + 1, s =>
    match pick s.supply s.generator with
    | (none, s) => (none, s)
    | (some c, s) =>
      match pickMany count s with
      | (none, s) => (none, s)
      | (some cs, s) => (some (c :: cs), s)

/-- A new identifier, and the source after it. -/
def generate (s : Draws) : Option Text × Draws :=
  let (cs, s) := pickMany length s
  (cs.map Text.ofChars, s)

end ApiKeys.KeyId
