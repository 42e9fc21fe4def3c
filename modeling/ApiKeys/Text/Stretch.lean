/-!
# Stretches of characters

Tables of characters are written as stretches: a gap without characters, a run of characters one
after the other, or the characters themselves.
-/

namespace ApiKeys

/-- A stretch of a table of characters. -/
inductive Stretch where
  /-- Places without a character. -/
  | gap (count : Nat)
  /-- The characters from the first one on. -/
  | run (first count : Nat)
  /-- The characters of a string. -/
  | chars (s : String)
  deriving DecidableEq

namespace Stretch

/-- The characters in the places of a stretch. -/
def chars? : Stretch → List (Option Char)
  | gap count => List.replicate count none
  | run first count => (List.range count).map fun i => some (Char.ofNat (first + i))
  | chars s => s.toList.map some

/-- The texts in the places of stretches, which are empty where there is no character. -/
def texts (stretches : List Stretch) : Array (List Char) :=
  ((stretches.flatMap chars?).map Option.toList).toArray

end Stretch

end ApiKeys
