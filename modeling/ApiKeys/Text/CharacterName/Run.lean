/-!
# Runs of names

The names of characters that follow one another are written together, each as what it adds to the
name before it: a digit tells how many words of that it starts with, and the other words come after
the digit. A word ends with a blank or a hyphen.
-/

namespace ApiKeys.CharacterName

/-- The names of the characters from one on. A comma stands between names. -/
structure Run where
  first : Nat
  lines : List String
  deriving DecidableEq

/-- The first words of a name. -/
def firstWords : Nat → List Char → List Char
  | 0, _ => []
  | _, [] => []
  | n + 1, c :: cs => c :: firstWords (if c = ' ' ∨ c = '-' then n else n + 1) cs

/-- The number that a digit stands for; the letters in lower case are digits after nine. -/
def digitValue (c : Char) : Nat := if c.isDigit then c.toNat - 0x30 else c.toNat - 0x61 + 10

/-- The name that is written after another one. -/
def nameAfter (before : List Char) : List Char → List Char
  | [] => []
  | digit :: words => firstWords (digitValue digit) before ++ words

/-- The names of a run as they are written, each with its character. -/
def Run.entries (r : Run) : List (Nat × List Char) :=
  ((r.lines.flatMap fun line => line.splitOn ",").map String.toList).zipIdx.map fun (words, i) =>
    (r.first + i, words)

/-- The number of the character with a name, among names that are written after another one. -/
def findAfter? (name before : List Char) : List (Nat × List Char) → Option Nat
  | [] => none
  | (n, words) :: entries =>
    let spelled := nameAfter before words
    if spelled = name then some n else findAfter? name spelled entries

end ApiKeys.CharacterName
