import ApiKeys.Text.Stretch

/-!
# Planes of characters

A plane gives texts to pairs of octets, most of them of one character: a row and a column. Both the
octets that are rows and those that are columns come in runs, and the texts fill row after row.
-/

namespace ApiKeys

/-- Runs of octets, each from one to another. -/
abbrev OctetRuns := List (UInt8 × UInt8)

namespace OctetRuns

/-- The number of octets in runs. -/
def count : OctetRuns → Nat
  | [] => 0
  | (first, last) :: runs => last.toNat + 1 - first.toNat + count runs

/-- The place of an octet in runs. -/
def place? : OctetRuns → UInt8 → Option Nat
  | [], _ => none
  | (first, last) :: runs, b =>
    if first ≤ b ∧ b ≤ last then some (b.toNat - first.toNat)
    else (place? runs b).map (last.toNat + 1 - first.toNat + ·)

/-- An octet is in runs. -/
def has (runs : OctetRuns) (b : UInt8) : Bool := (runs.place? b).isSome

end OctetRuns

/-- A plane of characters. -/
structure Plane where
  rows : OctetRuns
  columns : OctetRuns
  /-- The texts in the places, an empty one where there is none. -/
  texts : Array (List Char)

namespace Plane

/-- A part of one row from a column on; the number of its first place has the row and the column as
its octets. -/
def part (first : Nat) (stretches : List Stretch) : Plane :=
  let row := UInt8.ofNat (first / 0x100)
  ⟨[(row, row)], [(UInt8.ofNat first, 0xff)], Stretch.texts stretches⟩

/-- The text of a pair of octets, which is empty if they have none. -/
def text (p : Plane) (row column : UInt8) : List Char :=
  match p.rows.place? row, p.columns.place? column with
  | some i, some j => p.texts.getD (i * p.columns.count + j) []
  | _, _ => []

/-- The text of a pair of octets in the first of some planes that has one. -/
def textIn : List Plane → (row column : UInt8) → List Char
  | [], _, _ => []
  | p :: planes, row, column =>
    match p.text row column with
    | [] => textIn planes row column
    | cs => cs

/-- The characters from one to another that are not among some texts. -/
def others (first last : Nat) (texts : Array (List Char)) : List Char :=
  let seen := texts.foldl
    (fun seen cs => cs.foldl (fun seen c => seen.setIfInBounds c.toNat true) seen)
    (Array.replicate (last + 1) false)
  (List.range (last + 1 - first)).filterMap fun i =>
    let n := first + i
    if seen.getD n false ∨ ¬ n.isValidChar then none else some (Char.ofNat n)

end Plane

end ApiKeys
