import ApiKeys.Text.Fault
import ApiKeys.Text.HostName.Table
import ApiKeys.Text.Lowercase
import ApiKeys.Text.Normal

/-!
# Prepared labels

Labels that differ in case or in form only are one label: `prepare` gives its prepared form. A label
may lack one, since some characters must not be in labels, and a label that is written from right to
left is so from its first character to its last.
-/

namespace ApiKeys.HostName

/-- The code point lies in one of some runs. -/
def isIn (runs : List (Nat × Nat)) (p : CodePoint) : Bool :=
  runs.any fun (first, last) => first ≤ p.toNat && p.toNat ≤ last

/-- The small form of a code point. -/
def smallForm (p : CodePoint) : Text :=
  let n := p.toNat
  match (Normal.singleForm? singleFoldings n).or (Normal.severalForm? severalFoldings n), p with
  | some cs, _ => Text.ofChars cs
  | none, .char c => Text.ofChars (if c = '\u03a3' then ['\u03c3'] else Lowercase.ofChar c)
  | none, p => [p]

/-- The small form of a code point, so that it stays the same in normal form. -/
def folded (p : CodePoint) : Text :=
  let small := smallForm p
  let form := Text.normal small
  let again := Text.normal (form.flatMap smallForm)
  if form = again then small else again

/-- Judges the direction that a text is written in. -/
def checkDirection (t : Text) : Except DecodingFault Unit :=
  if !t.any (isIn leftward) then .ok ()
  else if t.any (isIn rightward) then .error (.labelDirection 2)
  else if t.head?.any (isIn leftward) && t.getLast?.any (isIn leftward) then .ok ()
  else .error (.labelDirection 3)

/-- The prepared form of a label. -/
def prepare (t : Text) : Except DecodingFault Text := do
  let t := Text.normal ((t.filter fun p => !isIn dropped p).flatMap folded)
  match t.find? (isIn prohibited) with
  | some p => .error (.labelCharacter p)
  | none =>
    checkDirection t
    return t

end ApiKeys.HostName
