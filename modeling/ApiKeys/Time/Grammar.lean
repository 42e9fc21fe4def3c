import ApiKeys.Time.Rfc3339

/-!
# Parts of written timestamps

The readers of a date, a time of day and a fraction, which both timestamp grammars are put together
from. Each takes its part off the front of a text and gives what is left; none checks the calendar.
What the parts spell together is a `Spelling`, and `Spelling.zoned?` says which time it names, if
any.
-/

namespace ApiKeys

/-- The numbers that a text spells, before anything is known of the date and the time. -/
structure Spelling where
  date : Date
  hour : Nat
  minute : Nat
  second : Nat
  /-- The digits after the point. -/
  fraction : List Char
  /-- Minutes ahead of UTC. -/
  offset : Int
  deriving DecidableEq

namespace Spelling

/-- The time that the numbers name, if there is such a date, time of day and offset. -/
def zoned? (p : Spelling) : Option Zoned :=
  let face : Civil := ⟨p.date, p.hour, p.minute, p.second, Digits.millionths p.fraction⟩
  if face.Valid ∧ p.offset.natAbs < 24 * 60 then some ⟨face.toMicros, p.offset * 60⟩ else none

end Spelling

namespace Grammar

/-- Reads `YYYY-MM-DD`. -/
def date? (s : List Char) : Option (Date × List Char) := do
  let (year, s) ← Digits.take? 4 s
  let s ← Digits.mark? '-' s
  let (month, s) ← Digits.take? 2 s
  let s ← Digits.mark? '-' s
  let (day, s) ← Digits.take? 2 s
  return (⟨year, month, day⟩, s)

/-- Reads `HH:MM`. -/
def hourMinute? (s : List Char) : Option ((Nat × Nat) × List Char) := do
  let (hour, s) ← Digits.take? 2 s
  let s ← Digits.mark? ':' s
  let (minute, s) ← Digits.take? 2 s
  return ((hour, minute), s)

/-- Reads `:SS`. -/
def colonSecond? (s : List Char) : Option (Nat × List Char) := do
  let s ← Digits.mark? ':' s
  Digits.take? 2 s

/-- Reads a fraction that one of the given marks opens: at least one digit after it. A text in
which no mark comes next has the empty fraction. -/
def fraction? (marks : List Char) : List Char → Option (List Char × List Char)
  | [] => some ([], [])
  | c :: s =>
    if c ∈ marks then
      if (Digits.run s).1 = [] then none else some (Digits.run s)
    else some ([], c :: s)

/-- The sign that a plus or a minus stands for. -/
def sign? (c : Char) : Option Int :=
  if c = '+' then some 1 else if c = '-' then some (-1) else none

end Grammar

end ApiKeys
