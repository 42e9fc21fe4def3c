import ApiKeys.Time.Grammar

/-!
# Formats of an expiration

The four ways to write when a key expires. Reading goes in two stages: `ExpirationFormat.spelling?`
recognises the shape of the whole text, and `ExpirationFormat.zoned?` checks the numbers against the
calendar and the clock. A text that names no offset is in UTC. In the first format a second 60 may
follow minute 59; it stands for the last microsecond of that minute.
-/

namespace ApiKeys

/-- A format in which an expiration may be written. -/
inductive ExpirationFormat where
  /-- `2025-01-02T15:04:05.25+01:00`: a date-time with an offset. -/
  | rfc3339
  /-- `2025-01-02T15:04:05` -/
  | dateTimeT
  /-- `2025-01-02 15:04:05` -/
  | dateTimeSpace
  /-- `2025-01-02`: the start of that day. -/
  | date
  deriving DecidableEq

/-- Second 60 of minute 59 as the last microsecond of that minute. -/
def Spelling.foldLeapSecond (p : Spelling) : Spelling :=
  if p.minute = 59 ∧ p.second = 60 then
    { p with second := 59, fraction := List.replicate 6 '9' }
  else p

namespace Grammar

/-- Reads `HH:MM:SS`. -/
def timeOfDay? (s : List Char) : Option ((Nat × Nat × Nat) × List Char) := do
  let ((hour, minute), s) ← hourMinute? s
  let (second, s) ← colonSecond? s
  return ((hour, minute, second), s)

/-- Reads `Z`, `z`, or an offset `±HH:MM`, as minutes ahead of UTC. -/
def requiredOffset? : List Char → Option (Int × List Char)
  | [] => none
  | c :: s =>
    if c = 'Z' ∨ c = 'z' then some (0, s)
    else do
      let sign ← sign? c
      let ((hours, minutes), s) ← hourMinute? s
      return (sign * (60 * hours + minutes), s)

end Grammar

namespace ExpirationFormat

/-- The formats in the order in which they are tried. -/
def list : List ExpirationFormat := [rfc3339, dateTimeT, dateTimeSpace, date]

/-- The name of a format. -/
def name : ExpirationFormat → String
  | rfc3339 => "rfc3339"
  | dateTimeT => "datetime_t"
  | dateTimeSpace => "datetime_space"
  | date => "date"

open Grammar

/-- Reads a date and a time of day with the given mark between them, to the end of the text. -/
def faceWith? (mark : Char) (s : List Char) : Option Spelling := do
  let (day, s) ← date? s
  let s ← Digits.mark? mark s
  let ((hour, minute, second), s) ← timeOfDay? s
  if s = [] then some ⟨day, hour, minute, second, [], 0⟩ else none

/-- Reads a date-time with an offset, to the end of the text. -/
def dateTimeOffset? (s : List Char) : Option Spelling := do
  let (day, s) ← date? s
  let s ← (Digits.mark? 'T' s).or (Digits.mark? 't' s)
  let ((hour, minute, second), s) ← timeOfDay? s
  let (fraction, s) ← fraction? ['.'] s
  let (offset, s) ← requiredOffset? s
  if s = [] then some ⟨day, hour, minute, second, fraction, offset⟩ else none

/-- Reads a date, to the end of the text. -/
def dateOnly? (s : List Char) : Option Spelling := do
  let (day, s) ← date? s
  if s = [] then some ⟨day, 0, 0, 0, [], 0⟩ else none

/-- What a text spells in a format, if it has its shape. -/
def spelling? : ExpirationFormat → List Char → Option Spelling
  | rfc3339, s => dateTimeOffset? s
  | dateTimeT, s => faceWith? 'T' s
  | dateTimeSpace, s => faceWith? ' ' s
  | date, s => dateOnly? s

/-- The time that numbers name in a format. -/
def meaning? : ExpirationFormat → Spelling → Option Zoned
  | rfc3339, p => p.foldLeapSecond.zoned?
  | _, p => p.zoned?

/-- The time that a text names in a format. -/
def zoned? (f : ExpirationFormat) (s : List Char) : Option Zoned :=
  (f.spelling? s).bind f.meaning?

end ExpirationFormat

/-- The time that a text names in the first of some formats in which it names one. -/
def readExpiration? (formats : List ExpirationFormat) (s : List Char) : Option Zoned :=
  formats.findSome? fun f => f.zoned? s

end ApiKeys
