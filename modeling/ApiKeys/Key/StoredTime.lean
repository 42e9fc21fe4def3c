import ApiKeys.Reading
import ApiKeys.Time.Grammar
import ApiKeys.Time.Unix

/-!
# Stored timestamps

A stored timestamp is a time, a number of Unix time, or a text. A text is a date, perhaps with a
time of day after one of the marks `T`, `t`, blank and `_`, perhaps with seconds, a fraction and an
offset, whose sign may be the minus of typography; a text without an offset is in UTC. A text that
is no date may still be a numeral of Unix time: with a point it is a decimal, with or without digits
on either side and with or without a power of ten.
-/

namespace ApiKeys.StoredTime

open Grammar

/-- The sign that opens an offset; the minus may also be U+2212. -/
def offsetSign? (c : Char) : Option Int := if c = '\u2212' then some (-1) else sign? c

/-- Reads an optional offset: `Z`, `z`, `±HH:MM` or `±HHMM`; nothing stands for UTC. -/
def optionalOffset? : List Char → Option (Int × List Char)
  | [] => some (0, [])
  | c :: s =>
    if c = 'Z' ∨ c = 'z' then some (0, s)
    else do
      let sign ← offsetSign? c
      let (hours, s) ← Digits.take? 2 s
      let (minutes, s) ← Digits.take? 2 ((Digits.mark? ':' s).getD s)
      if minutes < 60 then some (sign * (60 * hours + minutes), s) else none

/-- Reads optional seconds with an optional fraction. -/
def optionalSecond? (s : List Char) : Option ((Nat × List Char) × List Char) :=
  match Digits.mark? ':' s with
  | none => some ((0, []), s)
  | some s => do
    let (second, s) ← Digits.take? 2 s
    let (fraction, s) ← fraction? ['.', ','] s
    return ((second, fraction), s)

/-- What a text spells as a date, with or without a time of day. -/
def spelling? (s : List Char) : Option Spelling := do
  let (date, s) ← date? s
  match s with
  | [] => some ⟨date, 0, 0, 0, [], 0⟩
  | mark :: s =>
    if mark ∈ ['T', 't', ' ', '_'] then do
      let ((hour, minute), s) ← hourMinute? s
      let ((second, fraction), s) ← optionalSecond? s
      let (offset, s) ← optionalOffset? s
      if s = [] then some ⟨date, hour, minute, second, fraction, offset⟩ else none
    else none

/-- The numbers name a time of year 0, whose calendar is that of year 400. -/
def inYearZero (p : Spelling) : Bool :=
  p.date.year = 0 && ({ p with date := { p.date with year := 400 } } : Spelling).zoned?.isSome

/-- The sign in front of a numeral, and what is left. -/
def numeralSign : List Char → Bool × List Char
  | '+' :: s => (false, s)
  | '-' :: s => (true, s)
  | s => (false, s)

/-- The power of ten at the end of a decimal: `e` or `E`, perhaps a sign, and digits; nothing stands
for zero. -/
def power? : List Char → Option Int
  | [] => some 0
  | c :: s =>
    if c = 'e' ∨ c = 'E' then
      let (negative, s) := numeralSign s
      let (digits, rest) := Digits.run s
      if digits = [] ∨ rest ≠ [] then none
      else
        let n : Int := Digits.value digits
        some (if negative then -n else n)
    else none

/-- The time that a numeral stands for: a whole number, or a decimal with a point and at least one
digit. -/
def numeral? (s : List Char) : Option UnixTime :=
  let (negative, s) := numeralSign s
  let (whole, rest) := Digits.run s
  match rest with
  | [] =>
    let n : Int := Digits.value whole
    if whole = [] then none else some (.ofInt (if negative then -n else n))
  | '.' :: rest =>
    let (fraction, rest) := Digits.run rest
    if whole ++ fraction = [] then none
    else
      (power? rest).map fun power =>
        .ofFloat negative
          (Binary64.ofDecimal (Digits.value (whole ++ fraction)) (power - fraction.length))
  | _ => none

/-- The time that a text stands for. -/
def ofChars (s : List Char) : Except Issue.Kind Zoned :=
  match spelling? s with
  | some p =>
    match p.zoned? with
    | some z => .ok z
    | none => .error (if inYearZero p then .dateTimeParsing else .dateTimeFromDateParsing)
  | none =>
    match numeral? s with
    | none => .error .dateTimeFromDateParsing
    | some t =>
      match t.zoned? with
      | some z => .ok z
      | none => .error (if t.inYearZero then .dateTimeParsing else .dateTimeFromDateParsing)

/-- The time that a number of Unix time stands for. -/
def ofUnix (t : UnixTime) : Except Issue.Kind Zoned :=
  match t.zoned? with
  | some z => .ok z
  | none => .error .dateTimeParsing

/-- The time that a value stands for. -/
def ofValue : Value → Except Issue.Kind Zoned
  | .int n => if Binary64.Beyond n.natAbs then .error .dateTimeType else ofUnix (.ofInt n)
  | .float (.finite negative digits exponent) =>
    ofUnix (.ofFloat negative (Binary64.ofDecimal digits exponent))
  | .float _ => .error .dateTimeParsing
  | .text t =>
    match t.chars? with
    | some s => ofChars s
    | none => .error .stringUnicode
  | .bytes octets =>
    match (Text.ofUtf8? octets).bind Text.chars? with
    | some s => ofChars s
    | none => .error .dateTimeFromDateParsing
  | .time t => .ok t
  | _ => .error .dateTimeType

/-- The reading of a value as an instant, at the given place. -/
def reading (place : List Issue.Step) (v : Value) : Reading Instant :=
  match ofValue v with
  | .error kind => .issue kind place
  | .ok z =>
    match z.utc? with
    | some t => .value t
    | none => .outOfRange

end ApiKeys.StoredTime
