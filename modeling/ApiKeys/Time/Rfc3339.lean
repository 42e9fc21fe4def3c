import ApiKeys.Text.Digits
import ApiKeys.Time.Instant

/-!
# Written timestamps

A face is written `YYYY-MM-DDTHH:MM:SS`, with a fraction of exactly six digits when, and only when,
it is not zero. An instant is written as its face in UTC with the suffix `Z`, a zoned time with its
offset.
-/

namespace ApiKeys

/-- The fraction of a second, six digits, nothing for zero. -/
def fractionText (micro : Nat) : List Char :=
  if micro = 0 then [] else '.' :: Digits.fixed 6 micro

/-- A date as `YYYY-MM-DD`. -/
def Date.text (d : Date) : List Char :=
  Digits.fixed 4 d.year ++ '-' :: Digits.fixed 2 d.month ++ '-' :: Digits.fixed 2 d.day

/-- A face as `YYYY-MM-DDTHH:MM:SS`, with its fraction. -/
def Civil.text (c : Civil) : List Char :=
  c.date.text ++ 'T' :: Digits.fixed 2 c.hour ++ ':' :: Digits.fixed 2 c.minute ++
    ':' :: Digits.fixed 2 c.second ++ fractionText c.micro

/-- The RFC 3339 text of an instant that has a date, always in UTC. -/
def Instant.rfc3339 (t : Instant) : List Char :=
  (Civil.ofMicros t.micros.toNat).text ++ ['Z']

/-- The RFC 3339 text of an instant, where it has a date. -/
def Instant.rfc3339? (t : Instant) : Option (List Char) :=
  if t.Representable then some t.rfc3339 else none

/-- An offset from UTC as `+HH:MM` or `-HH:MM`, with seconds only when they are not zero. -/
def offsetText (offset : Int) : List Char :=
  let seconds := offset.natAbs
  (if offset < 0 then '-' else '+') :: Digits.fixed 2 (seconds / 3600) ++
    ':' :: Digits.fixed 2 (seconds / 60 % 60) ++
    if seconds % 60 = 0 then [] else ':' :: Digits.fixed 2 (seconds % 60)

/-- A zoned time as its face and its offset. -/
def Zoned.text (z : Zoned) : List Char :=
  (Civil.ofMicros z.wall).text ++ offsetText z.offset

end ApiKeys
