import ApiKeys.Number.Binary64
import ApiKeys.Time.Instant

/-!
# Unix time

A number stands for seconds since 1970, and above twenty thousand million in absolute value for
milliseconds. A time is kept to the microsecond: of a number that is not whole the part above its
floor is rounded, a half upwards.
-/

namespace ApiKeys

/-- Microseconds since 1970. -/
structure UnixTime where
  micros : Int
  deriving DecidableEq

namespace UnixTime

/-- Microseconds from the start of year 1 to the start of 1970. -/
def epoch : Int := 62135596800000000

/-- Above this number of seconds, in absolute value, a number counts milliseconds. -/
def watershed : Nat := 20000000000

/-- The microseconds in the unit that a number of absolute value `n / d` counts. -/
def unit (n d : Nat) : Nat := if n ≤ watershed * d then 1000000 else 1000

/-- The time that a whole number stands for. -/
def ofInt (n : Int) : UnixTime := ⟨n * unit n.natAbs 1⟩

/-- The time that a floating-point number stands for. The part above the floor and its product with
the unit are floating-point numbers again. -/
def ofFloat (negative : Bool) (x : Binary64.Number) : UnixTime :=
  let n := x.numerator
  let d := x.denominator
  let floor : Int := if negative then -((n + d - 1) / d : Nat) else (n / d : Nat)
  let above := Binary64.nearest (if negative then (d - n % d) % d else n % d) d
  let part := Binary64.nearest (above.numerator * unit n d) above.denominator
  ⟨floor * unit n d + Binary64.roundHalfUp part.numerator part.denominator⟩

/-- The microseconds since the start of year 1. -/
def sinceYearOne (t : UnixTime) : Int := epoch + t.micros

/-- The time in UTC, if it lies in the years 1 to 9999. -/
def zoned? (t : UnixTime) : Option Zoned :=
  if 0 ≤ t.sinceYearOne ∧ t.sinceYearOne < Civil.limit then some ⟨t.sinceYearOne.toNat, 0⟩
  else none

/-- The time lies in the year before year 1, a leap year. -/
def inYearZero (t : UnixTime) : Bool :=
  -(366 * 86400000000) ≤ t.sinceYearOne && t.sinceYearOne < 0

end UnixTime

end ApiKeys
