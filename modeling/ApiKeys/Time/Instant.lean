import ApiKeys.Time.Calendar

/-!
# Instants and clock faces

An instant is a number of microseconds since the start of year 1 in UTC. A clock face is a date and
a time of day to the microsecond; `Civil.toMicros` counts the microseconds before it and
`Civil.ofMicros` reads the face off. On the faces that a clock shows the two undo each other:
`Civil.toMicros_ofMicros` and `Civil.ofMicros_toMicros`. A `Zoned` time is a face together with its
offset from UTC; the face always lies in the years 1 to 9999, the instant it stands for need not.
-/

namespace ApiKeys

/-- A point in time: the microseconds since the start of year 1, in UTC. -/
structure Instant where
  micros : Int
  deriving DecidableEq

namespace Instant

instance : LE Instant := ⟨fun a b => a.micros ≤ b.micros⟩
instance : LT Instant := ⟨fun a b => a.micros < b.micros⟩
instance (a b : Instant) : Decidable (a ≤ b) := inferInstanceAs (Decidable (a.micros ≤ b.micros))
instance (a b : Instant) : Decidable (a < b) := inferInstanceAs (Decidable (a.micros < b.micros))

/-- The later of two instants. -/
def later (a b : Instant) : Instant := if a ≤ b then b else a

end Instant

/-- A date and a time of day, perhaps none that a clock shows: see `Civil.Valid`. -/
structure Civil where
  date : Date
  hour : Nat
  minute : Nat
  second : Nat
  micro : Nat
  deriving DecidableEq

namespace Civil

/-- The date exists and the time of day is one that a clock shows. -/
def Valid (c : Civil) : Prop :=
  c.date.Valid ∧ c.hour < 24 ∧ c.minute < 60 ∧ c.second < 60 ∧ c.micro < 1000000

instance (c : Civil) : Decidable c.Valid := by unfold Valid; infer_instance

/-- The number of microseconds before a face, counted from the start of year 1. -/
def toMicros (c : Civil) : Nat :=
  (((c.date.dayNumber * 24 + c.hour) * 60 + c.minute) * 60 + c.second) * 1000000 + c.micro

/-- The face after a number of microseconds. -/
def ofMicros (n : Nat) : Civil where
  date := .ofDayNumber (n / 86400000000)
  hour := n / 3600000000 % 24
  minute := n / 60000000 % 60
  second := n / 1000000 % 60
  micro := n % 1000000

/-- The number of microseconds in the years 1 to 9999. -/
def limit : Nat := Date.dayCount * 86400000000

theorem toMicros_ofMicros (n : Nat) : (ofMicros n).toMicros = n := by
  simp only [toMicros, ofMicros, Date.dayNumber_ofDayNumber]
  omega

theorem ofMicros_toMicros {c : Civil} (h : c.Valid) : ofMicros c.toMicros = c := by
  obtain ⟨date, hour, minute, second, micro⟩ := c
  obtain ⟨hd, hh, hm, hs, hu⟩ := h
  simp only at hd hh hm hs hu
  have hday : toMicros ⟨date, hour, minute, second, micro⟩ / 86400000000 = date.dayNumber := by
    simp only [toMicros]
    omega
  rw [ofMicros, hday, Date.ofDayNumber_dayNumber hd]
  simp only [toMicros, mk.injEq, true_and]
  omega

theorem valid_ofMicros {n : Nat} : (ofMicros n).Valid ↔ n < limit := by
  simp only [Valid, ofMicros, Date.valid_ofDayNumber]
  unfold limit
  omega

end Civil

/-- The instant lies in the years 1 to 9999 of UTC, where it has a date. -/
def Instant.Representable (t : Instant) : Prop :=
  0 ≤ t.micros ∧ t.micros < Civil.limit

instance (t : Instant) : Decidable t.Representable := by
  unfold Instant.Representable; infer_instance

/-- A time on a clock that is `offset` seconds ahead of UTC; `wall` counts the microseconds of the
clock face from the start of year 1. -/
structure Zoned where
  wall : Nat
  offset : Int
  deriving DecidableEq

namespace Zoned

/-- The instant at which a clock shows this time. -/
def instant (z : Zoned) : Instant := ⟨z.wall - z.offset * 1000000⟩

/-- The instant, where it has a date in UTC. -/
def utc? (z : Zoned) : Option Instant :=
  if z.instant.Representable then some z.instant else none

/-- The time on the same clock after some microseconds, while the face stays in the years 1 to
9999. -/
def move? (z : Zoned) (micros : Int) : Option Zoned :=
  if 0 ≤ z.wall + micros ∧ z.wall + micros < Civil.limit then
    some { z with wall := (z.wall + micros).toNat }
  else none

end Zoned

end ApiKeys
