import ApiKeys.Failure
import ApiKeys.Time.Instant

/-!
# Clocks

The source of the current time. A clock either shows a time that moves on by a fixed step at each
reading, or gives out prepared readings until there are no more. A reading that fails leaves the
clock as it was.
-/

namespace ApiKeys

/-- A source of the current time. -/
inductive Clock where
  /-- Shows a time, and moves by some microseconds after each reading. -/
  | stepping (now : Zoned) (step : Int)
  /-- Gives out prepared readings in order. -/
  | scripted (readings : List Zoned)
  deriving DecidableEq

namespace Clock

/-- The current time, and the clock after the reading. -/
def read : Clock → Except Failure Zoned × Clock
  | stepping now step =>
    match now.move? step with
    | some next => (.ok now, stepping next step)
    | none => (.error .dateOutOfRange, stepping now step)
  | scripted [] => (.error .clockExhausted, scripted [])
  | scripted (now :: rest) => (.ok now, scripted rest)

/-- Moves the time that a clock shows; prepared readings stay as they are. -/
def advance (micros : Int) : Clock → Except Failure Unit × Clock
  | stepping now step =>
    match now.move? micros with
    | some next => (.ok (), stepping next step)
    | none => (.error .dateOutOfRange, stepping now step)
  | scripted readings => (.ok (), scripted readings)

end Clock

end ApiKeys
