import ApiKeys.Expiration.Format
import ApiKeys.Failure

/-!
# Checking an expiration

A key either never expires, which is written as null, or expires at an instant that a text names and
that lies strictly after the reference time. A time whose instant has no date in UTC is a failure of
its own, not a refusal.
-/

namespace ApiKeys

/-- The instant that a text names in one of the accepted formats. -/
def expirationInstant? (t : Text) : Except Failure (Option Instant) :=
  match t.chars?.bind (readExpiration? ExpirationFormat.list) with
  | none => .ok none
  | some z =>
    match z.utc? with
    | none => .error .dateOutOfRange
    | some e => .ok (some e)

/-- The expiration that a value stands for at the reference time `now`. -/
def checkExpiration (room : Room) (v : Value) (now : Instant) : Except Failure (Option Instant) :=
  match v with
  | .null => .ok none
  | .text t =>
    match expirationInstant? t with
    | .error f => .error f
    | .ok none => .error (Field.expiresAt.refusal room v)
    | .ok (some e) => if now < e then .ok (some e) else .error (Field.expiresAt.refusal room v)
  | _ => .error (Field.expiresAt.refusal room v)

end ApiKeys
