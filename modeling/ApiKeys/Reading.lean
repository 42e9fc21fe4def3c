import ApiKeys.Failure

/-!
# Reading several parts

Stored data and settings are read part by part. A part gives a value, or the issues that it has, or
a date that falls out of the calendar. `Reading.combine` puts parts together: the issues of all
parts are kept, in order, and one date out of range decides the outcome alone.
-/

namespace ApiKeys

/-- What reading a part gives. -/
inductive Reading (α : Type) where
  | value (a : α)
  | issues (is : List Issue)
  | outOfRange

namespace Reading

variable {α β : Type}

/-- A part that has one issue, at the given place. -/
def issue (kind : Issue.Kind) (place : List Issue.Step) : Reading α := issues [⟨kind, place⟩]

/-- The reading of two parts, the first of which says what becomes of the second. -/
def combine : Reading (α → β) → Reading α → Reading β
  | outOfRange, _ => outOfRange
  | _, outOfRange => outOfRange
  | value f, value a => value (f a)
  | value _, issues is => issues is
  | issues is, value _ => issues is
  | issues is, issues js => issues (is ++ js)

/-- The same reading with its value changed. -/
def map (f : α → β) (r : Reading α) : Reading β := combine (value f) r

/-- The readings of the items of a list, as the reading of a list. -/
def all : List (Reading α) → Reading (List α)
  | [] => value []
  | r :: rs => combine (r.map List.cons) (all rs)

/-- The outcome of a reading. -/
def toExcept : Reading α → Except Failure α
  | value a => .ok a
  | issues is => .error (.malformed is)
  | outOfRange => .error .dateOutOfRange

end Reading

end ApiKeys
