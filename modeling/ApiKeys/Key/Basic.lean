import ApiKeys.Action
import ApiKeys.Time.Instant

/-!
# Key records

The record of an API key. Identifier and creation time are fixed when the record is built; every
other part is changed by assigning it (`Key.assign`), and no assignment touches those two
(`Key.id_assign`, `Key.createdAt_assign`).
-/

namespace ApiKeys

/-- The record of an API key. -/
structure Key where
  description : Option Text
  id : Text
  actions : List Action
  indexes : List Text
  /-- When the key expires; a key without this instant never does. -/
  expiresAt : Option Instant
  createdAt : Instant
  updatedAt : Instant
  deriving DecidableEq

/-- A part of a record together with the value that it is to have. -/
inductive Assignment where
  | description (d : Option Text)
  | actions (as : List Action)
  | indexes (is : List Text)
  | expiresAt (e : Option Instant)
  | updatedAt (t : Instant)
  deriving DecidableEq

namespace Key

/-- The record with one part replaced. -/
def assign (k : Key) : Assignment → Key
  | .description d => { k with description := d }
  | .actions as => { k with actions := as }
  | .indexes is => { k with indexes := is }
  | .expiresAt e => { k with expiresAt := e }
  | .updatedAt t => { k with updatedAt := t }

/-- The record with several parts replaced, one after the other. -/
def assignAll (k : Key) (as : List Assignment) : Key := as.foldl assign k

/-- A record that was built at an instant and grants nothing yet. -/
def blank (id : Text) (now : Instant) : Key where
  description := none
  id := id
  actions := []
  indexes := []
  expiresAt := none
  createdAt := now
  updatedAt := now

/-- A key is expired from the instant of its expiration on. -/
def isExpired (k : Key) (now : Instant) : Bool :=
  match k.expiresAt with
  | none => false
  | some e => e ≤ now

@[simp] theorem id_assign (k : Key) (a : Assignment) : (k.assign a).id = k.id := by
  cases a <;> rfl

@[simp] theorem createdAt_assign (k : Key) (a : Assignment) :
    (k.assign a).createdAt = k.createdAt := by
  cases a <;> rfl

@[simp] theorem id_assignAll (k : Key) (as : List Assignment) : (k.assignAll as).id = k.id := by
  induction as generalizing k with
  | nil => rfl
  | cons a as ih => simpa [assignAll] using ih (k.assign a)

@[simp] theorem createdAt_assignAll (k : Key) (as : List Assignment) :
    (k.assignAll as).createdAt = k.createdAt := by
  induction as generalizing k with
  | nil => rfl
  | cons a as ih => simpa [assignAll] using ih (k.assign a)

end Key

end ApiKeys
