import ApiKeys.Clock
import ApiKeys.KeyId
import ApiKeys.Request.Field
import ApiKeys.Settings.Basic

/-!
# Building and changing records

A record is built from a request at a reading of the clock, with an identifier from the source of
draws, and changed by further requests. Fields are judged in one order, and nothing is applied
unless all of them are good. The clock is read first and draws are taken last, so a request that is
refused has used one reading and no draw. The message of a refusal is written with the room that
the supplies leave.
-/

namespace ApiKeys

/-- What building a record draws on. -/
structure Supplies where
  clock : Clock
  draws : Draws
  room : Room

/-- A record that the library can make without a request. -/
inductive DefaultKey where
  /-- Every action on every index. -/
  | admin
  /-- Searching every index. -/
  | search
  deriving DecidableEq

/-- The parts of a default record. -/
def DefaultKey.parts (settings : Settings) : DefaultKey → List Assignment
  | admin => [.description (some settings.defaultAdminDescription), .actions [.all],
      .indexes ["*"], .expiresAt none]
  | search => [.description (some settings.defaultSearchDescription), .actions [.search],
      .indexes ["*"], .expiresAt none]

namespace Key

/-- A record with a new identifier and the given parts, built at a reading of the clock. -/
def build (now : Zoned) (parts : List Assignment) (draws : Draws) : Except Failure Key × Draws :=
  match KeyId.generate draws with
  | (none, draws) => (.error .drawsExhausted, draws)
  | (some id, draws) =>
    match now.utc? with
    | none => (.error .dateOutOfRange, draws)
    | some t => (.ok ((blank id t).assignAll parts), draws)

/-- A new record as a request describes it. -/
def create (body : Value) (s : Supplies) : Except Failure Key × Supplies :=
  match body with
  | .object ms =>
    match s.clock.read with
    | (.error f, clock) => (.error f, { s with clock })
    | (.ok now, clock) =>
      match Field.readAll s.room now.instant Field.absentFromCreation ms Field.list with
      | .error f => (.error f, { s with clock })
      | .ok parts =>
        let (k, draws) := build now parts s.draws
        (k, { s with clock, draws })
  | body => (.error (.notObject body.briefKind), s)

/-- A default record. -/
def createDefault (settings : Settings) (which : DefaultKey) (s : Supplies) :
    Except Failure Key × Supplies :=
  match s.clock.read with
  | (.error f, clock) => (.error f, { s with clock })
  | (.ok now, clock) =>
    let (k, draws) := build now (which.parts settings) s.draws
    (k, { s with clock, draws })

/-- What a request assigns to a record: its fields in order, at a reading of the clock. -/
def changes (room : Room) (body : Value) (clock : Clock) :
    Except Failure (Zoned × List Assignment) × Clock :=
  match body with
  | .object ms =>
    match clock.read with
    | (.error f, clock) => (.error f, clock)
    | (.ok now, clock) =>
      ((Field.readAll room now.instant Field.absentFromUpdate ms Field.list).map fun as =>
        (now, as), clock)
  | body => (.error (.notObject body.briefKind), clock)

/-- The record with a change applied; its time of change never goes back. -/
def change (k : Key) (now : Zoned) (as : List Assignment) : Key :=
  { k.assignAll as with updatedAt := now.instant.later k.updatedAt }

/-- The record as a request changes it. -/
def update (k : Key) (room : Room) (body : Value) (clock : Clock) : Except Failure Key × Clock :=
  let (c, clock) := changes room body clock
  (c.map fun (now, as) => k.change now as, clock)

end Key

end ApiKeys
