import ApiKeys.Event
import ApiKeys.Key.Held
import ApiKeys.Key.Stored
import ApiKeys.Settings.Host
import ApiKeys.Store

/-!
# Sessions

A session holds records, one store, a clock and a source of draws, the settings that its builder has
captured, and the variables of its host. `Session.step` is what one command does to it: the
answer, the events, and the session afterwards. Records are numbered in the order in which they come
up and are never given up, so a number names a record for the whole session, also while the store
holds it.
-/

namespace ApiKeys

/-- What may be asked of a session. -/
inductive Command where
  | create (body : Value)
  | update (key : Handle) (body : Value)
  | createDefault (which : DefaultKey)
  | restore (data : Value)
  | copy (key : Handle)
  /-- Gives something in a record, by its name, anything at all. -/
  | assign (key : Handle) (name value : Value)
  | insert (key : Handle)
  | replace (key : Handle)
  | get (id : Value)
  | delete (id : Value)
  | contains (id : Value)
  | size
  | list
  | seed
  | advance (micros : Int)
  | setVariable (name value : Value)
  | clearSettings
  /-- Captures settings anew: from arguments, or those of the host. -/
  | newBuilder (arguments : Option Settings.Arguments)

/-- What a session answers. -/
inductive Answer where
  | done
  | record (key : Handle)
  | found (key : Option Handle)
  | records (keys : List Handle)
  | flag (b : Bool)
  | count (n : Nat)
  /-- The session has no record of the number. -/
  | unknown
  deriving DecidableEq

/-- A session: its records by number, its store, and what they depend on. -/
structure Session where
  records : List Held
  store : Store
  supplies : Supplies
  builder : Settings
  host : Host
  /-- How many assignments by name there have been; the first one has the number one. -/
  assignments : Nat

/-- What a command leads to. -/
structure Outcome where
  answer : Except Failure Answer
  events : List Event
  session : Session

namespace Session

/-- The settings for a builder: from arguments, or those of the host. -/
def capture (arguments : Option Settings.Arguments) (host : Host) :
    Except Failure Settings × Host :=
  match arguments with
  | some ms => (Settings.load ⟨ms, host.environment, none⟩, host)
  | none =>
    let (settings, host) := host.settings
    (settings.map (·.1), host)

/-- A session without records. -/
def start (supplies : Supplies) (arguments : Option Settings.Arguments)
    (environment : Environment) : Except Failure Session :=
  let (settings, host) := capture arguments (.start environment)
  settings.map fun builder => ⟨[], .empty, supplies, builder, host, 0⟩

/-- When a record was built. -/
def createdAt (s : Session) (h : Handle) : Instant :=
  match s.records[h]? with
  | some r => r.key.createdAt
  | none => ⟨0⟩

/-- The records of the store from the oldest on. -/
def listed (s : Session) : List Handle := s.store.list s.createdAt

/-- The session with one more record. -/
def add (s : Session) (r : Held) : Session := { s with records := s.records ++ [r] }

/-- The outcome of a command that fails. -/
def fail (s : Session) (f : Failure) : Outcome := ⟨.error f, [], s⟩

/-- The outcome of a command that gives a record, new to the session if it succeeds. -/
def give (s : Session) (k : Except Failure Key) (events : Key → List Event) : Outcome :=
  match k with
  | .error f => s.fail f
  | .ok k => ⟨.ok (.record s.records.length), events k, s.add (.ofKey k)⟩

/-- The outcome of a command on a record. -/
def onRecord (s : Session) (h : Handle) (f : Held → Outcome) : Outcome :=
  match s.records[h]? with
  | some r => f r
  | none => ⟨.ok .unknown, [], s⟩

/-- The session with another record under a number. -/
def setRecord (s : Session) (h : Handle) (r : Held) : Session :=
  { s with records := s.records.set h r }

/-- The session with another clock. -/
def setClock (s : Session) (clock : Clock) : Session :=
  { s with supplies := { s.supplies with clock } }

/-- The outcome of looking a value up in the store. -/
def lookUp (s : Session) (id : Value) (answer : Option Handle → Answer) : Outcome :=
  match s.store.find id with
  | .error f => s.fail f
  | .ok found => ⟨.ok (answer found), [], s⟩

/-- Takes a record out of the store. An empty store is not searched. -/
def delete (s : Session) (id : Value) : Outcome :=
  if s.store.entries = [] then ⟨.ok (.flag false), [], s⟩
  else
    match id with
    | .text id =>
      ⟨.ok (.flag (s.store.contains id)), if s.store.contains id then [.deleted id] else [],
        { s with store := s.store.erase id }⟩
    | id => s.lookUp id fun found => .flag found.isSome

/-- The outcome of a command that tells about a record by its identifier. -/
def told (s : Session) (r : Held) (answer : Answer) (event : Text → Event) : Outcome :=
  match r.shownId with
  | .error f => s.fail f
  | .ok _ => ⟨.ok answer, [event r.key.id], s⟩

/-- Files a record in the store. One that has something else than a text for its identifier stays
outside, as the store is one of texts. -/
def insert (s : Session) (h : Handle) (r : Held) : Outcome :=
  match r.id with
  | .error f => s.fail f
  | .ok (.text id) =>
    match s.store.insert id h with
    | .error r => s.fail (.rejected r)
    | .ok store => ⟨.ok (.record h), [.stored id], { s with store }⟩
  | .ok id =>
    match s.store.find id with
    | .error f => s.fail f
    | .ok _ => s.fail (.unfiled id.kind)

/-- Files a record in the place of the one under its identifier. Under what is no text there is
none. -/
def replace (s : Session) (h : Handle) (r : Held) : Outcome :=
  match r.id with
  | .error f => s.fail f
  | .ok (.text id) =>
    match s.store.replace id h with
    | .error r => s.fail (.rejected r)
    | .ok store => ⟨.ok (.record h), [], { s with store }⟩
  | .ok id =>
    match s.store.find id, Rejection.shownPart s.supplies.room id with
    | .error f, _ | _, .error f => s.fail f
    | .ok _, .ok shown => s.fail (.rejected (.notFound shown))

/-- The outcome of giving something in a record a value. -/
def assign (s : Session) (h : Handle) (r : Held) (name value : Value) : Outcome :=
  match name with
  | .text name =>
    match Target.ofName name value with
    | .error f => s.fail f
    | .ok target =>
      let assignments := s.assignments + 1
      let (r, fault) := r.set target value assignments
      let s := { s.setRecord h r with assignments }
      match fault with
      | some f => s.fail f
      | none => ⟨.ok (.record h), [], s⟩
  | name => s.fail (.attributeFault (.notName name.kind))

/-- The outcome of an act of the host that asks for nothing. -/
def onHost (s : Session) (act : Host.Act) : Outcome :=
  let (done, host) := s.host.step act
  ⟨done.map fun _ => .done, [], { s with host }⟩

/-- Fills an empty store with the two default records, unless the builder's settings forbid it. Both
are built before the store is touched. -/
def seed (s : Session) : Outcome :=
  if s.builder.seedDefaultKeys = false ∨ s.store.entries ≠ [] then ⟨.ok (.records []), [], s⟩
  else
    match Key.createDefault s.builder .admin s.supplies with
    | (.error f, supplies) => { s with supplies }.fail f
    | (.ok admin, supplies) =>
      match Key.createDefault s.builder .search supplies with
      | (.error f, supplies) => { s with supplies }.fail f
      | (.ok search, supplies) =>
        let h := s.records.length
        ⟨.ok (.records [h, h + 1]), [.seeded 2],
          { s with
            records := s.records ++ [.ofKey admin, .ofKey search]
            store := (s.store.put admin.id h).put search.id (h + 1)
            supplies }⟩

/-- What one command does. -/
def step (s : Session) : Command → Outcome
  | .create body =>
    let (k, supplies) := Key.create body s.supplies
    { s with supplies }.give k fun k => [.created k.id k.actions k.indexes]
  | .update h body =>
    s.onRecord h fun r =>
      match Key.changes s.supplies.room body s.supplies.clock with
      | (.error f, clock) => (s.setClock clock).fail f
      | (.ok (now, as), clock) =>
        match r.change now as with
        | (r, some f) => ((s.setClock clock).setRecord h r).fail f
        | (r, none) =>
          ((s.setClock clock).setRecord h r).told r (.record h) fun id =>
            .updated id (as.filterMap Assignment.field?)
  | .createDefault which =>
    let (k, supplies) := Key.createDefault s.builder which s.supplies
    { s with supplies }.give k fun _ => []
  | .restore data => s.give (Key.ofStored data) fun _ => []
  | .copy h =>
    s.onRecord h fun r =>
      match r.copyFault? with
      | some f => s.fail f
      | none => ⟨.ok (.record s.records.length), [], s.add r⟩
  | .assign h name value => s.onRecord h fun r => s.assign h r name value
  | .insert h => s.onRecord h fun r => s.insert h r
  | .replace h => s.onRecord h fun r => s.replace h r
  | .get id => s.lookUp id .found
  | .delete id => s.delete id
  | .contains id => s.lookUp id fun found => .flag found.isSome
  | .size => ⟨.ok (.count s.store.size), [], s⟩
  | .list => ⟨.ok (.records s.listed), [], s⟩
  | .seed => s.seed
  | .advance micros =>
    let (moved, clock) := s.supplies.clock.advance micros
    ⟨moved.map fun _ => .done, [], s.setClock clock⟩
  | .setVariable name value => s.onHost (.set name value)
  | .clearSettings => s.onHost .clear
  | .newBuilder arguments =>
    match capture arguments s.host with
    | (.error f, host) => { s with host }.fail f
    | (.ok builder, host) => ⟨.ok .done, [], { s with builder, host }⟩

/-- The session after some commands. -/
def run (s : Session) (cs : List Command) : Session :=
  cs.foldl (fun s c => (s.step c).session) s

end Session

end ApiKeys
