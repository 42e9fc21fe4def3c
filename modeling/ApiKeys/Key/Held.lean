import ApiKeys.Key.Part
import ApiKeys.Request.Builder
import ApiKeys.Value.Same
import ApiKeys.Value.Wire

/-!
# Records in use

A program that holds a record may assign what is in it by name, and what it assigns is not judged. A
held record is a record together with its strays: the parts that were given something they are not
meant to hold. In the record itself such a part is empty. A stray shows on the wire as far as it has
a form there; one in the place of a time has none, and one in the place of the last change makes the
next change fail after its fields have been applied. Parts may also be lost, when all of them are
replaced at once. Without any of this a held record behaves as the record does: `Held.change_ofKey`,
`Held.wire_ofKey`.
-/

namespace ApiKeys

/-- Something that a part is not meant to hold. -/
structure Stray where
  part : Part
  value : Value
  /-- The number of the assignment that gave it. Copies of a record keep it. -/
  origin : Nat

namespace Stray

/-- A stray on the wire. Only null can be written in the place of a time; the items of a list in the
place of a list are written on their own. -/
def wire (s : Stray) : Except Failure Value :=
  match s.part, s.value with
  | .expiresAt, v | .createdAt, v | .updatedAt, v =>
    match v with
    | .null => .ok .null
    | v => .error (.unwritable v.kind)
  | .actions, .list items | .indexes, .list items =>
    (Value.wireItems Value.depthLimit items).map .list
  | _, v => v.wire

/-- Two strays agree: they come from one assignment, or their values are the same. -/
def same (s t : Stray) : Bool := s.origin = t.origin || s.value.same t.value

end Stray

/-- What a record holds besides its parts, with the number of the assignment that gave it: none for
what it held from the start. -/
structure Inner where
  extra : Value × Nat
  secret : Value × Nat
  /-- The kind of what stands in the place of the set of parts that have been given. -/
  marks : Option String
  /-- The kind of what stands in the place of the way to copy the record. -/
  copier : Option String

namespace Inner

/-- What every record holds from the start. -/
def start : Inner := ⟨(.null, 0), (.null, 0), none, none⟩

/-- Two values that were given by assignments agree. A number that is none never does. -/
def agree (a b : Value × Nat) : Bool :=
  match a.1 with
  | .float .nan => false
  | v => a.2 = b.2 || v.same b.1

/-- Two records agree in what they hold besides their parts. -/
def same (a b : Inner) : Bool := agree a.secret b.secret && agree a.extra b.extra

end Inner

/-- A record and its strays. -/
structure Held where
  key : Key
  strays : List Stray
  /-- The parts that the record has, in order. -/
  parts : List Part
  inner : Inner

namespace Held

/-- A record without strays. -/
def ofKey (k : Key) : Held := ⟨k, [], Part.list, .start⟩

/-- The stray in the place of a part. -/
def stray? (r : Held) (p : Part) : Option Stray := r.strays.find? fun s => s.part = p

/-- The parts of the record once it has a part. -/
def partsWith (r : Held) (p : Part) : List Part :=
  if r.parts.contains p then r.parts else r.parts ++ [p]

/-- The record with one part replaced by what it is meant to hold. -/
def assign (r : Held) (a : Assignment) : Held :=
  ⟨r.key.assign a, r.strays.filter fun s => s.part ≠ a.part, r.partsWith a.part, r.inner⟩

/-- The record with anything in the place of a part, given by the assignment of a number. -/
def give (r : Held) (p : Part) (v : Value) (origin : Nat) : Held :=
  let others := r.strays.filter fun s => s.part ≠ p
  match p.put? r.key v with
  | some k => ⟨k, others, r.partsWith p, r.inner⟩
  | none => ⟨p.clear r.key, ⟨p, v, origin⟩ :: others, r.partsWith p, r.inner⟩

/-- The record with the parts that some members name, and no others. -/
def giveAll (r : Held) (ms : Members) (origin : Nat) : Held :=
  let emptied : Held := ⟨Part.list.foldl (fun k p => p.clear k) r.key, [], [], r.inner⟩
  ms.foldl
    (fun r (name, v) =>
      match Part.ofValue? name with
      | some p => r.give p v origin
      | none => r)
    emptied

/-- The record lacks a part. -/
def lacks (p : Part) : Failure := .attributeFault (.absent "Key" p.name)

/-- Noting that a part has been given fails where something else stands in the place of the notes.
-/
def markFault? (r : Held) : Option Failure :=
  r.inner.marks.map fun kind => .attributeFault (.absent kind "add")

/-- The record with something in it given a value by the assignment of a number, and the failure
that comes after that. -/
def set (r : Held) (target : Target) (v : Value) (origin : Nat) : Held × Option Failure :=
  match target with
  | .part p => (r.give p v origin, r.markFault?)
  | .parts =>
    match v with
    | .object ms => (r.giveAll ms origin, none)
    | _ => (r, none)
  | .extra => ({ r with inner := { r.inner with extra := (v, origin) } }, none)
  | .secret => ({ r with inner := { r.inner with secret := (v, origin) } }, none)
  | .marks =>
    let marks := match v with
      | .set _ => none
      | v => some v.kind
    ({ r with inner := { r.inner with marks } }, none)
  | .copier =>
    let copier := match v with
      | .null => none
      | v => some v.kind
    ({ r with inner := { r.inner with copier } }, none)
  | .nothing => (r, none)

/-- The fault that stops the record from being copied. -/
def copyFault? (r : Held) : Option Failure :=
  match r.inner.copier, r.inner.secret.1 with
  | some kind, _ => some (.attributeFault (.uncallable kind))
  | none, .null | none, .object _ => none
  | none, v => some (.attributeFault (.absent v.kind "items"))

/-- The record with some assignments made, up to the first that fails. -/
def assignAll (r : Held) : List Assignment → Held × Option Failure
  | [] => (r, none)
  | a :: as =>
    match r.markFault? with
    | some f => (r.assign a, some f)
    | none => assignAll (r.assign a) as

/-- The record with a change applied, and the failure that stops it. -/
def change (r : Held) (now : Zoned) (as : List Assignment) : Held × Option Failure :=
  match r.assignAll as with
  | (changed, some f) => (changed, some f)
  | (changed, none) =>
    match r.stray? .updatedAt with
    | some s => (changed, some (.incomparable ">" s.value.kind))
    | none =>
      if r.parts.contains .updatedAt then
        (changed.assign (.updatedAt (now.instant.later r.key.updatedAt)), r.markFault?)
      else (changed, some (lacks .updatedAt))

/-- The record is expired at an instant. -/
def isExpired (r : Held) (now : Instant) : Except Failure Bool :=
  match r.stray? .expiresAt with
  | some s => .error (.incomparable "<=" s.value.kind)
  | none =>
    if r.parts.contains .expiresAt then .ok (r.key.isExpired now) else .error (lacks .expiresAt)

/-- The identifier of the record, which is a text unless it was replaced by something else. -/
def id (r : Held) : Except Failure Value :=
  match r.stray? .id with
  | some s => .ok s.value
  | none => if r.parts.contains .id then .ok (.text r.key.id) else .error (lacks .id)

/-- The part of the identifier that may be shown. -/
def shownId (r : Held) : Except Failure Value := do (← r.id).front

/-! ## The wire shape -/

/-- A time that has a form on the wire, or the failure to write it. -/
def written (v : Option Value) : Except Failure Value :=
  match v with
  | some v => .ok v
  | none => .error .unwritableTime

/-- A part of the record on the wire, where nothing strays into its place. -/
def ownWire (k : Key) : Part → Except Failure Value
  | .description => .ok ((k.description.map .text).getD .null)
  | .id => .ok (.text k.id)
  | .actions => .ok (.list (k.actions.map fun a => .text a.wireName))
  | .indexes => .ok (.list (k.indexes.map .text))
  | .expiresAt => written k.expiresAtWire?
  | .createdAt => written k.createdAt.wire?
  | .updatedAt => written k.updatedAt.wire?

/-- A part of the record on the wire. -/
def partWire (r : Held) (p : Part) : Except Failure Value :=
  match r.stray? p with
  | some s => s.wire
  | none => ownWire r.key p

/-- The record has a description of some kind. -/
def isDescribed (r : Held) : Bool := r.key.description.isSome || (r.stray? .description).isSome

/-- The members of some parts of the record, in order, or the failure to write the first part that
cannot be written. -/
def wireOf (r : Held) : List Part → Except Failure Members
  | [] => .ok []
  | p :: ps => do
    let v ← r.partWire p
    let ms ← wireOf r ps
    return if p = .description ∧ !r.isDescribed then ms else p.wireName.is v :: ms

/-- The members of the wire shape of a record, in order. -/
def wire (r : Held) : Except Failure Members := do
  let ms ← r.wireOf r.parts
  if r.parts.contains .description then return ms else .error (lacks .description)

/-- Two records agree in a part. -/
def samePart (r s : Held) (p : Part) : Bool :=
  r.parts.contains p == s.parts.contains p &&
    match r.stray? p, s.stray? p with
    | none, none => true
    | some a, some b => a.same b
    | _, _ => false

/-- Two records agree. -/
def same (r s : Held) : Bool :=
  r.key = s.key && r.inner.same s.inner && Part.list.all (r.samePart s)

/-! ## Laws -/

theorem assign_ofKey (k : Key) (a : Assignment) : (ofKey k).assign a = ofKey (k.assign a) := by
  cases a <;> rfl

theorem assignAll_ofKey (k : Key) (as : List Assignment) :
    (ofKey k).assignAll as = (ofKey (k.assignAll as), none) := by
  induction as generalizing k with
  | nil => rfl
  | cons a as ih =>
    show ((ofKey k).assign a).assignAll as = _
    rw [assign_ofKey, ih]
    rfl

/-- **A change of a record without strays is the change of the record**, and nothing stops it. -/
theorem change_ofKey (k : Key) (now : Zoned) (as : List Assignment) :
    (ofKey k).change now as = (ofKey (k.change now as), none) := by
  simp only [change, assignAll_ofKey]
  rfl

theorem wire_ofKey (k : Key) :
    (ofKey k).wire = k.wire?.elim (.error .unwritableTime) .ok := by
  simp only [wire, wireOf, Part.list, partWire, ownWire, Key.wire?, ofKey]
  cases k.expiresAtWire? <;> cases k.createdAt.wire? <;> cases k.updatedAt.wire? <;>
    cases hd : k.description <;> simp [written, isDescribed, hd, stray?, bind, Except.bind,
      Option.bind, pure, Except.pure, Part.wireName]

end Held

end ApiKeys
