import ApiKeys.Key.Basic
import ApiKeys.Rejection
import ApiKeys.Time.Rfc3339

/-!
# Wire shape of a record

A record is written as an object whose members come in a fixed order. The description is left out
when there is none, the expiration is written as null; instants are written in RFC 3339. Only a
record whose instants have dates has a wire shape.
-/

namespace ApiKeys

/-- The name of each part of a record on the wire. -/
inductive WireName where
  | description
  | id
  | actions
  | indexes
  | expiresAt
  | createdAt
  | updatedAt
  deriving DecidableEq

/-- The spelling of a name on the wire. -/
def WireName.text : WireName → String
  | description => "description"
  | id => "id"
  | actions => "actions"
  | indexes => "indexes"
  | expiresAt => "expiresAt"
  | createdAt => "createdAt"
  | updatedAt => "updatedAt"

/-- A member of a wire shape. -/
def WireName.is (n : WireName) (v : Value) : Value × Value := (n.text, v)

/-- An instant as a value on the wire. -/
def Instant.wire? (t : Instant) : Option Value :=
  t.rfc3339?.map fun s => .text (Text.ofChars s)

namespace Key

/-- The expiration as a value on the wire. -/
def expiresAtWire? (k : Key) : Option Value :=
  match k.expiresAt with
  | none => some .null
  | some e => e.wire?

/-- The members of the wire shape of a record, in order. -/
def wire? (k : Key) : Option Members := do
  let expires ← k.expiresAtWire?
  let created ← k.createdAt.wire?
  let updated ← k.updatedAt.wire?
  return (k.description.map fun d => WireName.description.is (.text d)).toList ++ [
    WireName.id.is (.text k.id),
    WireName.actions.is (.list (k.actions.map fun a => .text a.wireName)),
    WireName.indexes.is (.list (k.indexes.map .text)),
    WireName.expiresAt.is expires,
    WireName.createdAt.is created,
    WireName.updatedAt.is updated]

end Key

end ApiKeys
