import ApiKeys.Key.StoredTime
import ApiKeys.Key.Wire
import ApiKeys.KeyId
import ApiKeys.Value.Lenient

/-!
# Stored records

A record is rebuilt from an object part by part, in the order of the wire shape. Each part is found
under its wire name, or else under the name of the record's own part; unknown members are ignored.
The parts are judged on their own, and the issues of all of them are listed. Whether the key has
expired is not asked.
-/

namespace ApiKeys

/-- The name of a part of a record. -/
def WireName.recordName : WireName → String
  | .description => "description"
  | .id => "id"
  | .actions => "actions"
  | .indexes => "indexes"
  | .expiresAt => "expires_at"
  | .createdAt => "created_at"
  | .updatedAt => "updated_at"

/-- The member that holds a part: its name and its value. -/
def Members.part? (ms : Members) (n : WireName) : Option (Text × Value) :=
  match ms.get? n.text with
  | some v => some (n.text, v)
  | none => (ms.get? n.recordName).map fun v => (n.recordName, v)

namespace Stored

/-- The outcome of a check as a reading at the given place. -/
def readingAt {α : Type} (place : List Issue.Step) : Except Issue.Kind α → Reading α
  | .ok a => .value a
  | .error kind => .issue kind place

/-- The reading of a part that must be there. -/
def required {α : Type} (ms : Members) (n : WireName)
    (read : List Issue.Step → Value → Reading α) : Reading α :=
  match ms.part? n with
  | some (name, v) => read [.member name] v
  | none => .issue .missing [.member n.text]

/-- The reading of a part that may be absent or null. -/
def optional {α : Type} (ms : Members) (n : WireName)
    (read : List Issue.Step → Value → Reading α) : Reading (Option α) :=
  match ms.part? n with
  | none => .value none
  | some (_, .null) => .value none
  | some (name, v) => (read [.member name] v).map some

/-- Judges a text as an identifier: its characters, its length, its alphabet. -/
def checkId (t : Text) : Except Issue.Kind Text :=
  if t.chars?.isNone then .error .stringUnicode
  else if t.length < KeyId.length then .error .stringTooShort
  else if KeyId.length < t.length then .error .stringTooLong
  else if KeyId.Valid t then .ok t
  else .error .valueError

/-- Judges a value as an identifier. -/
def idOf (v : Value) : Except Issue.Kind Text :=
  match v.asText with
  | .ok t => checkId t
  | .error kind => .error kind

/-- Judges a value as the name of an action. -/
def actionOf (v : Value) : Except Issue.Kind Action :=
  match v.asText with
  | .ok t =>
    match Action.ofText? t with
    | some a => .ok a
    | none => .error (if t.chars?.isNone then .stringUnicode else .enum)
  | .error _ => .error .enum

/-- The reading of a value as a list, each item at its own place. -/
def listOf {α : Type} (item : Value → Except Issue.Kind α) (place : List Issue.Step) (v : Value) :
    Reading (List α) :=
  match v.asList with
  | .error kind => .issue kind place
  | .ok items =>
    .all (items.zipIdx.map fun (item', i) => readingAt (place ++ [.index i]) (item item'))

/-- The reading of the members of an object as a record. -/
def record (ms : Members) : Reading Key :=
  (optional ms .description fun place v => readingAt place v.asText).map Key.mk
    |>.combine (required ms .id fun place v => readingAt place (idOf v))
    |>.combine (required ms .actions (listOf actionOf))
    |>.combine (required ms .indexes (listOf Value.asText))
    |>.combine (optional ms .expiresAt StoredTime.reading)
    |>.combine (required ms .createdAt StoredTime.reading)
    |>.combine (required ms .updatedAt StoredTime.reading)

/-- The reading of a value as a record. -/
def reading : Value → Reading Key
  | .object ms => record ms
  | _ => .issue .modelType []

end Stored

/-- The record that stored data describes. -/
def Key.ofStored (data : Value) : Except Failure Key := (Stored.reading data).toExcept

end ApiKeys
