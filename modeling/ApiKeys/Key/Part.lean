import ApiKeys.Failure
import ApiKeys.Key.Wire
import ApiKeys.Request.Field

/-!
# Parts by name

Assigning something of a record by its name. Two of its parts never change, the others can be
assigned. What is assigned is not judged: `Part.put?` tells whether a part is meant to hold it.
Names that start with an underscore stand for what a record holds besides its parts (`Target`); most
of them stand for nothing.
-/

namespace ApiKeys

/-- A part of a record. -/
inductive Part where
  | description
  | id
  | actions
  | indexes
  | expiresAt
  | createdAt
  | updatedAt
  deriving DecidableEq

/-- The part that an assignment replaces. -/
def Assignment.part : Assignment → Part
  | .description _ => .description
  | .actions _ => .actions
  | .indexes _ => .indexes
  | .expiresAt _ => .expiresAt
  | .updatedAt _ => .updatedAt

namespace Part

/-- The parts of a record, in order. -/
def list : List Part := [description, id, actions, indexes, expiresAt, createdAt, updatedAt]

/-- The name of a part. -/
def name : Part → String
  | description => "description"
  | id => "id"
  | actions => "actions"
  | indexes => "indexes"
  | expiresAt => "expires_at"
  | createdAt => "created_at"
  | updatedAt => "updated_at"

/-- The name of a part on the wire. -/
def wireName : Part → WireName
  | description => .description
  | id => .id
  | actions => .actions
  | indexes => .indexes
  | expiresAt => .expiresAt
  | createdAt => .createdAt
  | updatedAt => .updatedAt

/-- A part that never changes. -/
def isFrozen (p : Part) : Bool := p = id || p = createdAt

/-- The part with the given name. -/
def ofName? (t : Text) : Option Part := list.find? fun p => (p.name : Text) = t

/-- The part that a value names. -/
def ofValue? : Value → Option Part
  | .text t => ofName? t
  | _ => none

/-- The action that a value names as a text. -/
def actionOf? : Value → Option Action
  | .text t => Action.ofText? t
  | _ => none

/-- The record with a part replaced by a value that it is meant to hold. -/
def put? (k : Key) : Part → Value → Option Key
  | description, v => (Field.descriptionOf? v).map fun d => { k with description := d }
  | id, .text t => some { k with id := t }
  | actions, .list items =>
    (Field.eachOf? actionOf? items).map fun as => { k with actions := as }
  | indexes, .list items =>
    (Field.eachOf? Field.indexOf? items).map fun is => { k with indexes := is }
  | expiresAt, .null => some { k with expiresAt := none }
  | expiresAt, .time t => some { k with expiresAt := some t.instant }
  | createdAt, .time t => some { k with createdAt := t.instant }
  | updatedAt, .time t => some { k with updatedAt := t.instant }
  | _, _ => none

/-- The record with a part emptied. What cannot be empty stays, or falls back to the first time. -/
def clear (k : Key) : Part → Key
  | description => { k with description := none }
  | actions => { k with actions := [] }
  | indexes => { k with indexes := [] }
  | expiresAt => { k with expiresAt := none }
  | updatedAt => { k with updatedAt := k.createdAt }
  | id | createdAt => k

end Part

/-- What a name stands for in a record. -/
inductive Target where
  | part (p : Part)
  /-- All parts at once. -/
  | parts
  /-- Members beyond the parts. -/
  | extra
  /-- Members that are not shown. -/
  | secret
  /-- The set of parts that have been given. -/
  | marks
  /-- The way to copy the record. -/
  | copier
  | nothing

namespace Target

/-- The names of what a record tells about itself. -/
def readOnly : List String := ["model_extra", "model_fields_set", "__fields_set__"]

/-- The names of what holds for all records. -/
def shared : List String :=
  ["__class_vars__", "__private_attributes__", "__signature__", "__pydantic_complete__",
    "__pydantic_core_schema__", "__pydantic_custom_init__", "__pydantic_decorators__",
    "__pydantic_generic_metadata__", "__pydantic_parent_namespace__", "__pydantic_post_init__",
    "__pydantic_root_model__", "__pydantic_serializer__", "__pydantic_validator__",
    "__pydantic_fields__", "__pydantic_setattr_handlers__", "__pydantic_computed_fields__"]

/-- The name is among some. -/
def among (names : List String) (name : Text) : Bool := names.any fun n => (n : Text) = name

/-- What a name that starts with an underscore stands for, where it is given a value. -/
def ofInnerName (name : Text) (v : Value) : Except AttributeFault Target :=
  if name = ("__dict__" : Text) then
    match v with
    | .object _ => .ok .parts
    | v => .error (.notMembers v.kind)
  else if name = ("__class__" : Text) then .error (.notClass v.kind)
  else if name = ("__weakref__" : Text) then .error (.unwritable name)
  else if name = ("__pydantic_extra__" : Text) then .ok .extra
  else if name = ("__pydantic_private__" : Text) then .ok .secret
  else if name = ("__pydantic_fields_set__" : Text) then .ok .marks
  else if name = ("__deepcopy__" : Text) then .ok .copier
  else .ok .nothing

/-- What a name stands for, where it is given a value. -/
def ofName (name : Text) (v : Value) : Except Failure Target :=
  if among readOnly name then .error (.attributeFault (.readOnly name))
  else if among shared name then .error (.attributeFault (.shared name))
  else if name.head? = some (.char '_') then (ofInnerName name v).mapError .attributeFault
  else
    match Part.ofName? name with
    | none => .error (.attributeFault (.unknown name))
    | some p =>
      if p.isFrozen then .error (.malformed [⟨.frozenField, [.member name]⟩])
      else .ok (.part p)

end Target

end ApiKeys
