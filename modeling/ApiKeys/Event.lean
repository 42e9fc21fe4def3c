import ApiKeys.Key.Basic
import ApiKeys.Rejection

/-!
# Events

What the library reports about its work. Of an identifier an event shows no more than the first
eight characters.
-/

namespace ApiKeys

/-- Something that happened to records. -/
inductive Event where
  | created (id : Text) (actions : List Action) (indexes : List Text)
  | updated (id : Text) (fields : List Field)
  | stored (id : Text)
  | deleted (id : Text)
  | seeded (count : Nat)

/-- The field that an assignment changes, if it is one of a request. -/
def Assignment.field? : Assignment → Option Field
  | .description _ => some .description
  | .actions _ => some .actions
  | .indexes _ => some .indexes
  | .expiresAt _ => some .expiresAt
  | .updatedAt _ => none

namespace Event

/-- What happened, in words. -/
def message : Event → String
  | created .. => "API key created"
  | updated .. => "API key updated"
  | stored _ => "API key stored"
  | deleted _ => "API key deleted"
  | seeded _ => "Default API keys created"

/-- The fields of a record in the alphabetical order of their names in a record. -/
def fieldsByName : List Field := [.actions, .description, .expiresAt, .indexes]

/-- The shown part of an identifier, as a member. -/
def shownIdMember (id : Text) : Value × Value := ("api_key_id", .text (shownId id))

/-- What is known about an event, beside its words. -/
def extra : Event → Members
  | created id actions indexes =>
    [shownIdMember id, ("actions", .list (actions.map fun a => .text a.wireName)),
      ("indexes", .list (indexes.map .text))]
  | updated id fields =>
    [shownIdMember id, ("fields", .list ((fieldsByName.filter fun f => f ∈ fields).map fun f =>
      .text f.attributeName))]
  | stored id => [shownIdMember id]
  | deleted id => [shownIdMember id]
  | seeded count => [("count", .int count)]

end Event

end ApiKeys
