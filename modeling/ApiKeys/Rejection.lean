import ApiKeys.Value.Literal

/-!
# Rejections

The errors that are shown to the user of the keys. Each has a stable code, the field that it is
about, a message, and, where a value was refused, that value as it was given. An identifier never
appears in full: a message shows its first eight characters. A message is made when the rejection
is, so a rejection holds the text of what it shows, and a value without a text cannot be rejected
(`Rejection.refuse`). A text can always be: `Rejection.refuse_text`.
-/

namespace ApiKeys

/-- A field of a request, in the order in which requests are judged. -/
inductive Field where
  | description
  | actions
  | indexes
  | expiresAt
  deriving DecidableEq

namespace Field

/-- The fields in the order in which they are judged. -/
def list : List Field := [description, actions, indexes, expiresAt]

/-- The name of a field in requests and stored records. -/
def inputName : Field → String
  | description => "description"
  | actions => "actions"
  | indexes => "indexes"
  | expiresAt => "expiresAt"

/-- The name of a field as a part of a record. -/
def attributeName : Field → String
  | description => "description"
  | actions => "actions"
  | indexes => "indexes"
  | expiresAt => "expires_at"

/-- The field with the given name in requests. -/
def ofInputName? (t : Text) : Option Field :=
  list.find? fun f => (f.inputName : Text) = t

/-- What a value of the field should be. -/
def expectation : Field → String
  | description => "It should be a string or specified as a null value."
  | actions => "It should be an array of strings representing action names."
  | indexes => "It should be an array of strings representing index names."
  | expiresAt =>
    "It should follow the RFC 3339 format to represent a date or datetime in the future or be " ++
    "specified as a null value. e.g. 'YYYY-MM-DD' or 'YYYY-MM-DD HH:MM:SS'."

end Field

/-- Why a request is refused. -/
inductive Rejection where
  /-- An error with a message of its own, with or without the offending value. -/
  | general (message : Text) (value : Option Value)
  /-- A required field is absent. -/
  | missing (field : Value) (shown : Text)
  /-- A field has a value that it cannot take. -/
  | invalid (field : Field) (value : Value) (shown : Text)
  /-- A key is already stored under an identifier, of which a part is shown. -/
  | conflict (shown : Text)
  /-- No key is stored under an identifier, of which a part is shown. -/
  | notFound (shown : Text)

/-- The part of an identifier that may be shown. -/
def shownId (id : Text) : Text := id.take 8

namespace Rejection

/-- The stable code of a rejection. -/
def code : Rejection → String
  | general .. => "invalid_api_key"
  | missing .. => "missing_parameter"
  | invalid .description .. => "invalid_api_key_description"
  | invalid .actions .. => "invalid_api_key_actions"
  | invalid .indexes .. => "invalid_api_key_indexes"
  | invalid .expiresAt .. => "invalid_api_key_expires_at"
  | conflict _ => "api_key_already_exists"
  | notFound _ => "api_key_not_found"

/-- The field that a rejection is about. -/
def field? : Rejection → Option Value
  | general .. => none
  | missing .null _ => none
  | missing field _ => some field
  | invalid field .. => some (.text field.inputName)
  | conflict _ => some (.text "id")
  | notFound _ => some (.text "id")

/-- The value that was refused, if the rejection carries one. -/
def value? : Rejection → Option Value
  | general _ value => value
  | invalid _ value _ => some value
  | _ => none

/-- The text of a rejection. -/
def message : Rejection → Text
  | general message _ => message
  | missing _ shown => "`" ++ shown ++ "` field is mandatory."
  | invalid field _ shown =>
    ("`" : Text) ++ field.inputName ++ "` field value `" ++ shown ++ "` is invalid. " ++
      field.expectation
  | conflict shown => "An API key with id `" ++ shown ++ "...` already exists."
  | notFound shown => "API key `" ++ shown ++ "...` not found."

/-- The rejection of a request that lacks a field. -/
def absent (f : Field) : Rejection := .missing (.text f.inputName) f.inputName

/-- The rejection of a text for a field. -/
def ofText (f : Field) (t : Text) : Rejection :=
  .invalid f (.text t) (Text.ofChars (Value.jsonString t))

/-- The rejection of a value for a field, where the value has a text. -/
def refuse (room : Room) (f : Field) (v : Value) : Except Unwritten Rejection :=
  (v.display room).map fun shown => .invalid f v (Text.ofChars shown)

@[simp] theorem refuse_text (room : Room) (f : Field) (t : Text) :
    refuse room f (.text t) = .ok (ofText f t) := by
  simp [refuse, Value.display, Value.json, ofText, Except.map]

end Rejection

/-- A rejection as it is reported to the user. -/
structure Report where
  code : Text
  message : Text
  field? : Option Value
  value? : Option Value

/-- The report of a rejection. -/
def Rejection.report (r : Rejection) : Report :=
  ⟨r.code, r.message, r.field?, r.value?⟩

/-- A report as an object; it has no details when neither a field nor a value is known. -/
def Report.toValue (r : Report) : Value :=
  let details : Members :=
    (r.field?.map fun f => (("field" : Value), f)).toList ++
    (r.value?.map fun v => (("value" : Value), v)).toList
  .object [("error", .text r.code), ("message", .text r.message),
    ("details", if details.isEmpty then .null else .object details)]

end ApiKeys
