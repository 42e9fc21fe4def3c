import ApiKeys.Expiration.Check
import ApiKeys.Key.Basic

/-!
# Fields of a request

The strict reading of each field that a request may hold. A description is a text or null, actions
and indexes are arrays of names, an expiration is null or lies in the future. A value that a field
cannot take is refused whole, and the refusal carries it as it was given; what room there is to
write it down is known with the reference time.
-/

namespace ApiKeys

/-- The items of an array. -/
def Value.items? : Value → Option (List Value)
  | .list items | .tuple items => some items
  | _ => none

namespace Field

/-- The values that all items of an array stand for. -/
def eachOf? {α : Type} (item? : Value → Option α) : List Value → Option (List α)
  | [] => some []
  | v :: vs =>
    match item? v, eachOf? item? vs with
    | some a, some as => some (a :: as)
    | _, _ => none

/-- The description that a value stands for. -/
def descriptionOf? : Value → Option (Option Text)
  | .null => some none
  | .text t => some (some t)
  | _ => none

/-- The action that a value names, as a text or as octets. -/
def actionOf? : Value → Option Action
  | .text t => Action.ofText? t
  | .bytes octets => (Text.ofUtf8? octets).bind Action.ofText?
  | _ => none

/-- The index that a value names. -/
def indexOf? : Value → Option Text
  | .text t => some t
  | _ => none

/-- The actions that a value lists. -/
def actionsOf? (v : Value) : Option (List Action) := v.items?.bind (eachOf? actionOf?)

/-- The indexes that a value lists. -/
def indexesOf? (v : Value) : Option (List Text) := v.items?.bind (eachOf? indexOf?)

/-- A value that was read, or the refusal of what could not be read. -/
def accept (room : Room) (f : Field) (raw : Value) : Option Assignment → Except Failure Assignment
  | some a => .ok a
  | none => .error (f.refusal room raw)

/-- What a value of a field assigns at the reference time `now`. -/
def read (room : Room) (now : Instant) (f : Field) (raw : Value) : Except Failure Assignment :=
  match f with
  | description => accept room f raw ((descriptionOf? raw).map .description)
  | actions => accept room f raw ((actionsOf? raw).map .actions)
  | indexes => accept room f raw ((indexesOf? raw).map .indexes)
  | expiresAt => (checkExpiration room raw now).map .expiresAt

/-- The field that a value names. -/
def ofName? : Value → Option Field
  | .text t => ofInputName? t
  | _ => none

/-- What a value of the field with the given name assigns. -/
def readNamed (room : Room) (now : Instant) (name raw : Value) : Except Failure Assignment :=
  match ofName? name with
  | some f => read room now f raw
  | none =>
    .error (.showing (name.literal room.literal) fun s => .unknownField (Text.ofChars s))

/-- What happens when a field is absent from a request. -/
inductive Absence where
  /-- The field is passed over. -/
  | skip
  /-- The field counts as null. -/
  | null
  /-- The request is refused. -/
  | refuse
  deriving DecidableEq

/-- The value by which a field of a request is judged; none if the field is passed over. -/
def valueFor (absence : Field → Absence) (ms : Members) (f : Field) :
    Except Failure (Option Value) :=
  match ms.get? f.inputName, absence f with
  | some raw, _ => .ok (some raw)
  | none, .null => .ok (some .null)
  | none, .skip => .ok none
  | none, .refuse => .error (.rejected (.absent f))

/-- What the members of a request assign to some fields, in order, up to the first one that is
refused. -/
def readAll (room : Room) (now : Instant) (absence : Field → Absence) (ms : Members) :
    List Field → Except Failure (List Assignment)
  | [] => .ok []
  | f :: fs =>
    match valueFor absence ms f with
    | .error e => .error e
    | .ok none => readAll room now absence ms fs
    | .ok (some raw) =>
      match read room now f raw with
      | .error e => .error e
      | .ok a => (readAll room now absence ms fs).map (a :: ·)

/-- A new key needs all fields but the description. -/
def absentFromCreation : Field → Absence
  | description => .null
  | _ => .refuse

/-- A change needs no field. -/
def absentFromUpdate : Field → Absence := fun _ => .skip

end Field

end ApiKeys
