import ApiKeys.Failure
import ApiKeys.Text.Utf8
import ApiKeys.Time.Rfc3339

/-!
# Values on the wire

A value of any kind has a form on the wire, which holds only what JSON holds: every kind of sequence
is a list there, octets are the text that they encode, a time is its text, and a number that is
infinite or none is null. A value that is nested too deeply has no form, and neither have octets
that are no text and names that have no characters. The name of a member is a text there, whatever
kind of value it was, and members whose names become the same are merged.
-/

namespace ApiKeys

/-- A time on the wire: its face, and its offset without seconds, or `Z` where it shows UTC. -/
def Zoned.wire (z : Zoned) : List Char :=
  (Civil.ofMicros z.wall).text ++ if z.offset = 0 then ['Z'] else (offsetText z.offset).take 6

namespace Value

/-- How deeply values may be nested. -/
def depthLimit : Nat := 255

/-- A number on the wire. -/
def wireNumber : Floating → Value
  | .finite negative digits exponent => .float (.finite negative digits exponent)
  | _ => .null

/-- Octets on the wire. -/
def wireOctets (octets : List UInt8) : Except Failure Text :=
  match Text.ofUtf8 octets with
  | .ok t => .ok t
  | .error fault => .error (.undecodable fault)

/-- A text as a name on the wire. -/
def wireTextName (name : Text) : Except Failure Text :=
  match name.unencodable? fun _ => false with
  | none => .ok name
  | some fault => .error (.unencodable fault)

/-- A number as a name on the wire. -/
def wireNumberName (x : Floating) : List Char := x.text "None".toList "None".toList

mutual

/-- The name of a member on the wire: that of a tuple is made of those of its items. -/
def wireName : Value → Except Failure Text
  | .text name => wireTextName name
  | .null => .ok "None"
  | .bool b => .ok (Text.ofChars (jsonBool b))
  | .int i => ((numeral i).mapError .unwritten).map Text.ofChars
  | .float x => .ok (Text.ofChars (wireNumberName x))
  | .bytes octets => wireOctets octets
  | .time t => .ok (Text.ofChars t.wire)
  | .tuple items => (wireNames items).map (List.intercalate ("," : Text))
  | .list items => .error (.notName (Value.list items).kind)
  | .set items => .error (.notName (Value.set items).kind)
  | .frozenSet items => .error (.notName (Value.frozenSet items).kind)
  | .object members => .error (.notName (Value.object members).kind)

/-- The names of some values on the wire. -/
def wireNames : List Value → Except Failure (List Text)
  | [] => .ok []
  | v :: vs => do
    let name ← wireName v
    let names ← wireNames vs
    return name :: names

end

/-- A member in front of others. One of the same name among them gives it its value. -/
def consMember (name : Text) (v : Value) (ms : Members) : Members :=
  (name, (ms.get? name).getD v) :: ms.filter fun m => !m.1.isText name

mutual

/-- A value on the wire, with room for values nested so deeply. -/
def wireIn : (room : Nat) → Value → Except Failure Value
  | 0, _ => .error .tooDeep
  | _ + 1, .float x => .ok (wireNumber x)
  | _ + 1, .bytes octets => (wireOctets octets).map .text
  | room + 1, .list items => (wireItems room items).map .list
  | room + 1, .tuple items => (wireItems room items).map .list
  | room + 1, .set items => (wireItems room items).map .list
  | room + 1, .frozenSet items => (wireItems room items).map .list
  | room + 1, .object members => (wireMembers room members).map .object
  | _ + 1, .time t => .ok (.text (Text.ofChars t.wire))
  | _ + 1, v => .ok v

/-- Some values on the wire. -/
def wireItems (room : Nat) : List Value → Except Failure (List Value)
  | [] => .ok []
  | v :: vs =>
    match wireIn room v with
    | .error f => .error f
    | .ok v => (wireItems room vs).map (v :: ·)

/-- The members of an object on the wire. -/
def wireMembers (room : Nat) : List (Value × Value) → Except Failure (List (Value × Value))
  | [] => .ok []
  | (name, v) :: ms =>
    match wireName name with
    | .error f => .error f
    | .ok name =>
      match wireIn room v with
      | .error f => .error f
      | .ok v => (wireMembers room ms).map (consMember name v)

end

/-- A value on the wire. -/
def wire (v : Value) : Except Failure Value := wireIn depthLimit v

end Value

end ApiKeys
