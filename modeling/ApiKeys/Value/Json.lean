import ApiKeys.Value.Unwritten

/-!
# JSON text of a value

Values are written in ASCII: a code point outside U+0020 to U+007E, a quote or a backslash is
escaped, above U+FFFF as a surrogate pair. Tuples are written as arrays. Sets, frozen sets, octets
and times have no JSON text, nor has an object with a name that is no text, number, truth value or
null, and neither has a value that holds one of them anywhere. Of several things that stop the
writer it meets one first: a value is written from its front to its end, a name before its value.
-/

namespace ApiKeys.Value

/-- The sixteen-bit unit `n` as `\uXXXX`. -/
def unitEscape (n : Nat) : List Char := '\\' :: 'u' :: Digits.hex 4 n

/-- One code point inside a JSON string. -/
def jsonEscape : CodePoint → List Char
  | .char '"' => ['\\', '"']
  | .char '\\' => ['\\', '\\']
  | .char '\n' => ['\\', 'n']
  | .char '\r' => ['\\', 'r']
  | .char '\t' => ['\\', 't']
  | .char '\x08' => ['\\', 'b']
  | .char '\x0c' => ['\\', 'f']
  | .char c =>
    if 0x20 ≤ c.toNat ∧ c.toNat ≤ 0x7e then [c]
    else if c.toNat < 0x10000 then unitEscape c.toNat
    else unitEscape (0xD800 + (c.toNat - 0x10000) / 0x400) ++
      unitEscape (0xDC00 + (c.toNat - 0x10000) % 0x400)
  | .surrogate i => unitEscape (0xD800 + i.val)

/-- A text as a JSON string. -/
def jsonString (t : Text) : List Char :=
  '"' :: t.flatMap jsonEscape ++ ['"']

/-- Written items with a comma and a blank between them. -/
def separated (items : List (List Char)) : List Char :=
  List.intercalate [',', ' '] items

/-- Why a value has no JSON text. -/
inductive JsonFault where
  /-- Something in it is of no kind that JSON has. -/
  | foreign
  | unwritten (u : Unwritten)
  deriving DecidableEq

/-- There is no room for a list or an object. -/
def jsonFull : JsonFault := .unwritten (.nesting " while encoding a JSON object")

/-- The numeral of a whole number in JSON. -/
def jsonNumeral (i : Int) : Except JsonFault (List Char) := (numeral i).mapError .unwritten

/-- A truth value in JSON. -/
def jsonBool (b : Bool) : List Char := if b then "true".toList else "false".toList

/-- A number in JSON, or one of the words for those that are none. -/
def jsonFloat (x : Floating) : List Char := x.text "NaN".toList "Infinity".toList

/-- A written scalar as a string. -/
def quoted (s : List Char) : List Char := '"' :: s ++ ['"']

/-- The name of a member of an object. -/
def jsonName : Value → Except JsonFault (List Char)
  | .text t => .ok (jsonString t)
  | .null => .ok (quoted "null".toList)
  | .bool b => .ok (quoted (jsonBool b))
  | .int i => (jsonNumeral i).map quoted
  | .float x => .ok (quoted (jsonFloat x))
  | _ => .error .foreign

/-- Something of no kind that JSON has. To report it takes two levels. -/
def jsonForeign (room : Nat) : JsonFault :=
  if room < 2 then .unwritten (.nesting "") else .foreign

mutual

/-- The JSON text of a value, with room for so many levels of lists and objects. -/
def json : (room : Nat) → Value → Except JsonFault (List Char)
  | _, .null => .ok "null".toList
  | _, .bool b => .ok (jsonBool b)
  | _, .int i => jsonNumeral i
  | _, .float x => .ok (jsonFloat x)
  | _, .text t => .ok (jsonString t)
  | 0, .list _ => .error jsonFull
  | 0, .tuple _ => .error jsonFull
  | 0, .object _ => .error jsonFull
  | room + 1, .list items => (jsonItems room items).map fun ts => '[' :: separated ts ++ [']']
  | room + 1, .tuple items => (jsonItems room items).map fun ts => '[' :: separated ts ++ [']']
  | room + 1, .object members =>
    (jsonMembers room members).map fun ts => '{' :: separated ts ++ ['}']
  | room, .bytes _ => .error (jsonForeign room)
  | room, .set _ => .error (jsonForeign room)
  | room, .frozenSet _ => .error (jsonForeign room)
  | room, .time _ => .error (jsonForeign room)

/-- The JSON texts of some values. -/
def jsonItems (room : Nat) : List Value → Except JsonFault (List (List Char))
  | [] => .ok []
  | v :: vs => do
    let t ← json room v
    let ts ← jsonItems room vs
    return t :: ts

/-- The JSON texts of the members of an object. -/
def jsonMembers (room : Nat) : List (Value × Value) → Except JsonFault (List (List Char))
  | [] => .ok []
  | (name, v) :: ms => do
    let name ← jsonName name
    let t ← json room v
    let ts ← jsonMembers room ms
    return (name ++ ':' :: ' ' :: t) :: ts

end

end ApiKeys.Value
