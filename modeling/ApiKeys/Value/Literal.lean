import ApiKeys.Text.Printable
import ApiKeys.Time.Rfc3339
import ApiKeys.Value.Json

/-!
# Literal text of a value

The text of values that JSON cannot hold. Strings and octets stand in single quotes, or in double
quotes when they hold a single quote and no double one; what is not printable is escaped by its
number, and all other characters stand for themselves. A time is the call that builds it. Each value
takes a level of the writer, a set with items one more.
`Value.display` is the text of a refused value in a message: JSON where there is one, the literal
where something has no JSON, and no text where JSON runs out of room.
-/

namespace ApiKeys.Value

/-- The quote for a literal: the single one unless only that one occurs. -/
def quoteFor (hasSingle hasDouble : Bool) : Char :=
  if hasSingle && !hasDouble then '"' else '\''

/-- One code point inside a string literal. -/
def literalEscape (quote : Char) (p : CodePoint) : List Char :=
  match p with
  | .char '\\' => ['\\', '\\']
  | .char '\n' => ['\\', 'n']
  | .char '\r' => ['\\', 'r']
  | .char '\t' => ['\\', 't']
  | .char c =>
    if c = quote then ['\\', c]
    else if p.printable then [c]
    else if c.toNat < 0x100 then '\\' :: 'x' :: Digits.hex 2 c.toNat
    else if c.toNat < 0x10000 then '\\' :: 'u' :: Digits.hex 4 c.toNat
    else '\\' :: 'U' :: Digits.hex 8 c.toNat
  | .surrogate i => '\\' :: 'u' :: Digits.hex 4 (0xD800 + i.val)

/-- A text as a string literal. -/
def literalString (t : Text) : List Char :=
  let quote := quoteFor (t.contains (.char '\'')) (t.contains (.char '"'))
  quote :: t.flatMap (literalEscape quote) ++ [quote]

/-- One octet inside a literal: only printable ASCII stands for itself. -/
def octetEscape (quote : Char) (b : UInt8) : List Char :=
  let c := Char.ofNat b.toNat
  if c = '\\' ∨ c = quote then ['\\', c]
  else if c = '\n' then ['\\', 'n']
  else if c = '\r' then ['\\', 'r']
  else if c = '\t' then ['\\', 't']
  else if 0x20 ≤ b.toNat ∧ b.toNat < 0x7f then [c]
  else '\\' :: 'x' :: Digits.hex 2 b.toNat

/-- A sequence of octets as a literal. -/
def literalBytes (octets : List UInt8) : List Char :=
  let quote := quoteFor (octets.contains 0x27) (octets.contains 0x22)
  'b' :: quote :: octets.flatMap (octetEscape quote) ++ [quote]

/-- The offset of a time: its days, if it is behind UTC, and its seconds. -/
def literalOffset (offset : Int) : List Char :=
  if offset < 0 then "days=-1, seconds=".toList ++ Digits.ofInt (86400 + offset)
  else "seconds=".toList ++ Digits.ofInt offset

/-- The zone of a time. -/
def literalZone (offset : Int) : List Char :=
  if offset = 0 then "datetime.timezone.utc".toList
  else "datetime.timezone(datetime.timedelta(".toList ++ literalOffset offset ++ "))".toList

/-- A time as the call that builds it, its seconds and millionths only as far as they are needed. -/
def literalTime (z : Zoned) : List Char :=
  let c := Civil.ofMicros z.wall
  let small := if c.micro ≠ 0 then [c.second, c.micro] else if c.second ≠ 0 then [c.second] else []
  let numbers := [c.date.year, c.date.month, c.date.day, c.hour, c.minute] ++ small
  "datetime.datetime(".toList ++ separated (numbers.map (Nat.toDigits 10)) ++ ", tzinfo=".toList ++
    literalZone z.offset ++ [')']

/-- How many levels are opened below a time. -/
def zoneLevels (z : Zoned) : Nat := if z.offset = 0 then 1 else 2

/-- There is no room for a value. -/
def literalFull : Unwritten := .nesting " while getting the repr of an object"

/-- What is written one level deeper: the items of a set are first put into a list. -/
def deeper {α : Type} (room : Nat) (write : (room : Nat) → Except Unwritten α) : Except Unwritten α :=
  match room with
  | 0 => .error literalFull
  | room + 1 => write room

/-- What stands behind the items of a tuple: a comma, where there is one item. -/
def lastComma (count : Nat) : List Char := if count = 1 then [','] else []

mutual

/-- The literal text of a value, with room for so many levels. -/
def literal : (room : Nat) → Value → Except Unwritten (List Char)
  | 0, _ => .error literalFull
  | _ + 1, .null => .ok "None".toList
  | _ + 1, .bool b => .ok (if b then "True".toList else "False".toList)
  | _ + 1, .int i => numeral i
  | _ + 1, .float x => .ok (x.text "nan".toList "inf".toList)
  | _ + 1, .text t => .ok (literalString t)
  | _ + 1, .bytes octets => .ok (literalBytes octets)
  | room + 1, .list items => (literalItems room items).map fun ts => '[' :: separated ts ++ [']']
  | room + 1, .tuple items =>
    (literalItems room items).map fun ts => '(' :: separated ts ++ lastComma ts.length ++ [')']
  | room + 1, .set items =>
    if items.isEmpty then .ok "set()".toList
    else (deeper room (literalItems · items)).map fun ts => '{' :: separated ts ++ ['}']
  | room + 1, .frozenSet items =>
    if items.isEmpty then .ok "frozenset()".toList
    else (deeper room (literalItems · items)).map fun ts =>
      "frozenset(\x7b".toList ++ separated ts ++ ['}', ')']
  | room + 1, .object members =>
    (literalMembers room members).map fun ts => '{' :: separated ts ++ ['}']
  | room + 1, .time z => if room < zoneLevels z then .error literalFull else .ok (literalTime z)

/-- The literal texts of some values. -/
def literalItems (room : Nat) : List Value → Except Unwritten (List (List Char))
  | [] => .ok []
  | v :: vs => do
    let t ← literal room v
    let ts ← literalItems room vs
    return t :: ts

/-- The literal texts of the members of an object. -/
def literalMembers (room : Nat) : List (Value × Value) → Except Unwritten (List (List Char))
  | [] => .ok []
  | (name, v) :: ms => do
    let name ← literal room name
    let t ← literal room v
    let ts ← literalMembers room ms
    return (name ++ ':' :: ' ' :: t) :: ts

end

/-- The text of a refused value in a message. -/
def display (room : Room) (v : Value) : Except Unwritten (List Char) :=
  match json room.json v with
  | .ok t => .ok t
  | .error (.unwritten (.nesting doing)) => .error (.nesting doing)
  | .error (.unwritten .digits) | .error .foreign => literal room.literal v

/-- The text of a value that takes part in a sentence: a text stands for itself, and a time for its
face and its offset, with a blank between date and time of day. -/
def plain (room : Nat) : Value → Except Unwritten Text
  | .text t => .ok t
  | .time z => .ok (Text.ofChars (z.text.map fun c => if c = 'T' then ' ' else c))
  | v => (literal room v).map Text.ofChars

end ApiKeys.Value
