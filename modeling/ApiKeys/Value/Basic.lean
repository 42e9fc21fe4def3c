import ApiKeys.Text.Digits
import ApiKeys.Text.Basic
import ApiKeys.Time.Instant

/-!
# Untyped values

What a caller hands in before anything is known about it: the values of JSON, where the members of
an object keep their order, and the kinds of value that a program has beside them: octets, tuples,
sets and times. The names of members are values as well, of any kind; only texts are looked up
(`Members.get?`). A floating-point number is held as the shortest decimal that names it, with no
zero at the end of its digits (`Floating.ofDecimal`), so that it is whole exactly when its exponent
is not negative.
-/

namespace ApiKeys

/-- A floating-point number: `digits * 10 ^ exponent` with its sign, an infinity, or none at all. -/
inductive Floating where
  | nan
  | infinite (negative : Bool)
  | finite (negative : Bool) (digits : Nat) (exponent : Int)
  deriving DecidableEq

namespace Floating

/-- The number `digits * 10 ^ exponent`, with no zero at the end of its digits. -/
def ofDecimal (negative : Bool) (digits : Nat) (exponent : Int) : Floating :=
  if digits = 0 then finite negative 0 0
  else if digits % 10 = 0 then ofDecimal negative (digits / 10) (exponent + 1)
  else finite negative digits exponent
termination_by digits
decreasing_by omega

/-- The text of a decimal: positional while its leading digit stands for at least `10 ^ (-4)` and
less than `10 ^ 16`, and otherwise with an exponent of at least two digits. -/
def decimalText (digits : Nat) (exponent : Int) : List Char :=
  let ds := Nat.toDigits 10 digits
  let point : Int := ds.length + exponent
  if -4 < point ∧ point ≤ 16 then
    if point ≤ 0 then
      '0' :: '.' :: List.replicate (-point).toNat '0' ++ ds
    else if point < ds.length then
      ds.take point.toNat ++ '.' :: ds.drop point.toNat
    else
      ds ++ List.replicate (point - ds.length).toNat '0' ++ ['.', '0']
  else
    let e := point - 1
    let fraction := if ds.length ≤ 1 then [] else '.' :: ds.drop 1
    let power := Nat.toDigits 10 e.natAbs
    let power := if power.length < 2 then '0' :: power else power
    ds.take 1 ++ fraction ++ 'e' :: (if e < 0 then '-' else '+') :: power

/-- The text of a number, with the given words for the three that have no decimal. -/
def text (nan infinity : List Char) : Floating → List Char
  | .nan => nan
  | .infinite negative => (if negative then ['-'] else []) ++ infinity
  | .finite negative digits exponent =>
    (if negative then ['-'] else []) ++ decimalText digits exponent

end Floating

/-- A value of any kind. -/
inductive Value where
  | null
  | bool (b : Bool)
  | int (i : Int)
  | float (x : Floating)
  | text (t : Text)
  | bytes (octets : List UInt8)
  | list (items : List Value)
  | tuple (items : List Value)
  | set (items : List Value)
  | frozenSet (items : List Value)
  | object (members : List (Value × Value))
  | time (t : Zoned)
  deriving Inhabited

instance : Coe Text Value := ⟨.text⟩

namespace Value

/-- The full word for the kind of a value. -/
def kind : Value → String
  | null => "NoneType"
  | bool _ => "bool"
  | int _ => "int"
  | float _ => "float"
  | text _ => "str"
  | bytes _ => "bytes"
  | list _ => "list"
  | tuple _ => "tuple"
  | set _ => "set"
  | frozenSet _ => "frozenset"
  | object _ => "dict"
  | time _ => "datetime.datetime"

/-- The word for the kind of a value, without that for what the kind belongs to. -/
def briefKind : Value → String
  | time _ => "datetime"
  | v => v.kind

/-- The value is the text. -/
def isText (t : Text) : Value → Bool
  | text u => u = t
  | _ => false

/-- A value counts as a yes unless it is empty, zero or null. -/
def truth : Value → Bool
  | null => false
  | bool b => b
  | int i => i ≠ 0
  | float (.finite _ 0 _) => false
  | float _ => true
  | text t => !t.isEmpty
  | bytes octets => !octets.isEmpty
  | list items | tuple items | set items | frozenSet items => !items.isEmpty
  | object members => !members.isEmpty
  | time _ => true

/-- The parts of a value that has parts, in order. -/
def parts? : Value → Option (List Value)
  | text t => some (t.map fun p => text [p])
  | bytes octets => some (octets.map fun b => int b.toNat)
  | list items | tuple items | set items | frozenSet items => some items
  | object members => some (members.map (·.1))
  | _ => none

mutual

/-- The kind of the first part of a value that names nothing in a store, because it may change. -/
def changeable? : Value → Option String
  | tuple items => changeableItem? items
  | list _ => some "list"
  | set _ => some "set"
  | object _ => some "dict"
  | _ => none

/-- The kind of the first changeable part among some values. -/
def changeableItem? : List Value → Option String
  | [] => none
  | v :: vs => (changeable? v).or (changeableItem? vs)

end

end Value

/-- The members of an object, in order. -/
abbrev Members := List (Value × Value)

/-- The value of the member that the text names. -/
def Members.get? (ms : Members) (name : Text) : Option Value :=
  (ms.find? fun m => m.1.isText name).map (·.2)

end ApiKeys
