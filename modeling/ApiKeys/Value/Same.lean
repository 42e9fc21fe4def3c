import ApiKeys.Number.Binary64
import ApiKeys.Value.Basic

/-!
# Sameness of values

Two values are the same when they stand for the same thing. Numbers are compared exactly, whatever
their kind, and truth values count as zero and one; times are compared as instants, sets without
regard to order or kind, objects without regard to order. Lists and tuples differ. A number that is
none is the same as nothing, not even as itself.
-/

namespace ApiKeys

/-- What a number amounts to: a fraction, or more than every fraction. -/
inductive Amount where
  | fraction (numerator : Int) (denominator : Nat)
  | infinite (negative : Bool)

namespace Amount

/-- Two amounts are equal. -/
def same : Amount → Amount → Bool
  | fraction n d, fraction m e => n * e = m * d
  | infinite s, infinite t => s = t
  | _, _ => false

end Amount

/-- What a floating-point number amounts to. -/
def Floating.amount? : Floating → Option Amount
  | nan => none
  | infinite negative => some (.infinite negative)
  | finite negative digits exponent =>
    let x := Binary64.ofDecimal digits exponent
    let n : Int := x.numerator
    some (.fraction (if negative then -n else n) x.denominator)

namespace Value

/-- What a value amounts to as a number. -/
def amount? : Value → Option Amount
  | bool b => some (.fraction b.toNat 1)
  | int i => some (.fraction i 1)
  | float x => x.amount?
  | _ => none

/-- The items of a set of either kind. -/
def setItems? : Value → Option (List Value)
  | set items | frozenSet items => some items
  | _ => none

mutual

/-- Two values are the same. -/
def same : Value → Value → Bool
  | null, null => true
  | text t, text u => t = u
  | bytes s, bytes t => s = t
  | list vs, list ws => sameItems vs ws
  | tuple vs, tuple ws => sameItems vs ws
  | set vs, w => w.setItems?.any fun ws => vs.length = ws.length && sameAmong vs ws
  | frozenSet vs, w => w.setItems?.any fun ws => vs.length = ws.length && sameAmong vs ws
  | object ms, object ns => ms.length = ns.length && sameMembers ms ns
  | time t, time u => t.instant = u.instant
  | v, w =>
    match v.amount?, w.amount? with
    | some a, some b => a.same b
    | _, _ => false

/-- The values of two lists are the same, each as the one in its place. -/
def sameItems : List Value → List Value → Bool
  | [], [] => true
  | v :: vs, w :: ws => same v w && sameItems vs ws
  | _, _ => false

/-- Each value of a list is the same as one of some others. -/
def sameAmong : List Value → List Value → Bool
  | [], _ => true
  | v :: vs, ws => (ws.any fun w => same v w) && sameAmong vs ws

/-- Each member of an object is the same as the member of its name in another. -/
def sameMembers : List (Value × Value) → List (Value × Value) → Bool
  | [], _ => true
  | (name, v) :: ms, ns => (ns.any fun n => same name n.1 && same v n.2) && sameMembers ms ns

end

end Value

end ApiKeys
