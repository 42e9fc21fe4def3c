import ApiKeys.Settings.Fault
import ApiKeys.Text.Lowercase
import ApiKeys.Text.Utf8
import ApiKeys.Value.Basic

/-!
# Variables

The variables of a program, in the order in which they were first set. Setting a variable again
keeps its place. A program may try to give any value to a variable of any name
(`Environment.assign`); only texts will do, and not all of them.
-/

namespace ApiKeys

/-- The variables of a program: names and values. -/
abbrev Environment := List (Text × Text)

namespace Environment

/-- The bindings with a name bound to a value, in the place that the name had before, or else at the
end. -/
def set {α : Type} (name : Text) (value : α) : List (Text × α) → List (Text × α)
  | [] => [(name, value)]
  | (n, v) :: rest => if n = name then (name, value) :: rest else (n, v) :: set name value rest

/-- A surrogate that stands for an octet of a text in no encoding. -/
def standsForOctet : CodePoint → Bool
  | .surrogate i => 0x480 ≤ i.val && i.val < 0x500
  | .char _ => false

/-- The text of a value that names a variable or is given to it. -/
def textOf : Value → Except Settings.VariableFault Text
  | .text t =>
    match t.unencodable? standsForOctet with
    | none => .ok t
    | some fault => .error (.unencodable fault)
  | v => .error (.notText v.kind)

/-- The text holds the zero character. -/
def holdsZero (t : Text) : Bool := t.contains (.char '\x00')

/-- The environment with a value given to a variable. -/
def assign (name value : Value) (env : Environment) :
    Except Settings.VariableFault Environment := do
  let name ← textOf name
  let value ← textOf value
  if holdsZero name || holdsZero value then .error .zero
  else if name.contains (.char '=') then .error .equalsSign
  else if name = [] then .error .nameless
  else return set name value env

/-- The environment without a variable, whether there is one of the name or not. -/
def unset (name : Value) (env : Environment) : Except Settings.VariableFault Environment := do
  let name ← textOf name
  return env.filter fun entry => entry.1 ≠ name

end Environment

end ApiKeys
