import ApiKeys.Text.CharacterName
import ApiKeys.Text.Fault

/-!
# Escaped texts

Each octet stands for the character of its number, but for a backslash, which starts an escape.
There are two forms. The raw one knows escapes of a code point by its number alone, in four digits
to base 16 after `u` or in eight after `U`; the full one also has two digits after `x`, up to three
digits to base 8, letters for control characters and names of characters, and drops a line feed that
a backslash precedes. What is no escape stands for itself, with its backslash.
-/

namespace ApiKeys.Escaped

/-- Which escapes there are. -/
inductive Form where
  | full
  | raw
  deriving DecidableEq

/-- The name of the encoding that a form is. -/
def Form.title : Form → String
  | full => "unicodeescape"
  | raw => "rawunicodeescape"

/-- The digit to a base that an octet is. -/
def digit? (base : Nat) (b : UInt8) : Option Nat :=
  let n := b.toNat
  let digit :=
    if 0x30 ≤ n ∧ n ≤ 0x39 then n - 0x30
    else if 0x61 ≤ n ∧ n ≤ 0x66 then n - 0x61 + 10
    else if 0x41 ≤ n ∧ n ≤ 0x46 then n - 0x41 + 10
    else base
  if digit < base then some digit else none

/-- At most `count` digits in front of some octets. -/
def digits (base : Nat) : (count : Nat) → List UInt8 → List Nat
  | 0, _ => []
  | _, [] => []
  | count + 1, b :: s =>
    match digit? base b with
    | some d => d :: digits base count s
    | none => []

/-- The number of some digits. -/
def number (base : Nat) (ds : List Nat) : Nat := ds.foldl (fun n d => n * base + d) 0

/-- How many digits an escape has after its letter, and what is wrong if there are fewer of them. -/
def width? (form : Form) (b : UInt8) : Option (Nat × String) :=
  if b = 0x75 then some (4, "truncated \\uXXXX escape")
  else if b = 0x55 then some (8, "truncated \\UXXXXXXXX escape")
  else if b = 0x78 ∧ form = .full then some (2, "truncated \\xXX escape")
  else none

/-- The characters that a backslash and a character stand for in the full form. -/
def short? (b : UInt8) : Option (List Char) :=
  List.lookup b [
    (0x0a, []), (0x5c, ['\\']), (0x27, ['\'']), (0x22, ['"']), (0x61, ['\x07']), (0x62, ['\x08']),
    (0x66, ['\x0c']), (0x6e, ['\n']), (0x72, ['\r']), (0x74, ['\t']), (0x76, ['\x0b'])]

/-- What is wrong with a number that no code point has. -/
def beyondReason : Form → String
  | .full => "illegal Unicode character"
  | .raw => "\\Uxxxxxxxx out of range"

/-- What an escape by the name of a character stands for. The name stands between braces. -/
def named : List UInt8 → Except (Nat × String) (Text × Nat)
  | 0x7b :: s =>
    let name := s.takeWhile (· ≠ 0x7d)
    if name = [] ∨ name.length = s.length then
      .error (2 + name.length, "malformed \\N character escape")
    else
      match CharacterName.find? (name.map fun b => Char.ofNat b.toNat) with
      | some c => .ok ([.char c], 3 + name.length)
      | none => .error (3 + name.length, "unknown Unicode character name")
  | _ => .error (1, "malformed \\N character escape")

/-- What an escape stands for, and how many octets it has after its backslash; or how many octets
are at fault after it, and why. -/
def escape (form : Form) : List UInt8 → Except (Nat × String) (Text × Nat)
  | [] => if form = .raw then .ok ([.char '\\'], 0) else .error (0, "\\ at end of string")
  | b :: s =>
    match width? form b with
    | some (width, reason) =>
      let ds := digits 16 width s
      if ds.length < width then .error (1 + ds.length, reason)
      else
        match CodePoint.ofNat? (number 16 ds) with
        | some p => .ok ([p], 1 + width)
        | none => .error (1 + width, beyondReason form)
    | none =>
      let plain : Text := [.char '\\', .char (Char.ofNat b.toNat)]
      if form = .raw then .ok (plain, 1)
      else
        match short? b, digits 8 3 (b :: s) with
        | some cs, _ => .ok (Text.ofChars cs, 1)
        | none, [] =>
          if b = 0x4e then named s else .ok (plain, 1)
        | none, ds => .ok ((CodePoint.ofNat? (number 8 ds)).toList, ds.length)

/-- The text of octets that start at a position, after so many octets of an escape. -/
def decodeFrom (form : Form) : (skipped position : Nat) → List UInt8 → Except Undecodable Text
  | _, _, [] => .ok []
  | skipped + 1, position, _ :: s => decodeFrom form skipped (position + 1) s
  | 0, position, b :: s =>
    if b = 0x5c then
      match escape form s with
      | .ok (t, skipped) => (decodeFrom form skipped (position + 1) s).map (t ++ ·)
      | .error (length, reason) => .error ⟨form.title, b, position, 1 + length, reason⟩
    else (decodeFrom form 0 (position + 1) s).map (.char (Char.ofNat b.toNat) :: ·)

/-- The text of octets. -/
def decode (form : Form) (octets : List UInt8) : Except Undecodable Text :=
  decodeFrom form 0 0 octets

end ApiKeys.Escaped
