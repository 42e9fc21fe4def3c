import ApiKeys.Text.Basic
import ApiKeys.Text.Digits

/-!
# Faults of encodings

Octets may have no text in an encoding, and code points may have no octets. Most faults lie at some
octets (`Undecodable`) or code points (`Unencodable`); names of hosts can also be at fault as a
whole (`DecodingFault`).
-/

namespace ApiKeys

/-- Octets that have no text in an encoding: the first octet at fault, its position, the number of
octets at fault, and what is wrong with them. -/
structure Undecodable where
  encoding : String
  octet : UInt8
  position : Nat
  length : Nat
  reason : String

/-- Code points that have no octets: the first of them, its position, and their number. -/
structure Unencodable where
  point : CodePoint
  position : Nat
  length : Nat

/-- Why octets have no text. -/
inductive DecodingFault where
  /-- Some octets are at fault. -/
  | octets (u : Undecodable)
  /-- The encoding has no texts at all. -/
  | undefined
  /-- A set of characters is called for that cannot be read that way. -/
  | unreadable
  /-- A number ends before its last digit. -/
  | incompleteNumber
  /-- The character is no digit of a number. -/
  | notDigit (c : Char)
  /-- A number stands for a code point that there is not. -/
  | beyondUnicode (n : Nat)
  /-- A label of a name is at fault. -/
  | inLabel (f : DecodingFault)
  /-- A label of a name is empty or too long. -/
  | labelLength
  /-- A label of a name holds a code point that no label has. -/
  | labelCharacter (p : CodePoint)
  /-- A label of a name breaks a rule, of the given number, about the direction of writing. -/
  | labelDirection (rule : Nat)
  /-- A label of a name starts as only encoded labels do. -/
  | labelMark
  /-- A label of a name is not the one that its text is written as. -/
  | labelText (label written : Text)

/-! ## Messages -/

/-- The words for one item at fault, or for a run of them. -/
def faultPlace (noun one : String) (position length : Nat) : Text :=
  if length = 1 then noun ++ " " ++ one ++ " in position " ++ toString position
  else noun ++ "s in position " ++ toString position ++ "-" ++ toString (position + length - 1)

/-- What is wrong with octets that have no text. -/
def Undecodable.message (u : Undecodable) : Text :=
  "'" ++ u.encoding ++ "' codec can't decode " ++
    faultPlace "byte" (String.ofList ('0' :: 'x' :: Digits.hex 2 u.octet.toNat)) u.position
      u.length ++ (": " ++ u.reason : String)

/-- What is wrong with code points that have no octets. -/
def Unencodable.message (u : Unencodable) : Text :=
  "'utf-8' codec can't encode " ++
    faultPlace "character"
      (String.ofList ('\'' :: '\\' :: 'u' :: Digits.hex 4 u.point.toNat ++ ['\''])) u.position
      u.length ++ (": surrogates not allowed" : String)

end ApiKeys
