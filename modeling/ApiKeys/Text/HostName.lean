import ApiKeys.Text.HostName.Prepared
import ApiKeys.Text.Parts
import ApiKeys.Text.Punycode

/-!
# Names of hosts

The labels of a name stand between points. A label that starts with `xn--` stands for the text that
the rest of it encodes in Punycode, and must be what that text is written as. All other labels stand
for themselves.
-/

namespace ApiKeys.HostName

/-- What an encoded label starts with. -/
def mark : Text := "xn--"

/-- Labels have fewer characters than this. -/
def labelBound : Nat := 64

/-- The text is in ASCII. -/
def isAscii (t : Text) : Bool := t.all fun p => p.toNat < 0x80

/-- A label, unless it is empty or too long. -/
def checkLength (label : Text) : Except DecodingFault Text :=
  if 0 < label.length ∧ label.length < labelBound then .ok label else .error .labelLength

/-- The label that a text is written as. -/
def written (t : Text) : Except DecodingFault Text := do
  if isAscii t then checkLength t
  else
    let t ← prepare t
    if isAscii t then checkLength t
    else if mark.isPrefixOf t then .error .labelMark
    else checkLength (mark ++ Text.ofChars (Punycode.encode t))

/-- The text of a label. -/
def labelText (label : Text) : Except DecodingFault Text :=
  if label.take mark.length = mark then
    match Punycode.decode ((label.drop mark.length).map fun p => UInt8.ofNat p.toNat) with
    | .error f => .error (.inLabel f)
    | .ok t => do
      let again ← written t
      if label.lower = again then return t else .error (.labelText label again)
  else .ok label

/-- The text of octets. -/
def decode (octets : List UInt8) : Except DecodingFault Text := do
  let name ← Punycode.asciiChars octets
  return Text.joined '.' (← ((Text.ofChars name).parts '.').mapM labelText)

end ApiKeys.HostName
