import ApiKeys.Text.Fault

/-!
# Punycode

A text written in ASCII: first its ASCII characters, then a hyphen, then numbers, each of which says
where the next one of the other characters goes. A number is written with digits to base 36, least
digit first. The last digit of a number is the one below its threshold, and thresholds follow the
bias, which adapts to the numbers so far. `Insertion` is the state of reading the numbers, one
digit at a time.
-/

namespace ApiKeys.Punycode

/-- A number of which some digits have been read. -/
structure Pending where
  /-- How many digits have been read. -/
  place : Nat
  /-- What the next digit counts. -/
  weight : Nat
  /-- What the digits so far make up. -/
  value : Nat

/-- A number of which nothing has been read. -/
def Pending.start : Pending := ⟨0, 1, 0⟩

/-- The state of reading numbers. -/
structure Insertion where
  /-- The text so far. -/
  text : Text
  /-- The code point that was put in last. -/
  point : Nat
  /-- Where the next code point goes at the earliest. -/
  position : Nat
  bias : Nat
  /-- A number has been read. -/
  started : Bool
  pending : Pending

/-- The digit below which a digit at a place is the last one of its number. -/
def threshold (place bias : Nat) : Nat := min 26 (max 1 (36 * (place + 1) - bias))

/-- A number divided by 35 until it is small, with 36 for each time. -/
def scale (n divisions : Nat) : Nat × Nat :=
  if 455 < n then scale (n / 35) (divisions + 36) else (n, divisions)
termination_by n

/-- The bias after a number, where the text has `size` code points. -/
def adapt (n : Nat) (started : Bool) (size : Nat) : Nat :=
  let n := if started then n / 2 else n / 700
  let (n, divisions) := scale (n + n / size) 0
  divisions + 36 * n / (n + 38)

/-- What a capital or a decimal digit counts as a digit to base 36. -/
def digit? (c : Char) : Option Nat :=
  if 'A' ≤ c ∧ c ≤ 'Z' then some (c.toNat - 'A'.toNat)
  else if c.isDigit then some (c.toNat - '0'.toNat + 26)
  else none

/-- The text with a code point put in. -/
def Insertion.put (i : Insertion) (n : Nat) : Except DecodingFault Insertion :=
  let size := i.text.length + 1
  let position := (i.position + n) % size
  let point := i.point + (i.position + n) / size
  match CodePoint.ofNat? point with
  | none => .error (.beyondUnicode point)
  | some p =>
    .ok ⟨i.text.take position ++ p :: i.text.drop position, point, position + 1,
      adapt n i.started size, true, .start⟩

/-- What one more digit does. -/
def Insertion.step (i : Insertion) (c : Char) : Except DecodingFault Insertion :=
  match digit? c with
  | none => .error (.notDigit c)
  | some d =>
    let last := threshold i.pending.place i.bias
    let value := i.pending.value + d * i.pending.weight
    if d < last then i.put value
    else .ok { i with pending := ⟨i.pending.place + 1, i.pending.weight * (36 - last), value⟩ }

/-- The text that ASCII characters and the digits of numbers make up. -/
def insertAll (base : Text) (digits : List Char) : Except DecodingFault Text := do
  let i ← digits.foldlM Insertion.step ⟨base, 0x80, 0, 72, false, .start⟩
  if i.pending.place = 0 then return i.text else .error .incompleteNumber

/-- The characters of octets that are all ASCII. -/
def asciiChars (octets : List UInt8) : Except DecodingFault (List Char) :=
  match octets.findIdx? (0x80 ≤ ·) with
  | some i => .error (.octets ⟨"ascii", octets.getD i 0, i, 1, "ordinal not in range(128)"⟩)
  | none => .ok (octets.map fun b => Char.ofNat b.toNat)

/-- The octet of the hyphen. -/
def hyphen : UInt8 := 0x2d

/-- What stands before the last hyphen, and what stands after it. -/
def splitLast (octets : List UInt8) : List UInt8 × List UInt8 :=
  let digits := (octets.reverse.takeWhile (· ≠ hyphen)).reverse
  (octets.take (octets.length - digits.length - 1), digits)

/-- The text of octets. Case makes no difference to digits. -/
def decode (octets : List UInt8) : Except DecodingFault Text := do
  let (base, digits) := splitLast octets
  let base ← asciiChars base
  let digits ← asciiChars digits
  insertAll (Text.ofChars base) (digits.map Char.toUpper)

/-! ## Writing -/

/-- The character of a digit to base 36. -/
def digitChar (d : Nat) : Char :=
  Char.ofNat (if d < 26 then 'a'.toNat + d else '0'.toNat + (d - 26))

/-- The digits of a number from a place on, at most so many. -/
def numberDigits (bias : Nat) : (count place n : Nat) → List Char
  | 0, _, _ => []
  | count + 1, place, n =>
    let last := threshold place bias
    if n < last then [digitChar n]
    else
      digitChar (last + (n - last) % (36 - last)) ::
        numberDigits bias count (place + 1) ((n - last) / (36 - last))

/-- The state of writing the numbers for one code point after another. -/
structure Writing where
  digits : List Char
  /-- How far the next number has to count. -/
  distance : Nat
  bias : Nat
  /-- How many code points have been written. -/
  size : Nat
  /-- A number has been written. -/
  started : Bool

/-- Goes past one code point of a text, and writes a number if it is the one that is due. -/
def Writing.pass (due : Nat) (w : Writing) (p : CodePoint) : Writing :=
  if p.toNat < due then { w with distance := w.distance + 1 }
  else if p.toNat = due then
    ⟨w.digits ++ numberDigits w.bias (w.distance + 1) 0 w.distance, 0,
      adapt w.distance w.started (w.size + 1), w.size + 1, true⟩
  else w

/-- Writes the code points of a text that are due, after those below `first` have been written. -/
def writeDue (t : Text) : (due : List Nat) → (first : Nat) → Writing → Writing
  | [], _, w => w
  | n :: due, first, w =>
    let w := { w with distance := w.distance + (n - first) * (w.size + 1) }
    let w := t.foldl (Writing.pass n) w
    writeDue t due (n + 1) { w with distance := w.distance + 1 }

/-- The characters of a text in Punycode. -/
def encode (t : Text) : List Char :=
  let base := t.filter fun p => p.toNat < 0x80
  let others := ((t.map CodePoint.toNat).filter (0x80 ≤ ·)).mergeSort.eraseDups
  let w := writeDue t others 0x80 ⟨[], 0, 72, base.length, false⟩
  let baseChars := base.map fun p => Char.ofNat p.toNat
  (if base.isEmpty then [] else baseChars ++ ['-']) ++ w.digits

end ApiKeys.Punycode
