import ApiKeys.Text.EastAsian.CodePage932
import ApiKeys.Text.EastAsian.Jisx0208
import ApiKeys.Text.EastAsian.Jisx0212
import ApiKeys.Text.EastAsian.Jisx0213
import ApiKeys.Text.EastAsian.Step

/-!
# Japanese codes

The codes have the characters of JIS X 0208, and others besides: those of JIS X 0212, of either
edition of JIS X 0213, or of makers of systems. EUC gives each row an octet of its own; Shift JIS
puts two rows into each octet, between the half-width syllables, which take a single octet.
-/

namespace ApiKeys.EastAsian

/-! ## JIS X 0213 -/

/-- The editions of JIS X 0213, which take their names from the years. -/
inductive Edition where
  | of2000
  | of2004
  deriving DecidableEq

/-- Texts in rows of 94 columns with others in some places, each of which is a row, a column and a
text. -/
def withTexts (texts : Array (List Char)) (changes : List (Nat × Nat × List Char)) :
    Array (List Char) :=
  changes.foldl
    (fun texts (row, column, cs) => texts.setIfInBounds ((row - 1) * 94 + (column - 1)) cs)
    texts

/-- Characters with a mark after them, in places of a row from a column on. -/
def markedTexts (row column : Nat) (bases : String) (mark : Char) :
    List (Nat × Nat × List Char) :=
  (bases.toList.zipIdx column).map fun (c, i) => (row, i, [c, mark])

/-- The characters of the first plane that take two code points. -/
def doubleTexts : List (Nat × Nat × List Char) :=
  markedTexts 4 87 "かきくけこ" '\u309a' ++ markedTexts 5 87 "カキクケコセツト" '\u309a' ++
    markedTexts 6 88 "ㇷ" '\u309a' ++
    [(11, 36, ['æ', '\u0300']), (11, 40, ['ɔ', '\u0300']), (11, 41, ['ɔ', '\u0301']),
      (11, 42, ['ʌ', '\u0300']), (11, 43, ['ʌ', '\u0301']), (11, 44, ['ə', '\u0300']),
      (11, 45, ['ə', '\u0301']), (11, 46, ['ɚ', '\u0300']), (11, 47, ['ɚ', '\u0301']),
      (11, 69, ['˩', '˥']), (11, 70, ['˥', '˩'])]

/-- The characters that the second edition adds to the first plane. -/
def addedTexts : List (Nat × Nat × List Char) :=
  [(14, 1, ['俱']), (15, 94, ['剝']), (47, 52, ['𠮟']), (47, 94, ['吞']), (84, 7, ['噓']),
    (94, 90, ['姸']), (94, 91, ['屛']), (94, 92, ['幷']), (94, 93, ['瘦']), (94, 94, ['繫'])]

/-- What the second edition adds to the first plane, and nothing else. -/
def jisx0213Added : Array (List Char) := withTexts (Array.replicate (94 * 94) []) addedTexts

/-- The first plane of an edition, without JIS X 0208. -/
def jisx0213FirstOf : Edition → Array (List Char)
  | .of2000 => withTexts jisx0213First doubleTexts
  | .of2004 => withTexts jisx0213First (doubleTexts ++ addedTexts)

/-- The second plane of an edition. One character became another; row 93 is the 25th. -/
def jisx0213SecondOf : Edition → Array (List Char)
  | .of2000 => withTexts jisx0213Second [(25, 27, ['鬝'])]
  | .of2004 => withTexts jisx0213Second [(25, 27, ['鬜'])]

/-! ## EUC -/

/-- The columns of all rows in octets that are not in ASCII. -/
def eucColumns : OctetRuns := [(0xa1, 0xfe)]

/-- JIS X 0208 in octets that are not in ASCII. -/
def eucJisx0208 : Plane := ⟨[(0xa1, 0xf4)], eucColumns, jisx0208⟩

/-- JIS X 0212 in octets that are not in ASCII. -/
def eucJisx0212 : Plane := ⟨[(0xa2, 0xed)], eucColumns, jisx0212⟩

/-- The half-width syllable of an octet. -/
def halfWidth? (b : UInt8) : Option Char :=
  if 0xa1 ≤ b ∧ b ≤ 0xdf then some (Char.ofNat (0xfec0 + b.toNat)) else none

/-- The step of a code with some planes of pairs of octets, where an octet stands before half-width
syllables and another one before pairs of other planes. -/
def eucStep (first second : List Plane) : Unit → List UInt8 → Step Unit
  | (), 0x8e :: s =>
    match s with
    | [] => .incomplete
    | b :: _ => .ofText (halfWidth? b).toList 2 () 1
  | (), 0x8f :: s =>
    match s with
    | b :: c :: _ => .ofText (Plane.textIn second b c) 3 () 1
    | _ => .incomplete
  | (), s => pairStep asciiChar? beyondAscii first () s

/-- The step of the code of JIS X 0208 and JIS X 0212. -/
def eucJpStep : Unit → List UInt8 → Step Unit := eucStep [eucJisx0208] [eucJisx0212]

/-- The first plane of an edition of JIS X 0213 in octets that are not in ASCII. -/
def eucJisx0213First (e : Edition) : Plane := ⟨[(0xa1, 0xfe)], eucColumns, jisx0213FirstOf e⟩

/-- The second plane of an edition of JIS X 0213 in octets that are not in ASCII. -/
def eucJisx0213Second (e : Edition) : Plane :=
  ⟨[(0xa1, 0xa1), (0xa8, 0xa8), (0xa3, 0xa5), (0xac, 0xaf), (0xee, 0xfe)], eucColumns,
    jisx0213SecondOf e⟩

/-- The step of a code for the first edition: the characters in a plane of those that the second
edition adds are no characters yet, and both octets are at fault. -/
def withoutAdded (added : Plane) (step : Unit → List UInt8 → Step Unit) :
    Unit → List UInt8 → Step Unit
  | (), a :: b :: s => if (added.text a b).isEmpty then step () (a :: b :: s) else .illegal 2
  | (), s => step () s

/-- The step of the code of an edition of JIS X 0213. -/
def eucJisx0213Step (e : Edition) : Unit → List UInt8 → Step Unit :=
  let step := eucStep [eucJisx0208, eucJisx0213First e] [eucJisx0213Second e, eucJisx0212]
  match e with
  | .of2000 => withoutAdded ⟨[(0xa1, 0xfe)], eucColumns, jisx0213Added⟩ step
  | .of2004 => step

/-! ## Shift JIS -/

/-- The octets of all rows. -/
def shiftRows : OctetRuns := [(0x81, 0x9f), (0xe0, 0xfc)]

/-- The columns of two rows. -/
def shiftColumns : OctetRuns := [(0x40, 0x7e), (0x80, 0xfc)]

/-- JIS X 0208 in Shift JIS. -/
def shiftJisx0208 : Plane := ⟨[(0x81, 0x9f), (0xe0, 0xea)], shiftColumns, jisx0208⟩

/-- The character of a single octet: one of ASCII or a half-width syllable. -/
def shiftSingle? (b : UInt8) : Option Char := (asciiChar? b).or (halfWidth? b)

/-- The step of Shift JIS. -/
def shiftJisStep : Unit → List UInt8 → Step Unit :=
  pairStep shiftSingle? shiftJisx0208.rows [shiftJisx0208]

/-- The character of ASCII that an octet is, but for the sign of the yen and an overline. -/
def romanChar? (b : UInt8) : Option Char :=
  if b = 0x5c then some '¥' else if b = 0x7e then some '\u203e' else asciiChar? b

/-- The planes of Shift JIS for an edition of JIS X 0213: a backslash and a tilde take the places of
wide ones. -/
def shiftJisx0213Planes (e : Edition) : List Plane :=
  [.part 0x815f [.chars "\\"], .part 0x81b0 [.chars "~"], shiftJisx0208,
    ⟨[(0x81, 0x9f), (0xe0, 0xef)], shiftColumns, jisx0213FirstOf e⟩,
    ⟨[(0xf0, 0xfc)], shiftColumns, jisx0213SecondOf e⟩]

/-- The step of Shift JIS for an edition of JIS X 0213. -/
def shiftJisx0213Step (e : Edition) : Unit → List UInt8 → Step Unit :=
  let single? := fun b => (romanChar? b).or (halfWidth? b)
  let step := pairStep single? shiftRows (shiftJisx0213Planes e)
  match e with
  | .of2000 => withoutAdded ⟨[(0x81, 0x9f), (0xe0, 0xef)], shiftColumns, jisx0213Added⟩ step
  | .of2004 => step

/-- The planes of code page 932, with the characters of makers of systems, and those for private
use. -/
def cp932Planes : List Plane := [
  .part 0x8160 [.chars "～∥"], .part 0x817c [.chars "－"], .part 0x8191 [.chars "￠￡"],
  .part 0x81ca [.chars "￢"],
  ⟨[(0x87, 0x87)], shiftColumns, cp932Signs⟩, ⟨[(0xed, 0xee)], shiftColumns, cp932Selected⟩,
  ⟨[(0xfa, 0xfc)], shiftColumns, cp932All⟩,
  ⟨[(0xf0, 0xf9)], shiftColumns, Stretch.texts [.run 0xe000 1880]⟩, shiftJisx0208]

/-- The character of a single octet in code page 932. -/
def cp932Single? (b : UInt8) : Option Char :=
  if b = 0x80 then some '\x80'
  else if b = 0xa0 then some '\uf8f0'
  else if b ≥ 0xfd then some (Char.ofNat (0xf8f1 + (b.toNat - 0xfd)))
  else shiftSingle? b

/-- The step of code page 932. -/
def cp932Step : Unit → List UInt8 → Step Unit := pairStep cp932Single? shiftRows cp932Planes

end ApiKeys.EastAsian
