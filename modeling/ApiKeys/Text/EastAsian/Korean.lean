import ApiKeys.Text.EastAsian.Ksx1001
import ApiKeys.Text.EastAsian.Step

/-!
# Korean codes

All codes have the characters of KS X 1001, where only the syllables in common use have a place of
their own. The others are spelled out by their letters in one code, fill free places in another, and
in Johab all syllables are numbers made of those of their letters.
-/

namespace ApiKeys.EastAsian

/-- KS X 1001 in octets that are not in ASCII. -/
def ksx1001Plane : Plane := ⟨[(0xa1, 0xfd)], [(0xa1, 0xfe)], ksx1001⟩

/-! ## Syllables -/

/-- The consonants that start a syllable. -/
def leadingConsonants : List Char := "ㄱㄲㄴㄷㄸㄹㅁㅂㅃㅅㅆㅇㅈㅉㅊㅋㅌㅍㅎ".toList

/-- The vowels. -/
def vowels : List Char := "ㅏㅐㅑㅒㅓㅔㅕㅖㅗㅘㅙㅚㅛㅜㅝㅞㅟㅠㅡㅢㅣ".toList

/-- The consonants that end a syllable. -/
def trailingConsonants : List Char := "ㄱㄲㄳㄴㄵㄶㄷㄹㄺㄻㄼㄽㄾㄿㅀㅁㅂㅄㅅㅆㅇㅈㅊㅋㅌㅍㅎ".toList

/-- The syllable of a consonant and a vowel by their places, and perhaps the place of a consonant
that ends it. -/
def syllable (leading vowel : Nat) (trailing : Option Nat) : Char :=
  let tail := trailing.map (· + 1)
  Char.ofNat (0xac00 + (leading * vowels.length + vowel) * (trailingConsonants.length + 1) +
    tail.getD 0)

/-! ## EUC -/

/-- The letter of an octet in the row of letters. -/
def letter? (b : UInt8) : Option Char := (ksx1001Plane.text 0xa4 b).head?

/-- The octet of the letter that stands for none. -/
def filler : UInt8 := 0xd4

/-- The syllable that three octets in the row of letters spell. -/
def spelled? (leading vowel trailing : UInt8) : Option Char := do
  let i ← leadingConsonants.idxOf? (← letter? leading)
  let j ← vowels.idxOf? (← letter? vowel)
  if trailing = filler then return syllable i j none
  else return syllable i j (some (← trailingConsonants.idxOf? (← letter? trailing)))

/-- The step of the code that spells syllables, after a sign for it. -/
def eucKrStep : Unit → List UInt8 → Step Unit
  | (), 0xa4 :: 0xd4 :: s =>
    match s with
    | 0xa4 :: i :: 0xa4 :: j :: 0xa4 :: k :: _ => .ofText (spelled? i j k).toList 8 () 1
    | _ => if s.length < 6 then .incomplete else .illegal 1
  | (), s => pairStep asciiChar? beyondAscii [ksx1001Plane] () s

/-! ## Code page 949 -/

/-- The planes of code page 949, where the syllables that have no place of their own come in order
before the rows of KS X 1001 and in free columns of them. -/
def cp949Planes : List Plane :=
  let syllables := ((Plane.others 0xac00 0xd7a3 ksx1001).map fun c => [c]).toArray
  let rows : OctetRuns := [(0x81, 0xa0)]
  let columns : OctetRuns := [(0x41, 0x5a), (0x61, 0x7a), (0x81, 0xfe)]
  let before := rows.count * columns.count
  [ksx1001Plane, ⟨rows, columns, syllables⟩,
    ⟨[(0xa1, 0xfe)], [(0x41, 0x5a), (0x61, 0x7a), (0x81, 0xa0)],
      syllables.extract before syllables.size⟩]

/-! ## Johab -/

/-- The place of the letter that a number stands for, if it is not the number for no letter. Each
run of numbers has a first one, a last one, and the place of the first. -/
def johabLetter? (empty : Nat) (runs : List (Nat × Nat × Nat)) (n : Nat) : Option (Option Nat) :=
  if n = empty then some none
  else
    (runs.find? fun (first, last, _) => first ≤ n && n ≤ last).map fun (first, _, place) =>
      some (place + (n - first))

/-- The character of a syllable, by the places of its letters. A letter may also stand alone. -/
def johabChar? : (leading vowel trailing : Option Nat) → Option Char
  | some i, some j, trailing => some (syllable i j trailing)
  | some i, none, none => leadingConsonants[i]?
  | none, some j, none => vowels[j]?
  | none, none, some k => trailingConsonants[k]?
  | none, none, none => some '\u3000'
  | _, _, _ => none

/-- The character of the number of a syllable. -/
def johabSyllable? (n : Nat) : Option Char := do
  let leading ← johabLetter? 1 [(2, 20, 0)] (n / 0x400 % 0x20)
  let vowel ← johabLetter? 2 [(3, 7, 0), (10, 15, 5), (18, 23, 11), (26, 29, 17)] (n / 0x20 % 0x20)
  let trailing ← johabLetter? 1 [(2, 17, 0), (19, 29, 16)] (n % 0x20)
  johabChar? leading vowel trailing

/-- The planes of Johab that hold no syllables: rows of KS X 1001, two in each row. -/
def johabPlanes : List Plane :=
  let columns : OctetRuns := [(0x31, 0x7e), (0x91, 0xfe)]
  [⟨[(0xd9, 0xde)], columns, ksx1001.extract 0 (12 * 94)⟩,
    ⟨[(0xe0, 0xf9)], columns, ksx1001.extract (41 * 94) ksx1001.size⟩]

/-- The step of Johab. The letters of KS X 1001 are left to the syllables. -/
def johabStep : Unit → List UInt8 → Step Unit
  | (), [] => .incomplete
  | (), a :: s =>
    if a < 0x80 then .text [Char.ofNat a.toNat] 1 ()
    else
      match s with
      | [] => .incomplete
      | b :: _ =>
        if a < 0xd8 then .ofText (johabSyllable? (a.toNat * 0x100 + b.toNat)).toList 2 () 1
        else if a = 0xda ∧ 0xa1 ≤ b ∧ b ≤ 0xd3 then .illegal 1
        else .ofText (Plane.textIn johabPlanes a b) 2 () 1

end ApiKeys.EastAsian
