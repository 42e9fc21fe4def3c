import ApiKeys.Text.CharacterName.Ancient
import ApiKeys.Text.CharacterName.EastAsian
import ApiKeys.Text.CharacterName.OtherNames
import ApiKeys.Text.CharacterName.Pictures
import ApiKeys.Text.CharacterName.Scripts
import ApiKeys.Text.CharacterName.Signs

/-!
# Names of characters

Unicode gives each character a name, and some of them other names besides. Ideographs are named by
their numbers, and the syllables of Korean by their letters. Case makes no difference to a name,
but for those of Korean syllables and of the ideographs that all of East Asia shares.
-/

namespace ApiKeys.CharacterName

/-! ## Numbers in names -/

/-- The number of digits to base 16, in upper case. -/
def number? (digits : List Char) : Option Nat :=
  digits.foldlM
    (fun n c =>
      if c.isDigit then some (n * 16 + (c.toNat - 0x30))
      else if 'A' ≤ c ∧ c ≤ 'F' then some (n * 16 + (c.toNat - 0x41 + 10))
      else none)
    0

/-- The number at the end of a name, among the numbers in runs. It has four or five digits, and may
start with a zero only if `padded`. -/
def numbered? (padded : Bool) (digits : List Char) (runs : List (Nat × Nat)) : Option Nat := do
  let n ← number? digits
  let fits := digits.length = 4 ∨ digits.length = 5 ∧ (padded ∨ digits.head? ≠ some '0')
  if fits ∧ runs.any (fun (first, last) => first ≤ n && n ≤ last) then some n else none

/-- The families of ideographs that are named by their numbers, in any case. -/
def families : List (String × List (Nat × Nat)) := [
  ("CJK COMPATIBILITY IDEOGRAPH-", [(0xf900, 0xfa6d), (0xfa70, 0xfad9), (0x2f800, 0x2fa1d)]),
  ("KHITAN SMALL SCRIPT CHARACTER-", [(0x18b00, 0x18cd5)]),
  ("NUSHU CHARACTER-", [(0x1b170, 0x1b2fb)])]

/-- The runs of the ideographs that all of East Asia shares. -/
def unified : List (Nat × Nat) :=
  [(0x3400, 0x4dbf), (0x4e00, 0x9fff), (0x20000, 0x2a6df), (0x2a700, 0x2b738), (0x2b740, 0x2b81d),
    (0x2b820, 0x2cea1), (0x2ceb0, 0x2ebe0), (0x30000, 0x3134a)]

/-- The variation selector of a number, which starts at one. -/
def selector (n : Nat) : Nat := if n ≤ 16 then 0xfe00 + (n - 1) else 0xe0100 + (n - 17)

/-- The abbreviations of variation selectors. -/
def selectors : List (String × Nat) :=
  (List.range 256).map fun i => ("VS" ++ toString (i + 1), selector (i + 1))

/-! ## Syllables -/

/-- The consonants that start a syllable, as names spell them. -/
def leadingConsonants : List String :=
  ["G", "GG", "N", "D", "DD", "R", "M", "B", "BB", "S", "SS", "", "J", "JJ", "C", "K", "T", "P",
    "H"]

/-- The vowels, as names spell them. -/
def vowels : List String :=
  ["A", "AE", "YA", "YAE", "EO", "E", "YEO", "YE", "O", "WA", "WAE", "OE", "YO", "U", "WEO", "WE",
    "WI", "YU", "EU", "YI", "I"]

/-- The consonants that end a syllable, as names spell them; there may be none. -/
def trailingConsonants : List String :=
  ["", "G", "GG", "GS", "N", "NJ", "NH", "D", "L", "LG", "LM", "LB", "LS", "LT", "LP", "LH", "M",
    "B", "BS", "S", "SS", "NG", "J", "C", "K", "T", "P", "H"]

/-- The place of the longest of some spellings that a text starts with, and the rest of the text. -/
def longest? (spellings : List String) (t : List Char) : Option (Nat × List Char) :=
  let starts := spellings.zipIdx.filter fun (spelling, _) => spelling.toList.isPrefixOf t
  let lengths := starts.map fun (spelling, _) => spelling.length
  (starts.find? fun (spelling, _) => some spelling.length = lengths.max?).map fun (spelling, i) =>
    (i, t.drop spelling.length)

/-- The syllable that is spelled by its letters. -/
def syllable? (t : List Char) : Option Nat := do
  let (i, t) ← longest? leadingConsonants t
  let (j, t) ← longest? vowels t
  let (k, t) ← longest? trailingConsonants t
  if t = [] then some (0xac00 + (i * vowels.length + j) * trailingConsonants.length + k) else none

/-! ## All names -/

/-- What comes after some words at the start of a name. -/
def after? (words : String) (name : List Char) : Option (List Char) :=
  if words.toList.isPrefixOf name then some (name.drop words.length) else none

/-- The number of the character of a name in upper case, which is neither a Korean syllable nor an
ideograph that all of East Asia shares. -/
def named? (name : List Char) : Option Nat :=
  let family? := families.findSome? fun (words, runs) =>
    (after? words name).bind fun digits => numbered? false digits runs
  let other? := otherNames.find? fun (_, names) => names.contains (String.ofList name)
  (family?.or (other?.map (·.1))).or <|
    (List.lookup (String.ofList name) selectors).or <|
      findAfter? name [] <|
        (scripts ++ signs ++ eastAsian ++ ancient ++ pictures).flatMap Run.entries

/-- The character of a name. -/
def find? (name : List Char) : Option Char :=
  let number? :=
    match after? "HANGUL SYLLABLE " name, after? "CJK UNIFIED IDEOGRAPH-" name with
    | some t, _ => syllable? t
    | none, some digits => numbered? true digits unified
    | none, none => named? (name.map Char.toUpper)
  number?.map Char.ofNat

end ApiKeys.CharacterName
