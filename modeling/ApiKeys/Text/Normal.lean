import ApiKeys.Text.Basic
import ApiKeys.Text.Normal.Composition
import ApiKeys.Text.Normal.Decomposition

/-!
# Normal form

Texts that look alike may be made of other code points. In the normal form characters that differ in
form only are the plain ones, the marks after a letter are in the order of their classes, and a
letter is one character with as many of its marks as there is one for.
-/

namespace ApiKeys.Normal

/-- The text in the table of single characters for a number. -/
def singleForm? (table : List (Nat × String)) (n : Nat) : Option (List Char) :=
  (table.find? fun (first, s) => first ≤ n && n < first + s.length).map fun (first, s) =>
    (s.toList.drop (n - first)).take 1

/-- The text in the table of texts for a number. -/
def severalForm? (table : List (Nat × List String)) (n : Nat) : Option (List Char) :=
  (table.find? fun (first, texts) => first ≤ n && n < first + texts.length).map
    fun (first, texts) => (texts.getD (n - first) "").toList

/-! ## Korean -/

/-- The letters of a Korean syllable: how many start one, are its vowel, or end it, with none. -/
def leadCount : Nat := 19

@[inherit_doc leadCount] def vowelCount : Nat := 21

@[inherit_doc leadCount] def tailCount : Nat := 28

/-- The letters of the syllable with a number, if it is one. -/
def letters? (n : Nat) : Option (List Char) :=
  if 0xac00 ≤ n ∧ n < 0xac00 + leadCount * vowelCount * tailCount then
    let i := n - 0xac00
    let letters := [Char.ofNat (0x1100 + i / (vowelCount * tailCount)),
      Char.ofNat (0x1161 + i / tailCount % vowelCount)]
    let tail := i % tailCount
    some (if tail = 0 then letters else letters ++ [Char.ofNat (0x11a7 + tail)])
  else none

/-- The syllable of two letters, or of three, with the code points after them. -/
def syllable? : Text → Option (CodePoint × Text)
  | lead :: vowel :: t =>
    let i := lead.toNat - 0x1100
    let j := vowel.toNat - 0x1161
    if 0x1100 ≤ lead.toNat ∧ i < leadCount ∧ 0x1161 ≤ vowel.toNat ∧ j < vowelCount then
      let number := 0xac00 + (i * vowelCount + j) * tailCount
      match t with
      | tail :: rest =>
        if 0x11a7 < tail.toNat ∧ tail.toNat < 0x11a7 + tailCount then
          some (.char (Char.ofNat (number + (tail.toNat - 0x11a7))), rest)
        else some (.char (Char.ofNat number), t)
      | [] => some (.char (Char.ofNat number), t)
    else none
  | _ => none

/-! ## Decomposition -/

/-- What a code point is made of. -/
def decompose (p : CodePoint) : Text :=
  let n := p.toNat
  match ((letters? n).or (singleForm? singleForms n)).or (severalForm? severalForms n) with
  | some cs => Text.ofChars cs
  | none => [p]

/-- The class of a code point, which is zero unless it is a mark. -/
def classOf (p : CodePoint) : Nat :=
  ((classes.find? fun (first, last, _) => first ≤ p.toNat && p.toNat ≤ last).map
    fun (_, _, c) => c).getD 0

/-- Puts a code point behind a text, last one first, but before the marks of higher classes at its
end. -/
def putMark (p : CodePoint) : Text → Text
  | [] => [p]
  | q :: t => if classOf p ≠ 0 ∧ classOf p < classOf q then q :: putMark p t else p :: q :: t

/-- The text with its marks in the order of their classes. -/
def sorted (t : Text) : Text := (t.foldl (fun before p => putMark p before) []).reverse

/-! ## Composition -/

/-- The character that a code point and another one after it make up. -/
def compose? (p q : CodePoint) : Option CodePoint :=
  compositions.findSome? fun (second, bases, composed) =>
    if q = .char second then
      ((bases.toList.zip composed.toList).find? fun (base, _) => p = .char base).map fun (_, c) =>
        .char c
    else none

/-- A code point with the marks after it that it can take up, and the code points that it leaves.
The highest class of a mark that was left is `blocked`: those up to that are not taken up any more.
-/
def takeMarks (p : CodePoint) (blocked : Nat) : Text → CodePoint × Text
  | [] => (p, [])
  | q :: t =>
    let c := classOf q
    let leave := fun blocked =>
      let (p, rest) := takeMarks p blocked t
      (p, q :: rest)
    if blocked ≠ 0 ∧ c = 0 then (p, q :: t)
    else if blocked ≠ 0 ∧ c ≤ blocked then leave blocked
    else
      match compose? p q with
      | some composed => takeMarks composed blocked t
      | none => if c = 0 then (p, q :: t) else leave c

/-- Makes one character of each letter and its marks, for at most so many code points. -/
def composeAll : (count : Nat) → Text → Text
  | 0, _ => []
  | _, [] => []
  | count + 1, p :: t =>
    match syllable? (p :: t) with
    | some (syllable, rest) => syllable :: composeAll count rest
    | none =>
      let (p, rest) := takeMarks p 0 t
      p :: composeAll count rest

end ApiKeys.Normal

/-- The text in normal form. -/
def ApiKeys.Text.normal (t : Text) : Text :=
  let parts := Normal.sorted (t.flatMap Normal.decompose)
  Normal.composeAll parts.length parts
