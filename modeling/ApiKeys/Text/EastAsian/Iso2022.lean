import ApiKeys.Text.EastAsian.Chinese
import ApiKeys.Text.EastAsian.Japanese
import ApiKeys.Text.EastAsian.Korean

/-!
# ISO 2022

All octets are in ASCII. An escape sequence puts a set of characters in one of three places
(`named?`): the octets that follow stand for the characters of the set in the first place, or, in
one variant, for those of the second one between two control characters. A character of the third
place has an escape of its own. Other escape sequences stand for themselves.
-/

namespace ApiKeys.EastAsian

/-- The variants, each with sets of its own. -/
inductive Iso2022 where
  | jp
  | jp1
  | jp2
  | jp2004
  | jp3
  | jpExtended
  | kr
  deriving DecidableEq

namespace Iso2022

/-! ## Sets of characters -/

/-- How an escape sequence names a set: whether its characters are pairs, and the last octet. -/
structure Mark where
  paired : Bool
  last : UInt8
  deriving DecidableEq

/-- ASCII, which is in all places at first. -/
def Mark.ascii : Mark := ⟨false, 0x42⟩

/-- A set of characters. -/
inductive Chars where
  /-- The characters of single octets. -/
  | single (char? : UInt8 → Option Char)
  /-- The planes of pairs. -/
  | paired (planes : List Plane)

/-- A plane of 94 columns with rows from one to another. -/
def plane (first last : UInt8) (texts : Array (List Char)) : Plane :=
  ⟨[(first, last)], [(0x21, 0x7e)], texts⟩

/-- JIS X 0208, by either of its names. -/
def jisx0208Set : List (Mark × Chars) :=
  let chars := Chars.paired [plane 0x21 0x74 jisx0208]
  [(⟨true, 0x42⟩, chars), (⟨true, 0x40⟩, chars)]

/-- JIS X 0212. -/
def jisx0212Set : List (Mark × Chars) := [(⟨true, 0x44⟩, .paired [plane 0x22 0x6d jisx0212])]

/-- ASCII, but for two signs. -/
def romanSet : List (Mark × Chars) := [(⟨false, 0x4a⟩, .single romanChar?)]

/-- KS X 1001. -/
def ksx1001Set : List (Mark × Chars) := [(⟨true, 0x43⟩, .paired [plane 0x21 0x7d ksx1001])]

/-- The name of the set of western letters. -/
def latinMark : Mark := ⟨false, 0x41⟩

/-- The name of the set of Greek letters. -/
def greekMark : Mark := ⟨false, 0x46⟩

/-- The planes of JIS X 0213, of which the first is that of an edition, goes by the given octet, and
has a tilde in the place of a wide one. -/
def jisx0213Sets (e : Edition) (last : UInt8) : List (Mark × Chars) :=
  let jisx0208Plane := plane 0x21 0x74 jisx0208
  let second : Plane :=
    ⟨[(0x21, 0x21), (0x28, 0x28), (0x23, 0x25), (0x2c, 0x2f), (0x6e, 0x7e)], [(0x21, 0x7e)],
      jisx0213SecondOf .of2004⟩
  [(⟨true, 0x42⟩, .paired [jisx0208Plane]),
    (⟨true, last⟩,
      .paired [.part 0x2232 [.chars "~"], jisx0208Plane, plane 0x21 0x7e (jisx0213FirstOf e)]),
    (⟨true, 0x50⟩, .paired [second])]

/-- The sets of a variant, besides ASCII. Western and Greek letters are in the third place only. -/
def sets : Iso2022 → List (Mark × Chars)
  | jp => jisx0208Set ++ romanSet
  | jp1 => jisx0208Set ++ jisx0212Set ++ romanSet
  | jp2 =>
    jisx0208Set ++ jisx0212Set ++ romanSet ++ ksx1001Set ++
      [(⟨true, 0x41⟩, .paired [gb2312Shifted]), (latinMark, .single fun _ => none),
        (greekMark, .single fun _ => none)]
  | jp2004 => jisx0213Sets .of2004 0x51
  | jp3 => jisx0213Sets .of2000 0x4f
  | jpExtended =>
    jisx0208Set ++ jisx0212Set ++ romanSet ++
      [(⟨false, 0x49⟩, .single fun b => halfWidth? (b ^^^ 0x80))]
  | kr => ksx1001Set

/-! ## Escape sequences -/

/-- What has come before: the sets in three places, whether the second is in use, and whether an
escape sequence stands for itself. -/
structure State where
  first : Mark
  second : Mark
  third : Mark
  shifted : Bool
  literal : Bool

/-- Nothing has come before. -/
def State.start : State := ⟨.ascii, .ascii, .ascii, false, false⟩

/-- An octet ends an escape sequence. -/
def isEnd (b : UInt8) : Bool := 0x40 ≤ b && b ≤ 0x5a

/-- The most octets that an escape sequence has. -/
def limit : Nat := 16

/-- The number of octets of an escape sequence, of which so many have been read, and so many others
are not looked at; zero if there are too many, nothing if more have to follow. What is not looked at
is an escape in the sequence. -/
def escapeLength? (v : Iso2022) : (skip count : Nat) → List UInt8 → Option Nat
  | skip, count, [] => if count + skip < limit then none else some 0
  | skip + 1, count, _ :: s => escapeLength? v skip (count + 1) s
  | 0, count, b :: s =>
    if limit ≤ count then some 0
    else if isEnd b then some (count + 1)
    else escapeLength? v (if v ≠ kr ∧ b = 0x26 ∧ s.head? = some 0x40 then 2 else 0) (count + 1) s

/-- The place that an octet of an escape sequence names, and the state with a set in it. -/
def State.put? (v : Iso2022) (s : State) (place : UInt8) (m : Mark) : Option State :=
  if place = 0x28 then some { s with first := m }
  else if place = 0x29 then some { s with second := m }
  else if place = 0x2e ∧ v = jp2 ∧ ¬ m.paired then some { s with third := m }
  else none

/-- The set that an escape sequence names, and the octet that tells its place. -/
def named? (v : Iso2022) : List UInt8 → Option (UInt8 × Mark)
  | [_, 0x24, last] => some (0x28, ⟨true, last⟩)
  | [_, place, last] => some (place, ⟨false, last⟩)
  | [_, 0x24, place, last] => some (place, ⟨true, last⟩)
  | [_, _, _, 0x1b, 0x24, 0x42] => if v = kr then none else some (0x28, ⟨true, 0x42⟩)
  | _ => none

/-- The step over an escape sequence that puts a set in a place. -/
def putStep (v : Iso2022) (s : State) (octets : List UInt8) : Step State :=
  match escapeLength? v 0 1 (octets.drop 1) with
  | none => .incomplete
  | some 0 => .illegal 1
  | some count =>
    match named? v (octets.take count) with
    | none => .illegal count
    | some (place, m) =>
      match s.put? v place m with
      | none => .illegal count
      | some next =>
        if m = .ascii ∨ (v.sets.lookup m).isSome then .text [] count next else .illegal count

/-- The Greek letters by their octets. -/
def greek : Array (List Char) := Stretch.texts [
  .run 0 0xa1, .chars "‘’£", .gap 2, .chars "¦§\u00a8©", .gap 1, .chars "«¬\u00ad", .gap 1,
  .chars "―°±²³\u0384\u0385\u0386·\u0388\u0389\u038a»\u038c½", .run 0x38e 20, .gap 1, .run 0x3a3 44]

/-- The step over a character of the third place. -/
def thirdStep (s : State) (b : UInt8) : Step State :=
  let ofText := fun cs => .ofText cs 3 s 3
  if s.third = latinMark then ofText (if b < 0x80 then [Char.ofNat (b.toNat + 0x80)] else [])
  else if s.third = greekMark then ofText (greek.getD (b ^^^ 0x80).toNat [])
  else if s.third = .ascii then ofText (asciiChar? b).toList
  else .unreadable

/-! ## Steps -/

/-- The step over octets that stand for a character. -/
def charStep (v : Iso2022) (s : State) (a : UInt8) (octets : List UInt8) : Step State :=
  match v.sets.lookup (if s.shifted then s.second else s.first) with
  | none => .text [Char.ofNat a.toNat] 1 s
  | some (.single char?) => .ofText (char? a).toList 1 s 1
  | some (.paired planes) =>
    match octets with
    | [] => .incomplete
    | b :: _ => .ofText (Plane.textIn planes a b) 2 s 2

/-- The step of a variant. -/
def step (v : Iso2022) (s : State) : List UInt8 → Step State
  | [] => .incomplete
  | a :: octets =>
    let itself := fun next => .text [Char.ofNat a.toNat] 1 next
    if s.literal then itself { s with literal := !isEnd a }
    else if a = 0x1b then
      match octets with
      | [] => .incomplete
      | b :: rest =>
        if [0x24, 0x26, 0x28, 0x29, 0x2e].contains b then putStep v s (a :: octets)
        else if v = jp2 ∧ b = 0x4e then
          match rest with
          | [] => .incomplete
          | c :: _ => thirdStep s c
        else itself { s with literal := true }
    else if v = kr ∧ (a = 0x0e ∨ a = 0x0f) then .text [] 1 { s with shifted := a = 0x0e }
    else if a = 0x0a then itself { s with shifted := false }
    else if a < 0x20 then itself s
    else if a ≥ 0x80 then .illegal 1
    else charStep v s a octets

end Iso2022

end ApiKeys.EastAsian
