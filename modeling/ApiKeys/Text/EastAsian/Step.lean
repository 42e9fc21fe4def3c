import ApiKeys.Text.EastAsian.Plane
import ApiKeys.Text.Fault

/-!
# Steps of a code

Where the octets of a character are not always as many, a text is read in steps, each of which takes
some octets off the front and tells what they stand for, perhaps nothing. What comes before can make
a difference: it is kept as a state.
-/

namespace ApiKeys.EastAsian

/-- What the front of octets stands for. -/
inductive Step (σ : Type) where
  /-- A text for as many octets, and the state after them. -/
  | text (cs : List Char) (count : Nat) (state : σ)
  /-- More octets have to follow. -/
  | incomplete
  /-- As many octets stand for nothing. -/
  | illegal (count : Nat)
  /-- The set of characters that is called for cannot be read that way. -/
  | unreadable

/-- The step of a text that may be empty if there is none. -/
def Step.ofText {σ : Type} (cs : List Char) (count : Nat) (state : σ) (illegal : Nat) : Step σ :=
  if cs.isEmpty then .illegal illegal else .text cs count state

/-- The text of the octets that start at a position, the first of which have been read already. -/
def decodeFrom {σ : Type} (title : String) (step : σ → List UInt8 → Step σ) (position : Nat)
    (state : σ) (skip : Nat) : List UInt8 → Except DecodingFault Text
  | [] => .ok []
  | b :: s =>
    match skip with
    | n + 1 => decodeFrom title step (position + 1) state n s
    | 0 =>
      let fault := fun length reason =>
        .error (.octets ⟨title, b, position, length, reason ++ " multibyte sequence"⟩)
      match step state (b :: s) with
      | .text cs count next =>
        (decodeFrom title step (position + 1) next (count - 1) s).map (Text.ofChars cs ++ ·)
      | .incomplete => fault (s.length + 1) "incomplete"
      | .illegal count => fault count "illegal"
      | .unreadable => .error .unreadable

/-- The step of a code where a character takes one octet, or two of which the first is in some runs:
the characters of single octets, the runs, and the planes of the others. -/
def pairStep (single : UInt8 → Option Char) (leads : OctetRuns) (planes : List Plane) :
    Unit → List UInt8 → Step Unit
  | (), [] => .incomplete
  | (), a :: s =>
    match single a with
    | some c => .text [c] 1 ()
    | none =>
      if leads.has a then
        match s with
        | [] => .incomplete
        | b :: _ => .ofText (Plane.textIn planes a b) 2 () 1
      else .illegal 1

/-- The character of ASCII that an octet is. -/
def asciiChar? (b : UInt8) : Option Char :=
  if b < 0x80 then some (Char.ofNat b.toNat) else none

/-- The octets that are not in ASCII. -/
def beyondAscii : OctetRuns := [(0x80, 0xff)]

end ApiKeys.EastAsian
