import ApiKeys.Draws.Twister

/-!
# Sources of draws

A source gives draws of six bits, one after the other, until its supply is used up. What comes next
is decided by a generator; a source that is never meant to fail has a supply that no run exhausts.
`Draws.upcoming` lists all draws that a source still has.
-/

namespace ApiKeys

/-- A draw of six bits. -/
abbrev Draw := Fin 64

/-- What decides the draws of a source. -/
inductive Generator where
  /-- The draws of a list, from the start again at its end. -/
  | cycle (all rest : List Draw)
  /-- A linear congruential generator of 31 bits; a draw is six bits from bit 16 on. -/
  | congruential (state : Nat)
  /-- The six highest bits of each word of a Mersenne twister. -/
  | twister (t : Twister)

namespace Generator

/-- The next draw, and the generator after it. -/
def next : Generator → Draw × Generator
  | cycle all (d :: rest) => (d, cycle all rest)
  | cycle (d :: rest) [] => (d, cycle (d :: rest) rest)
  | cycle [] [] => (0, cycle [] [])
  | congruential s =>
    let s := (s * 1103515245 + 12345) % 0x80000000
    (Fin.ofNat 64 (s / 0x10000), congruential s)
  | twister t =>
    let (w, t) := t.draw
    (Fin.ofNat 64 (w >>> 26).toNat, twister t)

end Generator

/-- A source of draws: what decides them, and how many it still gives. -/
structure Draws where
  supply : Nat
  generator : Generator

namespace Draws

/-- More draws than any run takes. -/
def ample : Nat := 1000000000000000000

/-- A source that gives the draws of a list over and over. -/
def ofList (draws : List Draw) (supply : Nat) : Draws :=
  ⟨supply, .cycle draws draws⟩

/-- The draws that a generator gives next. -/
def take : (count : Nat) → Generator → List Draw
  | 0, _ => []
  | count + 1, g => g.next.1 :: take count g.next.2

/-- The draws that a source still has, in order. -/
def upcoming (s : Draws) : List Draw := take s.supply s.generator

end Draws

end ApiKeys
