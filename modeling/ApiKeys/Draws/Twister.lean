/-!
# The Mersenne twister

The generator MT19937: 624 words of 32 bits, a linear recurrence that renews all of them at once,
and a tempering of each word that is given out. It is seeded from the limbs of a natural number.
-/

namespace ApiKeys

/-- The state of the generator: its words, and the position of the next one. -/
structure Twister where
  words : Array UInt32
  next : Nat

namespace Twister

/-- The number of words. -/
def size : Nat := 624

/-- The word at a position. -/
def word (words : Array UInt32) (i : Nat) : UInt32 := words.getD i 0

/-- A word mixed with its own two highest bits, as seeding uses it. -/
def mixed (w : UInt32) : UInt32 := w ^^^ (w >>> 30)

/-- The words that one number sets up. -/
def ofWord (seed : UInt32) : Array UInt32 :=
  (List.range (size - 1)).foldl
    (fun ws i => ws.push (1812433253 * mixed (word ws i) + UInt32.ofNat (i + 1))) #[seed]

/-- Goes on from position `i` to the next one; the first word repeats the last one each time
round. -/
def advance (words : Array UInt32) (i : Nat) : Array UInt32 × Nat :=
  if i + 1 < size then (words, i + 1)
  else (words.setIfInBounds 0 (word words (size - 1)), 1)

/-- Stirs the limbs of a key into the words. -/
def stirKey (key : Array UInt32) : Array UInt32 × Nat :=
  (List.range (max size key.size)).foldl
    (fun (words, i) k =>
      let j := k % key.size
      let w := (word words i ^^^ (mixed (word words (i - 1)) * 1664525)) + key.getD j 0 +
        UInt32.ofNat j
      advance (words.setIfInBounds i w) i)
    (ofWord 19650218, 1)

/-- Stirs the words among themselves. -/
def stirWords (start : Array UInt32 × Nat) : Array UInt32 × Nat :=
  (List.range (size - 1)).foldl
    (fun (words, i) _ =>
      let w := (word words i ^^^ (mixed (word words (i - 1)) * 1566083941)) - UInt32.ofNat i
      advance (words.setIfInBounds i w) i)
    start

/-- The 32-bit limbs of a number, lowest first; no limb for zero. -/
def limbs (n : Nat) : List UInt32 :=
  if h : n = 0 then [] else UInt32.ofNat n :: limbs (n / 0x100000000)
termination_by n
decreasing_by exact Nat.div_lt_self (Nat.pos_of_ne_zero h) (by decide)

/-- The generator that a number seeds. -/
def ofSeed (seed : Nat) : Twister :=
  let key := if seed = 0 then #[0] else (limbs seed).toArray
  ⟨(stirWords (stirKey key)).1.setIfInBounds 0 0x80000000, size⟩

/-- One step of the recurrence, at position `i`. -/
def renewWord (words : Array UInt32) (i : Nat) : Array UInt32 :=
  let y := (word words i &&& 0x80000000) ||| (word words ((i + 1) % size) &&& 0x7fffffff)
  let w := word words ((i + 397) % size) ^^^ (y >>> 1)
  words.setIfInBounds i (if y &&& 1 = 1 then w ^^^ 0x9908b0df else w)

/-- The tempering of a word that is given out. -/
def temper (y : UInt32) : UInt32 :=
  let y := y ^^^ (y >>> 11)
  let y := y ^^^ ((y <<< 7) &&& 0x9d2c5680)
  let y := y ^^^ ((y <<< 15) &&& 0xefc60000)
  y ^^^ (y >>> 18)

/-- The next word, and the generator after it. -/
def draw (t : Twister) : UInt32 × Twister :=
  if t.next < size then (temper (word t.words t.next), ⟨t.words, t.next + 1⟩)
  else
    let words := (List.range size).foldl renewWord t.words
    (temper (word words 0), ⟨words, 1⟩)

end Twister

end ApiKeys
