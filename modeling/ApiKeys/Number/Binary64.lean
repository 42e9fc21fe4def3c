/-!
# Rounding to binary64

A positive rational number is rounded to the nearest number with a significand of 53 bits and an
exponent of at least -1074, a tie to the even significand. Numbers stay exact pairs of significand
and exponent; they are not bounded above.
-/

namespace ApiKeys.Binary64

/-- The number `significand * 2 ^ exponent`. -/
structure Number where
  significand : Nat
  exponent : Int
  deriving DecidableEq

/-- The quotient `n / d` rounded to a whole number, a half to the even one. -/
def roundHalfEven (n d : Nat) : Nat :=
  let q := n / d
  let r := n % d
  if 2 * r < d ∨ 2 * r = d ∧ q % 2 = 0 then q else q + 1

/-- The quotient `n / d` rounded to a whole number, a half away from zero. -/
def roundHalfUp (n d : Nat) : Nat := (2 * n + d) / (2 * d)

/-- Numerator and denominator of `n / d` times `2 ^ (-e)`. -/
def scaled (n d : Nat) (e : Int) : Nat × Nat :=
  (n * Nat.pow 2 (-e).toNat, d * Nat.pow 2 e.toNat)

/-- The exponent that gives `n / d` a significand of 53 bits, or the least one. -/
def exponentOf (n d : Nat) : Int :=
  let e : Int := (Nat.log2 n : Int) - (Nat.log2 d : Int) - 52
  let (m, k) := scaled n d e
  max (if m / k < 0x10000000000000 then e - 1 else e) (-1074)

/-- The number nearest to `n / d`. -/
def nearest (n d : Nat) : Number :=
  if n = 0 then ⟨0, 0⟩
  else
    let e := exponentOf n d
    let (m, k) := scaled n d e
    ⟨roundHalfEven m k, e⟩

/-- A number with so many decades lies beyond the format, and one that lies so many decades below
the units is nearest to zero. -/
def decades : Nat := 400

/-- The number nearest to `digits * 10 ^ exponent`. Exponents count only as far as they make a
difference to numbers of the format. -/
def ofDecimal (digits : Nat) (exponent : Int) : Number :=
  let e : Int := max (-((decades + Nat.log2 digits : Nat) : Int)) (min exponent decades)
  nearest (digits * Nat.pow 10 e.toNat) (Nat.pow 10 (-e).toNat)

/-- A whole number that is rounded beyond the greatest finite number of the format. -/
def Beyond (n : Nat) : Prop := 0x3fffffffffffff * Nat.pow 2 970 ≤ n

instance (n : Nat) : Decidable (Beyond n) := by unfold Beyond; infer_instance

namespace Number

/-- The numerator of the number as a fraction. -/
def numerator (x : Number) : Nat := x.significand * Nat.pow 2 x.exponent.toNat

/-- The denominator of the number as a fraction. -/
def denominator (x : Number) : Nat := Nat.pow 2 (-x.exponent).toNat

end Number

end ApiKeys.Binary64
