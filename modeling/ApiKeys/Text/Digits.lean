/-!
# Digits

Numerals of a fixed width, with leading zeros, and their readers. `length_fixed` and `isDigit_fixed`
say that a fixed-width numeral is a run of digits of that width, and `take?_eq_some_iff` that
`take?` accepts exactly such a run in front of what is left.
-/

namespace ApiKeys.Digits

/-- The number that a run of decimal digits spells. -/
def value (ds : List Char) : Nat :=
  Nat.ofDigitChars 10 ds 0

/-- The last `width` decimal digits of a number. -/
def fixed : (width n : Nat) → List Char
  | 0, _ => []
  | width + 1, n => fixed width (n / 10) ++ [Nat.digitChar (n % 10)]

/-- The last `width` hexadecimal digits of a number. -/
def hex : (width n : Nat) → List Char
  | 0, _ => []
  | width + 1, n => hex width (n / 16) ++ [Nat.digitChar (n % 16)]

/-- The decimal numeral of a whole number, with a minus sign below zero. -/
def ofInt : Int → List Char
  | .ofNat n => Nat.toDigits 10 n
  | .negSucc n => '-' :: Nat.toDigits 10 (n + 1)

/-- Reads exactly `width` digits; what they spell and what is left. -/
def take? (width : Nat) (s : List Char) : Option (Nat × List Char) :=
  if (s.take width).length = width ∧ (s.take width).all Char.isDigit then
    some (value (s.take width), s.drop width)
  else none

/-- Reads one character that must be the given one; what is left. -/
def mark? (c : Char) : List Char → Option (List Char)
  | [] => none
  | d :: s => if d = c then some s else none

/-- The longest run of digits in front, and what is left. -/
def run (s : List Char) : List Char × List Char :=
  (s.takeWhile Char.isDigit, s.dropWhile Char.isDigit)

/-- The first six digits of a decimal fraction, as millionths. -/
def millionths (ds : List Char) : Nat :=
  value ((ds ++ List.replicate 6 '0').take 6)

/-! ## Laws -/

theorem value_concat (ds : List Char) (c : Char) :
    value (ds ++ [c]) = 10 * value ds + (c.toNat - '0'.toNat) := by
  simp [value, Nat.ofDigitChars, List.foldl_append]

theorem length_fixed (width n : Nat) : (fixed width n).length = width := by
  induction width generalizing n with
  | zero => rfl
  | succ w ih => simp [fixed, ih]

theorem toNat_digitChar_sub {d : Nat} (h : d < 10) : (Nat.digitChar d).toNat - '0'.toNat = d := by
  rw [Nat.toNat_digitChar_of_lt_ten h]
  show 48 + d - 48 = d
  omega

theorem isDigit_fixed (width n : Nat) : ∀ c ∈ fixed width n, c.isDigit = true := by
  induction width generalizing n with
  | zero => simp [fixed]
  | succ w ih =>
    intro c hc
    rcases List.mem_append.1 hc with hc | hc
    · exact ih _ c hc
    · rw [List.mem_singleton.1 hc, Nat.isDigit_digitChar]
      exact decide_eq_true (Nat.mod_lt _ (by decide))

theorem take?_append {ds rest : List Char} (h : ∀ c ∈ ds, c.isDigit = true) :
    take? ds.length (ds ++ rest) = some (value ds, rest) := by
  have hall : ds.all Char.isDigit = true := List.all_eq_true.2 h
  simp [take?, hall]

theorem take?_eq_some_iff {width v : Nat} {s rest : List Char} :
    take? width s = some (v, rest) ↔
      ∃ ds, ds.length = width ∧ (∀ c ∈ ds, c.isDigit = true) ∧ v = value ds ∧ s = ds ++ rest := by
  constructor
  · intro h
    simp only [take?] at h
    split at h
    · next hd =>
      simp only [Option.some.injEq, Prod.mk.injEq] at h
      exact ⟨s.take width, hd.1, List.all_eq_true.1 hd.2, h.1.symm, by
        rw [← h.2, List.take_append_drop]⟩
    · simp at h
  · rintro ⟨ds, rfl, hd, rfl, rfl⟩
    exact take?_append hd

theorem mark?_eq_some_iff {c : Char} {s rest : List Char} :
    mark? c s = some rest ↔ s = c :: rest := by
  cases s with
  | nil => simp [mark?]
  | cons d s =>
    by_cases h : d = c
    · simp [mark?, h]
    · simp [mark?, h]

theorem run_fst_append_snd (s : List Char) : (run s).1 ++ (run s).2 = s :=
  List.takeWhile_append_dropWhile

end ApiKeys.Digits
