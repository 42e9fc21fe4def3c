import ApiKeys.Text.Digits
import Mathlib.Data.List.Induction
import Mathlib.Data.List.TakeWhile
import Mathlib.Tactic

/-!
# Numerals of a fixed width

A run of `width` digits and a number below `10 ^ width` are the same thing: `Digits.value` and
`Digits.fixed` undo each other (`value_fixed_of_lt`, `fixed_value`). So what `Digits.take?` reads is
the numeral of the number that it gives (`take?_eq_some_iff_fixed`).
-/

namespace ApiKeys.Digits

theorem digitChar_of_isDigit {c : Char} (h : c.isDigit = true) :
    c.toNat - '0'.toNat < 10 ∧ Nat.digitChar (c.toNat - '0'.toNat) = c := by
  simp only [Char.isDigit, Bool.and_eq_true, decide_eq_true_eq, ge_iff_le,
    UInt32.le_iff_toNat_le] at h
  have hlow : 48 ≤ c.toNat := h.1
  have hhigh : c.toNat ≤ 57 := h.2
  have hzero : '0'.toNat = 48 := rfl
  refine ⟨by omega, ?_⟩
  rw [← Char.toNat_inj, Nat.toNat_digitChar_of_lt_ten (by omega)]
  omega

theorem value_fixed (width n : Nat) : value (fixed width n) = n % 10 ^ width := by
  induction width generalizing n with
  | zero => simp [fixed, value, Nat.mod_one]
  | succ w ih =>
    rw [fixed, value_concat, ih, toNat_digitChar_sub (Nat.mod_lt _ (by decide)), pow_succ',
      Nat.mod_mul]
    omega

theorem value_fixed_of_lt {width n : Nat} (h : n < 10 ^ width) : value (fixed width n) = n := by
  rw [value_fixed, Nat.mod_eq_of_lt h]

theorem fixed_inj {width m n : Nat} (hm : m < 10 ^ width) (hn : n < 10 ^ width) :
    fixed width m = fixed width n ↔ m = n := by
  constructor
  · intro h
    have hvalue := congrArg value h
    rwa [value_fixed_of_lt hm, value_fixed_of_lt hn] at hvalue
  · rintro rfl
    rfl

theorem fixed_value {ds : List Char} (h : ∀ c ∈ ds, c.isDigit = true) :
    fixed ds.length (value ds) = ds := by
  induction ds using List.reverseRecOn with
  | nil => rfl
  | append_singleton ds c ih =>
    have hc := digitChar_of_isDigit (h c (by simp))
    have hds := ih fun d hd => h d (by simp [hd])
    rw [List.length_append, List.length_singleton, fixed, value_concat,
      show (10 * value ds + (c.toNat - '0'.toNat)) / 10 = value ds by omega,
      show (10 * value ds + (c.toNat - '0'.toNat)) % 10 = c.toNat - '0'.toNat by omega, hds, hc.2]

theorem value_lt {ds : List Char} (h : ∀ c ∈ ds, c.isDigit = true) :
    value ds < 10 ^ ds.length := by
  rw [← fixed_value h, value_fixed, length_fixed]
  exact Nat.mod_lt _ (by positivity)

/-- The number that the first digits of a run spell, with zeros where there are too few. -/
def leading (width : Nat) (ds : List Char) : Nat :=
  value ((ds ++ List.replicate width '0').take width)

theorem leading_lt (width : Nat) {ds : List Char} (h : ∀ c ∈ ds, c.isDigit = true) :
    leading width ds < 10 ^ width := by
  have hlength : ((ds ++ List.replicate width '0').take width).length = width := by simp
  have hdigits : ∀ c ∈ (ds ++ List.replicate width '0').take width, c.isDigit = true := by
    intro c hc
    rcases List.mem_append.1 (List.mem_of_mem_take hc) with hc | hc
    · exact h c hc
    · rw [List.eq_of_mem_replicate hc]
      rfl
  have hlt := value_lt hdigits
  rw [hlength] at hlt
  exact hlt

theorem millionths_lt {ds : List Char} (h : ∀ c ∈ ds, c.isDigit = true) :
    millionths ds < 1000000 :=
  leading_lt 6 h

theorem take?_eq_some_iff_fixed {width n : Nat} {s rest : List Char} :
    take? width s = some (n, rest) ↔ n < 10 ^ width ∧ s = fixed width n ++ rest := by
  rw [take?_eq_some_iff]
  constructor
  · rintro ⟨ds, rfl, hds, rfl, rfl⟩
    exact ⟨value_lt hds, by rw [fixed_value hds]⟩
  · rintro ⟨hn, rfl⟩
    exact ⟨fixed width n, length_fixed _ _, isDigit_fixed _ _, (value_fixed_of_lt hn).symm, rfl⟩

theorem run_append {ds rest : List Char} (hds : ∀ c ∈ ds, c.isDigit = true)
    (hrest : ∀ c, rest.head? = some c → c.isDigit = false) : run (ds ++ rest) = (ds, rest) := by
  induction ds with
  | nil =>
    cases rest with
    | nil => rfl
    | cons c rest => simp [run, hrest c rfl]
  | cons d ds ih =>
    have hd := hds d (by simp)
    have := ih fun c hc => hds c (by simp [hc])
    simp only [run, Prod.mk.injEq] at this ⊢
    simp [hd, this.1, this.2]

theorem isDigit_run (s : List Char) : ∀ c ∈ (run s).1, c.isDigit = true :=
  fun _ hc => List.mem_takeWhile_imp hc

end ApiKeys.Digits
