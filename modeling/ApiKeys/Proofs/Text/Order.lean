import ApiKeys.Proofs.Text.Numeral
import Mathlib.Data.Char
import Mathlib.Data.List.Lex

/-!
# The order of numerals

Texts are compared from the front, character by character. Numerals of one width stand in the order
of their numbers (`Digits.fixed_lt_fixed_iff`), so a text that starts with one is compared by that
number first (`Digits.fixed_append_le_iff`). The digits of a fraction may be many or few: of two
runs of digits the one that comes first has no more millionths (`Digits.millionths_mono`).
-/

namespace ApiKeys

theorem cons_le_cons_iff {c d : Char} {x y : List Char} :
    c :: x ≤ d :: y ↔ c < d ∨ c = d ∧ x ≤ y := by
  rw [le_iff_lt_or_eq, le_iff_lt_or_eq, List.cons_lt_cons_iff, List.cons.injEq]
  tauto

theorem nil_le (x : List Char) : [] ≤ x := by
  cases x with
  | nil => exact le_refl _
  | cons c x => exact (List.nil_lt_cons c x).le

theorem not_cons_le_nil (c : Char) (x : List Char) : ¬ c :: x ≤ [] :=
  not_le.2 (List.nil_lt_cons c x)

theorem cons_le_cons_same_iff (c : Char) (x y : List Char) : c :: x ≤ c :: y ↔ x ≤ y := by
  rw [cons_le_cons_iff]
  simp

theorem append_le_append_iff {xs ys : List Char} (hlength : xs.length = ys.length)
    (x y : List Char) : xs ++ x ≤ ys ++ y ↔ xs < ys ∨ xs = ys ∧ x ≤ y := by
  induction xs generalizing ys with
  | nil =>
    cases ys with
    | nil => simp
    | cons b ys => cases hlength
  | cons a xs ih =>
    cases ys with
    | nil => cases hlength
    | cons b ys =>
      rw [List.cons_append, List.cons_append, cons_le_cons_iff, ih (Nat.succ.inj hlength),
        List.cons_lt_cons_iff, List.cons.injEq]
      tauto

namespace Digits

theorem value_cons (c : Char) (ds : List Char) :
    value (c :: ds) = 10 ^ ds.length * (c.toNat - '0'.toNat) + value ds := by
  rw [value, Nat.ofDigitChars_cons, Nat.ofDigitChars_eq_ofDigitChars_zero, Nat.mul_zero,
    Nat.zero_add]
  rfl

theorem lt_iff_of_isDigit {c d : Char} (hc : c.isDigit = true) (hd : d.isDigit = true) :
    c < d ↔ c.toNat - '0'.toNat < d.toNat - '0'.toNat := by
  have hlow : ∀ {c : Char}, c.isDigit = true → 48 ≤ c.toNat := by
    intro c hc
    simp only [Char.isDigit, Bool.and_eq_true, decide_eq_true_eq, ge_iff_le,
      UInt32.le_iff_toNat_le] at hc
    exact hc.1
  have hzero : '0'.toNat = 48 := rfl
  have hlowc := hlow hc
  have hlowd := hlow hd
  have hlt : c < d ↔ c.toNat < d.toNat := UInt32.lt_iff_toNat_lt
  rw [hlt, hzero]
  omega

theorem leading_digit_lt_iff {base a b u v : Nat} (hu : u < base) (hv : v < base) :
    base * a + u < base * b + v ↔ a < b ∨ a = b ∧ u < v := by
  rcases Nat.lt_trichotomy a b with hab | rfl | hab
  · have hstep : base * (a + 1) ≤ base * b := Nat.mul_le_mul_left base hab
    rw [Nat.mul_succ] at hstep
    omega
  · omega
  · have hstep : base * (b + 1) ≤ base * a := Nat.mul_le_mul_left base hab
    rw [Nat.mul_succ] at hstep
    omega

theorem value_lt_value_iff {xs ys : List Char} (hlength : xs.length = ys.length)
    (hx : ∀ c ∈ xs, c.isDigit = true) (hy : ∀ c ∈ ys, c.isDigit = true) :
    value xs < value ys ↔ xs < ys := by
  induction xs generalizing ys with
  | nil =>
    cases ys with
    | nil => simp
    | cons b ys => cases hlength
  | cons a xs ih =>
    cases ys with
    | nil => cases hlength
    | cons b ys =>
      obtain ⟨ha, hxs⟩ := List.forall_mem_cons.1 hx
      obtain ⟨hb, hys⟩ := List.forall_mem_cons.1 hy
      have hrest : xs.length = ys.length := Nat.succ.inj hlength
      have hsmall := value_lt hxs
      have hsmall' := value_lt hys
      have heq : a.toNat - '0'.toNat = b.toNat - '0'.toNat ↔ a = b := by
        refine ⟨fun h => ?_, fun h => by rw [h]⟩
        rw [← (digitChar_of_isDigit ha).2, h, (digitChar_of_isDigit hb).2]
      rw [← hrest] at hsmall'
      rw [value_cons, value_cons, ← hrest, leading_digit_lt_iff hsmall hsmall',
        List.cons_lt_cons_iff, ih hrest hxs hys, lt_iff_of_isDigit ha hb, heq]

/-! ## Numerals of a fixed width -/

theorem fixed_lt_fixed_iff {width m n : Nat} (hm : m < 10 ^ width) (hn : n < 10 ^ width) :
    fixed width m < fixed width n ↔ m < n := by
  rw [← value_lt_value_iff (by rw [length_fixed, length_fixed]) (isDigit_fixed _ _)
    (isDigit_fixed _ _), value_fixed_of_lt hm, value_fixed_of_lt hn]

theorem fixed_append_le_iff {width m n : Nat} (hm : m < 10 ^ width) (hn : n < 10 ^ width)
    (x y : List Char) : fixed width m ++ x ≤ fixed width n ++ y ↔ m < n ∨ m = n ∧ x ≤ y := by
  rw [append_le_append_iff (by rw [length_fixed, length_fixed]), fixed_lt_fixed_iff hm hn,
    fixed_inj hm hn]

/-! ## Fractions -/

@[simp] theorem leading_nil (width : Nat) : leading width [] = 0 := by
  induction width with
  | zero => rfl
  | succ w ih =>
    rw [leading, List.nil_append, List.take_replicate, Nat.min_self] at ih ⊢
    rw [List.replicate_succ, value_cons, ih]
    rfl

theorem leading_cons (width : Nat) (c : Char) (ds : List Char) :
    leading (width + 1) (c :: ds) =
      10 ^ width * (c.toNat - '0'.toNat) + leading width ds := by
  have hrest : (ds ++ List.replicate (width + 1) '0').take width =
      (ds ++ List.replicate width '0').take width := by
    rw [List.replicate_succ', ← List.append_assoc, List.take_append_of_le_length (by simp)]
  have hlength : ((ds ++ List.replicate width '0').take width).length = width := by simp
  rw [leading, List.cons_append, List.take_succ_cons, value_cons, hrest, hlength]
  rfl

/-- **Of two runs of digits the one that comes first spells no more**, however long they are. -/
theorem leading_mono (width : Nat) {xs ys : List Char} (hx : ∀ c ∈ xs, c.isDigit = true)
    (hy : ∀ c ∈ ys, c.isDigit = true) (hle : xs ≤ ys) : leading width xs ≤ leading width ys := by
  induction width generalizing xs ys with
  | zero => exact Nat.le_refl 0
  | succ w ih =>
    cases xs with
    | nil =>
      rw [leading_nil]
      exact Nat.zero_le _
    | cons a xs =>
      cases ys with
      | nil => exact absurd hle (not_cons_le_nil a xs)
      | cons b ys =>
        obtain ⟨ha, hxs⟩ := List.forall_mem_cons.1 hx
        obtain ⟨hb, hys⟩ := List.forall_mem_cons.1 hy
        rw [leading_cons, leading_cons]
        rcases cons_le_cons_iff.1 hle with hab | ⟨rfl, hrest⟩
        · exact ((leading_digit_lt_iff (leading_lt w hxs) (leading_lt w hys)).2
            (.inl ((lt_iff_of_isDigit ha hb).1 hab))).le
        · exact Nat.add_le_add_left (ih hxs hys hrest) _

theorem millionths_mono {xs ys : List Char} (hx : ∀ c ∈ xs, c.isDigit = true)
    (hy : ∀ c ∈ ys, c.isDigit = true) (hle : xs ≤ ys) : millionths xs ≤ millionths ys :=
  leading_mono 6 hx hy hle

end Digits

end ApiKeys
